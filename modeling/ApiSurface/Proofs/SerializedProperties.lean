import ApiSurface.Proofs.FirstMembers
import ApiSurface.Proofs.Registrations

/-!
# Serializable classes

A class that is marked serializable is described by the fields that are written out, on all levels
of its hierarchy that are marked too. Of the fields that are written under one name the first gives
the property its type.
-/

namespace ApiSurface

/-! ## Types that admit null -/

namespace ApiType

/-- Nowhere in the type null is admitted twice. -/
def NullsOnce : ApiType → Prop
  | .nullable inner => inner.isNullable = false ∧ inner.NullsOnce
  | .array inner | .dictionary inner => inner.NullsOnce
  | .blackBox _ | .reference _ | .primitive _ => True

theorem NullsOnce.orNull {t : ApiType} (h : t.NullsOnce) : t.orNull.NullsOnce := by
  cases t with
  | nullable inner => exact h
  | _ => exact ⟨rfl, h⟩

@[simp] theorem withoutNull_orNull (t : ApiType) : t.orNull.withoutNull = t.withoutNull := by
  cases t <;> rfl

end ApiType

namespace Survey

/-- What a type stands for admits null once at most. -/
theorem nullsOnce_reading {survey : Survey} {env : TypeEnvironment} {followed : List String}
    {type : JavaType} {t : ApiType} {met : List Sighting}
    (h : survey.reading env followed type = some (t, met)) : t.NullsOnce := by
  refine reading_induct (motive := fun _ _ t => t.NullsOnce) ?builtin ?sighted ?array ?container
    ?generic ?free ?bound ?lower ?upper ?unbounded h
  case builtin =>
    intro _ name t hbuiltin
    exact ClassCollection.of_builtin? trivial trivial (fun _ => trivial)
      (fun _ => ⟨rfl, trivial⟩) hbuiltin
  case sighted =>
    intro _ name
    unfold standIn
    split <;> trivial
  case array => exact fun _ _ _ ht => ht
  case container =>
    intro _ base arguments ts t hts hcontainer
    have harguments : ∀ u ∈ ts, u.NullsOnce := by
      intro u hu
      obtain ⟨_, -, hnulls⟩ := hts u hu
      exact hnulls
    exact ClassCollection.of_container? harguments (fun u hu => (harguments u hu).orNull)
      harguments hcontainer
  case generic => exact fun _ _ _ _ _ _ _ _ ht => ht
  case bound => exact fun _ _ _ _ _ _ ht => ht
  case lower => exact fun _ _ _ _ ht => ht
  case upper => exact fun _ _ _ ht => ht
  -- An unbound variable and an unbounded wildcard can be anything.
  all_goals
    intros
    trivial

end Survey

namespace Slot

theorem nullsOnce_typed {slot : Slot} {t : ApiType} (h : t.NullsOnce) :
    (slot.typed t).NullsOnce := by
  unfold typed
  split_ifs
  · exact h.orNull
  · exact h

theorem withoutNull_typed (slot : Slot) (t : ApiType) :
    (slot.typed t).withoutNull = t.withoutNull := by
  cases hnull : slot.admitsNull <;> simp [typed, hnull]

theorem isNullable_typed (slot : Slot) (t : ApiType) :
    (slot.typed t).isNullable = true ↔ t.isNullable = true ∨ slot.admitsNull = true := by
  cases hnull : slot.admitsNull <;> simp [typed, hnull]

end Slot

/-! ## Fields -/

/-- One of the annotations is of the type. -/
def Marked (annotations : List AnnotationUse) (type : String) : Prop :=
  ∃ a ∈ annotations, a.name = type

theorem isMarked_iff (annotations : List AnnotationUse) (type : String) :
    Serialization.isMarked annotations type = true ↔ Marked annotations type :=
  AnnotationUse.find?_isSome_iff annotations type

/-- The class is marked serializable, and writes the field under the name: the field belongs to
instances and to the source, and is not marked transient. -/
structure JavaClass.Writes (property : String) (decl : JavaClass) (field : JavaField) : Prop where
  marked : Marked decl.annotations Serialization.serializable
  ofInstance : field.access.isStatic = false
  ofSource : field.access.isSynthetic = false
  kept : ¬ Marked field.annotations Serialization.transient
  name : Serialization.fieldName field = property

/-- Null is admitted by a marker, by the declaration, or since the field may be left out. -/
def JavaField.AdmitsNull (field : JavaField) : Prop :=
  (∃ a ∈ field.annotations, a.name ∈ nullMarkers) ∨ field.isNullable = true ∨
    field.hasDefault = true ∧ ¬ Marked field.annotations Serialization.required

theorem JavaClass.writes_iff (property : String) (decl : JavaClass) (field : JavaField) :
    decl.Writes property field ↔
      (Serialization.isSerializable decl && Serialization.isSerialized field) = true ∧
        Serialization.fieldName field = property := by
  have hmarked := isMarked_iff decl.annotations Serialization.serializable
  have hkept := isMarked_iff field.annotations Serialization.transient
  simp only [Serialization.isSerializable, Serialization.isSerialized, Bool.and_eq_true,
    Bool.not_eq_true', ← Bool.not_eq_true, hmarked, hkept]
  constructor
  · intro h
    exact ⟨⟨h.marked, ⟨by simp [h.ofInstance], by simp [h.ofSource]⟩, h.kept⟩, h.name⟩
  · intro h
    obtain ⟨⟨hserializable, ⟨hstatic, hsynthetic⟩, htransient⟩, hname⟩ := h
    exact ⟨hserializable, by simpa using hstatic, by simpa using hsynthetic, htransient, hname⟩

theorem Slot.admitsNull_ofField (env : TypeEnvironment) (field : JavaField) :
    (Slot.ofField env field).admitsNull = true ↔ field.AdmitsNull := by
  simp only [Slot.ofField, Serialization.mayBeNull, Bool.or_eq_true, Bool.and_eq_true,
    Bool.not_eq_true', ← Bool.not_eq_true, AnnotationUse.anyOf_iff, isMarked_iff,
    JavaField.AdmitsNull]

namespace Serialization

/-- The fields that are written, level by level. -/
theorem fields_eq (levels : List BoundClass) :
    fields levels = levels.flatMap fun level =>
      (level.decl.fields.filter fun f => isSerializable level.decl && isSerialized f).map
        fun f => (level.environment, f) := by
  induction levels with
  | nil => rfl
  | cons level levels ih =>
    rw [List.flatMap_cons, ← ih]
    cases hmarked : isSerializable level.decl <;> simp [fields, hmarked]

theorem exists_fields_iff (levels : List BoundClass) (property : String) :
    (∃ f ∈ fields levels, fieldName f.2 = property) ↔
      ∃ level ∈ levels, ∃ field ∈ level.decl.fields, level.decl.Writes property field := by
  simp only [fields_eq, JavaClass.writes_iff, List.mem_flatMap, List.mem_map, List.mem_filter]
  constructor
  · intro hgiven
    obtain ⟨_, ⟨level, hlevel, field, ⟨hfield, hwritten⟩, rfl⟩, hname⟩ := hgiven
    exact ⟨level, hlevel, field, hfield, hwritten, hname⟩
  · intro hgiven
    obtain ⟨level, hlevel, field, hfield, hwritten, hname⟩ := hgiven
    exact ⟨_, ⟨level, hlevel, field, ⟨hfield, hwritten⟩, rfl⟩, hname⟩

/-- The first field that is written under a name. -/
theorem exists_firstMember_of_fields {levels : List BoundClass} {property : String}
    {f : TypeEnvironment × JavaField}
    (h : (fields levels).find? (fun f => fieldName f.2 == property) = some f) :
    ∃ level field, FirstMember JavaClass.fields (JavaClass.Writes property) levels level field ∧
      (level.environment, field) = f := by
  rw [fields_eq] at h
  refine (find?_members_eq_some_iff (fun decl f => isSerializable decl && isSerialized f)
    fun level field => ?_).mp h
  rw [JavaClass.writes_iff, beq_iff_eq]

end Serialization

namespace Survey

open Serialization

variable {survey : Survey} {decl : JavaClass} {definition : ClassDefinition}
  {followed : List String}

/-- The slots of a serializable class are those of the fields that its hierarchy writes. -/
theorem serializedSlots_eq_ok_iff {slots : List Slot} :
    survey.serializedSlots decl = .ok slots ↔
      ∃ levels, survey.classes.hierarchy (.raw decl) = .ok levels ∧
        slots = Slot.gather ((fields levels).map fun f => .ofField f.1 f.2) := by
  unfold serializedSlots
  cases survey.classes.hierarchy (.raw decl) with
  | error h => exact ⟨nofun, by rintro ⟨_, ⟨⟩, _⟩⟩
  | ok levels =>
    have hfold : Slot.gather ((fields levels).map fun f => .ofField f.1 f.2) =
        (fields levels).foldl (fun slots f => Slot.addTo slots (.ofField f.1 f.2)) [] := by
      rw [Slot.gather, List.foldl_map]
    constructor
    · rintro ⟨⟩
      exact ⟨levels, rfl, hfold.symm⟩
    · rintro ⟨_, ⟨⟩, rfl⟩
      rw [hfold]
      rfl

/-- A definition that has a property for each name that a field of the hierarchy is written under.
The first field of the name gives it the type; null is admitted if this type or the field
admits it. -/
structure SerializedBy (survey : Survey) (levels : List BoundClass) (followed : List String)
    (definition : ClassDefinition) : Prop where
  names : ∀ property, definition.has property = true ↔
    ∃ level ∈ levels, ∃ field ∈ level.decl.fields, level.decl.Writes property field
  types : ∀ property t, definition.properties.get? property = some t →
    ∃ level field u met,
      FirstMember JavaClass.fields (JavaClass.Writes property) levels level field ∧
      survey.reading level.environment followed field.type = some (u, met) ∧
      t.withoutNull = u.withoutNull ∧
      (t.isNullable = true ↔ u.isNullable = true ∨ field.AdmitsNull) ∧ t.NullsOnce

theorem serializedBy_of_readClass {levels : List BoundClass} {name : String} {met : List Sighting}
    (h : survey.readClass followed name
      (Slot.gather ((fields levels).map fun f => .ofField f.1 f.2)) = some (definition, met)) :
    survey.SerializedBy levels followed definition where
  names property := by
    rw [has_iff_of_readClass h, Slot.mem_names_gather, ← exists_fields_iff]
    simp [Slot.ofField]
  types property t ht := by
    obtain ⟨properties, hread, rfl⟩ := readClass_eq_some_iff.mp h
    obtain ⟨slot, hslot, rfl, u, met, hu, rfl⟩ := mem_of_readSlots hread (mem_ofList ht)
    have hfirst := Slot.find?_of_mem_gather hslot
    rw [List.find?_map, Option.map_eq_some_iff] at hfirst
    obtain ⟨f, hf, rfl⟩ := hfirst
    obtain ⟨level, field, hfirst, rfl⟩ := exists_firstMember_of_fields hf
    exact ⟨level, field, u, met, hfirst, hu, Slot.withoutNull_typed _ u,
      by rw [Slot.isNullable_typed, Slot.admitsNull_ofField],
      Slot.nullsOnce_typed (nullsOnce_reading hu)⟩

open Describing

/-- Defining a class leaves it with the members that it was defined by. -/
theorem yields_define_entry {name : String} {slots : Except Halt (List Slot)} {d : Description}
    {act : Describing ClassDefinition} (h : survey.Defines name slots act) :
    Yields (define name act) d fun _ after => ∃ s definition met, slots = .ok s ∧
      survey.readClass d.followed name s = some (definition, met) ∧
      after.api.classes.get? name = some definition := by
  refine yields_bind (yields_addClass _) ?_
  intro _ _ hafter
  subst hafter
  refine yields_bind (h _) ?_
  intro c d₂ hpost
  obtain ⟨s, hs, met, hclass, -⟩ := hpost
  refine (yields_completeClass c).imp ?_
  intro _ _ hafter
  subst hafter
  have hname : c.name = name := by
    obtain ⟨_, -, rfl⟩ := readClass_eq_some_iff.mp hclass
    rfl
  exact ⟨s, c, met, hs, hclass, by simp [Description.withClass, hname]⟩

/-- If the description of a serializable class, neither an enum nor sealed, registers a definition
for it, then this has exactly a property for each name that the fields of its hierarchy are written
under, and each has the type of the first field of its name. -/
theorem serialized_exact (survey : Survey) {q : String} {decl : JavaClass} {depth : Nat}
    {env : TypeEnvironment} {t : ApiType} {d after : Description} {definition : ClassDefinition}
    (hclass : survey.classes.class? q = some decl)
    (hmarked : Marked decl.annotations serializable) (henum : decl.isEnum = false)
    (hsealed : decl.isSealed = false)
    (hrun : run (survey.describeTo depth (.basic q) env) d = (.ok t, after))
    (hfree : d.api.defines (survey.nameOf q) = false)
    (hdefined : after.api.classes.get? (survey.nameOf q) = some definition) :
    definition.name = survey.nameOf q ∧ ∃ levels,
      survey.classes.hierarchy (.raw decl) = .ok levels ∧
        survey.SerializedBy levels d.followed definition := by
  have hdefines : after.api.defines (survey.nameOf q) = true := by
    simp [ApiDefinition.defines, NameMap.contains, hdefined]
  obtain ⟨decl', inner, between, hkind, hname, hregister⟩ :=
    exists_registration hrun hfree hdefines
  obtain rfl : decl = decl' :=
    Option.some.inj (hclass.symm.trans (class?_of_kind_defined hkind))
  have hform : decl.form = .serialized := by
    rw [← isMarked_iff] at hmarked
    simp [JavaClass.form, henum, isSerializable, hmarked, hsealed]
  rw [hform] at hregister
  obtain ⟨slots, registered, met, hslots, hread, hentry⟩ := yields_define_entry
    (defines_serializedDefinition (tells_describeTo inner) decl _) () after hregister
  obtain rfl := Option.some.inj (hdefined.symm.trans hentry)
  obtain ⟨levels, hlevels, rfl⟩ := serializedSlots_eq_ok_iff.mp hslots
  rw [(api_of_displayName hname).2] at hread
  have hname : definition.name = survey.nameOf q := by
    obtain ⟨_, -, rfl⟩ := readClass_eq_some_iff.mp hread
    rfl
  exact ⟨hname, levels, hlevels, serializedBy_of_readClass hread⟩

/-- A class that is marked serializable. -/
def serializableClass (name : String) (superclass : JavaType) (fields : List JavaField) :
    JavaClass :=
  ⟨name, ⟨1⟩, .empty, some superclass, [], [.mk serializable []], fields, [], [], []⟩

/-- Two marked levels. The derived class renames one field to the name of another, and leaves one
out; of two fields with a default it requires one. The field of the base with the name of one of
these has no say, and another one there may be null. -/
def serializedOrder : Survey :=
  ⟨.ofClasses [
    serializableClass "Order" (.basic "Base")
      [⟨"id", .basic "long", ⟨2⟩, [.mk serialName [("value", .string "key")]], false, false⟩,
        ⟨"key", .basic "java.lang.String", ⟨2⟩, [], false, false⟩,
        ⟨"note", .basic "java.lang.String", ⟨2⟩, [], false, true⟩,
        ⟨"code", .basic "java.lang.String", ⟨2⟩, [.mk required []], false, true⟩,
        ⟨"cache", .basic "java.lang.String", ⟨2⟩, [.mk transient []], false, false⟩],
    serializableClass "Base" .object
      [⟨"note", .basic "int", ⟨2⟩, [], false, false⟩,
        ⟨"owner", .basic "java.util.OptionalInt", ⟨2⟩, [], true, false⟩,
        ⟨"place", .basic "java.lang.String", ⟨2⟩,
          [.mk "org.springframework.lang.Nullable" []], false, false⟩]], .empty⟩

theorem serialized_exact_order :
    ∃ after definition, run (serializedOrder.describe (.basic "Order") .empty) .empty =
        (.ok (.reference "Order"), after) ∧
      after.api.classes.get? "Order" = some definition ∧
      definition.properties.entries = [("code", .string), ("key", .integer),
        ("note", .nullable .string), ("owner", .nullable .integer),
        ("place", .nullable .string)] ∧
      ∃ levels, serializedOrder.SerializedBy levels [] definition := by
  let act := serializedOrder.describe (.basic "Order") .empty
  have hrun : run act .empty = (.ok (.reference "Order"), (run act .empty).2) :=
    run_eq_of_fst (by decide +kernel)
  have hentries : ((run act .empty).2.api.classes.get? "Order").map (·.properties.entries) =
      some [("code", .string), ("key", .integer), ("note", .nullable .string),
        ("owner", .nullable .integer), ("place", .nullable .string)] := by decide +kernel
  obtain ⟨definition, hdefined, hentries⟩ := Option.map_eq_some_iff.mp hentries
  have hmarked : Marked [.mk serializable []] serializable :=
    ⟨_, List.mem_singleton_self _, rfl⟩
  obtain ⟨-, levels, -, hserialized⟩ :=
    serialized_exact serializedOrder rfl hmarked rfl rfl hrun rfl hdefined
  exact ⟨_, definition, hrun, hdefined, hentries, levels, hserialized⟩

end Survey

end ApiSurface
