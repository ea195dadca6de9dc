import Mathlib.Data.List.Basic
import ApiSurface.Proofs.Renaming
import ApiSurface.Proofs.Walks

/-!
# Readings of renamed classes

A renaming of all variables that keeps different names apart changes nothing in what is read of
classes but the names of the variables that are followed.
-/

namespace ApiSurface

def Sighting.rename (ρ : String → String) (s : Sighting) : Sighting :=
  ⟨s.className, s.followed.map ρ⟩

@[simp] theorem Sighting.className_rename (ρ : String → String) (s : Sighting) :
    (s.rename ρ).className = s.className := rfl

@[simp] theorem Sighting.followed_rename (ρ : String → String) (s : Sighting) :
    (s.rename ρ).followed = s.followed.map ρ := rfl

def Slot.rename (ρ : String → String) (s : Slot) : Slot :=
  ⟨s.property, s.type.rename ρ, s.environment.rename ρ, s.admitsNull⟩

def UnionCase.rename (ρ : String → String) (c : UnionCase) : UnionCase :=
  ⟨c.value, c.className, c.slots.map (Slot.rename ρ)⟩

def Shape.rename (ρ : String → String) : Shape → Shape
  | .enum constants => .enum constants
  | .members slots => .members (slots.map (Slot.rename ρ))
  | .union discriminator cases => .union discriminator (cases.map (UnionCase.rename ρ))

def ClassKind.rename (ρ : String → String) : ClassKind → ClassKind
  | .value decl method => .value (decl.rename ρ) (method.rename ρ)
  | .defined decl => .defined (decl.rename ρ)
  | kind => kind

def Registry.rename (ρ : String → String) (r : Registry) : Registry :=
  r.mapEntries fun _ followed => followed.map ρ

namespace Survey

def rename (ρ : String → String) (survey : Survey) : Survey :=
  { survey with classes := survey.classes.rename ρ }

/-- A reading with renamed variables where classes are met. -/
def renamedMet {α : Type} (ρ : String → String) (read : α × List Sighting) : α × List Sighting :=
  (read.1, read.2.map (Sighting.rename ρ))

theorem readEach_rename {α β : Type} {ρ : String → String}
    {read read' : α → Option (β × List Sighting)} {k : α → α} {as : List α}
    (h : ∀ a ∈ as, read' (k a) = (read a).map (renamedMet ρ)) :
    readEach read' (as.map k) = (readEach read as).map (renamedMet ρ) := by
  induction as with
  | nil => rfl
  | cons a as ih =>
    rw [List.map_cons, readEach, readEach, h a (by simp), ih fun a ha => h a (by simp [ha])]
    cases read a with
    | none => rfl
    | some got => cases readEach read as <;> simp [renamedMet]

variable (ρ : String → String) (survey : Survey)

theorem kind_rename (q : String) : (survey.rename ρ).kind q = (survey.kind q).rename ρ := by
  simp only [kind, rename, ClassCollection.class?_rename]
  split_ifs
  · rfl
  · rfl
  · cases survey.classes.class? q with
    | none => rfl
    | some decl =>
      simp only [Option.map_some, JavaClass.annotatedMethod?_rename]
      cases decl.annotatedMethod? valueType <;> rfl

theorem standIn_rename (q : String) : (survey.rename ρ).standIn q = survey.standIn q := by
  simp only [standIn, kind_rename]
  cases survey.kind q <;> rfl

theorem isValue_rename (q : String) : (survey.rename ρ).isValue q = survey.isValue q := by
  simp only [isValue, kind_rename]
  cases survey.kind q <;> rfl

/-! ## Slots -/

theorem names_rename (slots : List Slot) :
    Slot.names (slots.map (Slot.rename ρ)) = Slot.names slots := by
  simp [Slot.names, Slot.rename, Function.comp_def]

theorem addTo_rename (slots : List Slot) (slot : Slot) :
    Slot.addTo (slots.map (Slot.rename ρ)) (slot.rename ρ) =
      (Slot.addTo slots slot).map (Slot.rename ρ) := by
  have hproperty : (slot.rename ρ).property = slot.property := rfl
  simp only [Slot.addTo, names_rename, hproperty]
  split_ifs <;> simp

theorem addMember_rename (hidden : List String) (affixes : Affixes) (slots : List Slot)
    (env : TypeEnvironment) (member : BeanMember) :
    Slot.addMember hidden affixes (slots.map (Slot.rename ρ)) (env.rename ρ) (member.rename ρ) =
      (Slot.addMember hidden affixes slots env member).map (Slot.rename ρ) := by
  have hslot : Slot.ofMember affixes (env.rename ρ) (member.rename ρ) =
      (Slot.ofMember affixes env member).rename ρ := rfl
  have hname : (member.rename ρ).name = member.name := rfl
  simp only [Slot.addMember, hslot, hname, addTo_rename]
  split_ifs <;> rfl

variable {ρ} (hρ : Function.Injective ρ)

include hρ

theorem addSlots_rename (steps : Nat) (affixes : Affixes) (bound : BoundClass)
    (slots : List Slot) :
    (survey.rename ρ).addSlots steps affixes (bound.rename ρ) (slots.map (Slot.rename ρ)) =
      (survey.addSlots steps affixes bound slots).map (List.map (Slot.rename ρ)) := by
  induction steps generalizing affixes bound slots with
  | zero => rfl
  | succ steps ih =>
    have hclasses : (survey.rename ρ).classes = survey.classes.rename ρ := rfl
    rw [addSlots, addSlots, hclasses, ClassCollection.hierarchy_rename hρ]
    cases survey.classes.hierarchy bound with
    | error h => rfl
    | ok levels =>
      show List.foldlM _ _ (hierarchyMembers (levels.map (BoundClass.rename ρ))) = _
      rw [hierarchyMembers_rename, hiddenProperties_rename]
      refine foldlM_map_eq (fun slots m => ?_) _ _
      obtain ⟨env, member⟩ := m
      have hunwrapping : (member.rename ρ).unwrapping? = member.unwrapping? := rfl
      have htype : (member.rename ρ).type = member.type.rename ρ := rfl
      simp only [hunwrapping, htype]
      cases member.unwrapping? with
      | none => exact congrArg Except.ok (addMember_rename ρ _ _ _ _ _)
      | some unwrapping =>
        simp only [← JavaType.resolve_rename hρ, ClassCollection.bind?_rename hρ]
        cases survey.classes.bind? (member.type.resolve env) env with
        | error e => rfl
        | ok target =>
          cases target with
          | none => rfl
          | some target => exact ih (affixes.around unwrapping) target slots

theorem beanSlots_rename (decl : JavaClass) :
    (survey.rename ρ).beanSlots (decl.rename ρ) =
      (survey.beanSlots decl).map (List.map (Slot.rename ρ)) := by
  have hbound : (survey.rename ρ).unwrapBound = survey.unwrapBound := by
    have hsize : (survey.rename ρ).classes.size = survey.classes.size :=
      ClassCollection.size_rename ρ survey.classes
    have hsettings : (survey.rename ρ).settings = survey.settings := rfl
    rw [unwrapBound, hsize, hsettings, unwrapBound]
  rw [beanSlots, hbound]
  exact addSlots_rename survey hρ _ _ (.raw decl) []

theorem serializedSlots_rename (decl : JavaClass) :
    (survey.rename ρ).serializedSlots (decl.rename ρ) =
      (survey.serializedSlots decl).map (List.map (Slot.rename ρ)) := by
  have hraw : BoundClass.raw (decl.rename ρ) = (BoundClass.raw decl).rename ρ := rfl
  have hclasses : (survey.rename ρ).classes = survey.classes.rename ρ := rfl
  rw [serializedSlots, serializedSlots, hraw, hclasses, ClassCollection.hierarchy_rename hρ]
  cases survey.classes.hierarchy (.raw decl) with
  | error h => rfl
  | ok levels =>
    have hstep : ∀ slots (f : TypeEnvironment × JavaField),
        Slot.addTo (slots.map (Slot.rename ρ)) (.ofField (f.1.rename ρ) (f.2.rename ρ)) =
          (Slot.addTo slots (.ofField f.1 f.2)).map (Slot.rename ρ) :=
      fun slots f => addTo_rename ρ slots (.ofField f.1 f.2)
    show Except.ok _ = Except.ok _
    rw [Serialization.fields_rename, List.foldl_map]
    exact congrArg Except.ok (@List.foldl_hom _ _ _ (List.map (Slot.rename ρ)) _ _ _ [] hstep)

/-! ## Shapes -/

omit hρ in
theorem addUnionCase_rename {slotsOf slotsOf' : JavaClass → Except Halt (List Slot)}
    (hslots : ∀ decl, slotsOf' (decl.rename ρ) = (slotsOf decl).map (List.map (Slot.rename ρ)))
    {value : JavaClass → String} (hvalue : ∀ decl : JavaClass, value (decl.rename ρ) = value decl)
    (cases : List UnionCase) (subclass : Option JavaClass) :
    addUnionCase slotsOf' (cases.map (UnionCase.rename ρ)) value
        (subclass.map (JavaClass.rename ρ)) =
      (addUnionCase slotsOf cases value subclass).map (List.map (UnionCase.rename ρ)) := by
  cases subclass with
  | none => rfl
  | some subclass =>
    simp only [addUnionCase, Option.map_some, hslots, hvalue, JavaClass.name_rename]
    cases slotsOf subclass with
    | error h => rfl
    | ok slots => simp [Except.map, UnionCase.rename, pure, Except.pure, bind, Except.bind]

theorem beanCases_rename (decl : JavaClass) :
    (survey.rename ρ).beanCases (decl.rename ρ) =
      (survey.beanCases decl).map (List.map (UnionCase.rename ρ)) := by
  have hclasses : (survey.rename ρ).classes = survey.classes.rename ρ := rfl
  rw [beanCases, beanCases, hclasses, BeanUnion.subtypes_rename]
  cases BeanUnion.subtypes survey.classes decl with
  | error e => rfl
  | ok subtypes =>
    show List.foldlM _ _ subtypes = Except.map _ (List.foldlM _ _ subtypes)
    conv_lhs => rw [← List.map_id subtypes]
    refine foldlM_map_eq (g := List.map (UnionCase.rename ρ)) (fun cases subtype => ?_) subtypes []
    rw [id, ClassCollection.classOf?_rename]
    exact addUnionCase_rename (beanSlots_rename survey hρ) (fun _ => rfl) cases _

theorem permittedCases_rename (decl : JavaClass) :
    (survey.rename ρ).permittedCases (decl.rename ρ) =
      (survey.permittedCases decl).map (List.map (UnionCase.rename ρ)) := by
  rw [permittedCases, permittedCases, JavaClass.permittedSubclasses_rename]
  conv_lhs => rw [← List.map_id decl.permittedSubclasses]
  refine foldlM_map_eq (g := List.map (UnionCase.rename ρ)) (fun cases subclass => ?_)
    decl.permittedSubclasses []
  have hclass : (survey.rename ρ).classes.class? (id subclass) =
      (survey.classes.class? subclass).map (JavaClass.rename ρ) :=
    ClassCollection.class?_rename ρ survey.classes subclass
  rw [hclass]
  exact addUnionCase_rename (serializedSlots_rename survey hρ) (fun _ => rfl) cases _

theorem shape_rename (decl : JavaClass) :
    (survey.rename ρ).shape (decl.rename ρ) = (survey.shape decl).map (Shape.rename ρ) := by
  rw [shape, shape, JavaClass.form_rename]
  cases decl.form with
  | enum => exact congrArg (Except.ok ∘ Shape.enum) (decl.enumConstants_rename ρ)
  | bean =>
    simp only [beanSlots_rename survey hρ]
    cases survey.beanSlots decl <;> rfl
  | serialized =>
    simp only [serializedSlots_rename survey hρ]
    cases survey.serializedSlots decl <;> rfl
  | beanUnion info =>
    simp only [beanCases_rename survey hρ]
    cases BeanUnion.discriminator info with
    | error fault => rfl
    | ok discriminator => cases survey.beanCases decl <;> rfl
  | sealedUnion =>
    simp only [permittedCases_rename survey hρ]
    cases survey.permittedCases decl <;> rfl

/-! ## Types -/

/-- What a type stands for does not depend on the names of variables. -/
theorem reading_rename (env : TypeEnvironment) (followed : List String) (t : JavaType) :
    (survey.rename ρ).reading (env.rename ρ) (followed.map ρ) (t.rename ρ) =
      (survey.reading env followed t).map (renamedMet ρ) := by
  have hclasses : (survey.rename ρ).classes = survey.classes.rename ρ := rfl
  -- A variable leads to its binding, which is no part of it, but one variable less is left then.
  induction hsteps : env.unfollowed followed using Nat.strongRecOn generalizing followed t with
  | ind steps ih =>
    induction t using JavaType.induct with
    | basic name =>
      simp only [JavaType.rename, reading, hclasses, ClassCollection.builtin?_rename,
        standIn_rename]
      cases survey.classes.builtin? name <;> rfl
    | array element ihElement =>
      simp only [JavaType.rename, reading, ihElement]
      cases survey.reading env followed element <;> rfl
    | parameterized base arguments ihBase ihArguments =>
      simp only [JavaType.rename, JavaType.renameAll_eq_map, reading, readingAll_eq_readEach,
        readEach_rename ihArguments]
      cases readEach (survey.reading env followed) arguments with
      | none => rfl
      | some read =>
        obtain ⟨ts, met⟩ := read
        simp only [renamedMet, Option.map_some, Option.bind_eq_bind, Option.bind_some, hclasses,
          ClassCollection.container?_rename]
        cases survey.classes.container? base ts with
        | some t => rfl
        | none =>
          simp only [ihBase]
          cases survey.reading env followed base <;> simp [renamedMet]
    | var name =>
      simp only [JavaType.rename, reading_var, TypeEnvironment.lookup_rename hρ]
      cases hbound : env.lookup name with
      | none => rfl
      | some bound =>
        simp only [Option.map_some, JavaType.rename_eq_var_iff hρ,
          List.mem_map_of_injective hρ]
        split_ifs with hself hfollowed
        · rfl
        · rfl
        · exact ih _ (hsteps ▸ TypeEnvironment.unfollowed_cons_lt hbound hfollowed) _ bound rfl
    | wildcard upper lower ihUpper ihLower =>
      cases lower with
      | some lower => simpa [JavaType.rename, reading] using ihLower lower rfl
      | none =>
        cases upper with
        | some upper => simpa [JavaType.rename, reading] using ihUpper upper rfl
        | none => simp [JavaType.rename, reading, renamedMet]
    | inner outer name _ => simp [JavaType.rename, reading]

/-! ## Entries -/

theorem readSlot_rename (followed : List String) (slot : Slot) :
    (survey.rename ρ).readSlot (followed.map ρ) (slot.rename ρ) =
      (survey.readSlot followed slot).map (renamedMet ρ) := by
  simp only [readSlot, Slot.rename, reading_rename survey hρ]
  cases survey.reading slot.environment followed slot.type <;> rfl

theorem readClass_rename (followed : List String) (name : String) (slots : List Slot) :
    (survey.rename ρ).readClass (followed.map ρ) name (slots.map (Slot.rename ρ)) =
      (survey.readClass followed name slots).map (renamedMet ρ) := by
  simp only [readClass, readEach_rename fun slot _ => readSlot_rename survey hρ followed slot]
  cases readEach (survey.readSlot followed) slots <;> rfl

theorem readCase_rename (followed : List String) (c : UnionCase) :
    (survey.rename ρ).readCase (followed.map ρ) (c.rename ρ) =
      (survey.readCase followed c).map (renamedMet ρ) := by
  have hname : (survey.rename ρ).nameOf c.className = survey.nameOf c.className := rfl
  simp only [readCase, UnionCase.rename, hname, readClass_rename survey hρ]
  cases survey.readClass followed (survey.nameOf c.className) c.slots <;> rfl

theorem readShape_rename (followed : List String) (name : String) (shape : Shape) :
    (survey.rename ρ).readShape (followed.map ρ) name (shape.rename ρ) =
      (survey.readShape followed name shape).map (renamedMet ρ) := by
  cases shape with
  | enum constants => rfl
  | members slots =>
    simp only [Shape.rename, readShape, readClass_rename survey hρ]
    cases survey.readClass followed name slots <;> rfl
  | union discriminator cases =>
    simp only [Shape.rename, readShape,
      readEach_rename fun c _ => readCase_rename survey hρ followed c]
    cases readEach (survey.readCase followed) cases <;> rfl

/-- What a class gets does not depend on the names of variables. -/
theorem entryAt?_rename (s : Sighting) :
    (survey.rename ρ).entryAt? (s.rename ρ) = (survey.entryAt? s).map (renamedMet ρ) := by
  obtain ⟨q, followed⟩ := s
  simp only [entryAt?, Sighting.rename, kind_rename]
  cases survey.kind q with
  | imported => rfl
  | blackBox => rfl
  | unknown => rfl
  | value decl method =>
    have htype : (method.rename ρ).returnType = method.returnType.rename ρ := rfl
    simp only [ClassKind.rename, JavaClass.methodEnvironment_rename hρ, htype,
      reading_rename survey hρ]
    cases survey.reading (decl.methodEnvironment method) followed method.returnType <;> rfl
  | defined decl =>
    have hname : (survey.rename ρ).nameOf q = survey.nameOf q := rfl
    simp only [ClassKind.rename, shape_rename survey hρ, hname]
    cases survey.shape decl with
    | error h => rfl
    | ok shape => exact readShape_rename survey hρ followed _ shape

/-! ## Walks -/

/-- A walk goes the same way with other names of variables. -/
theorem Walk.rename {survey : Survey} {r r' : Registry} {met : List Sighting}
    (h : survey.Walk r met r') :
    (survey.rename ρ).Walk (r.rename ρ) (met.map (Sighting.rename ρ)) (r'.rename ρ) := by
  induction h with
  | done r => exact .done _
  | known hknown _ ih => exact .known (by simpa [Registry.rename] using hknown) ih
  | @enter r _ _ s entry met rest hnew hkind hentry _ _ ihmet ih =>
    have hentry' := entryAt?_rename survey hρ s
    rw [hentry] at hentry'
    exact .enter (by simpa [Registry.rename] using hnew)
      ((isValue_rename ρ survey _).trans hkind) hentry'
      (by simpa [Registry.rename] using ihmet) ih
  | @leave r _ _ s entry met rest hnew hkind hentry _ _ ihmet ih =>
    have hentry' := entryAt?_rename survey hρ s
    rw [hentry] at hentry'
    exact .leave (by simpa [Registry.rename] using hnew)
      ((isValue_rename ρ survey _).trans hkind) hentry' ihmet
      (by simpa [Registry.rename] using ih)

theorem entryIn_rename (r : Registry) (name : String) :
    (survey.rename ρ).entryIn (r.rename ρ) name = survey.entryIn r name := by
  have hfind : (r.rename ρ).entries.find? (fun e => (survey.rename ρ).nameOf e.1 == name) =
      (r.entries.find? fun e => survey.nameOf e.1 == name).map
        fun e => (e.1, e.2.map ρ) := by
    rw [Registry.rename, NameMap.mapEntries, List.find?_map]
    rfl
  simp only [entryIn, hfind]
  cases r.entries.find? (fun e => survey.nameOf e.1 == name) with
  | none => rfl
  | some e =>
    have hentry := entryAt?_rename survey hρ ⟨e.1, e.2⟩
    simp only [Option.map_some]
    rw [Sighting.rename] at hentry
    rw [hentry]
    cases survey.entryAt? ⟨e.1, e.2⟩ <;> rfl

end Survey

end ApiSurface
