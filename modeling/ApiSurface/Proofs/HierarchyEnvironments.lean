import Mathlib.Logic.Relation
import ApiSurface.Proofs.ClassKind
import ApiSurface.Proofs.Composition
import ApiSurface.Proofs.SignatureRoundTrip

/-!
# Environments along a hierarchy

The environment of a class above another one says what the arguments mean that the class below
gives. So a type is resolved there as it is below, once the arguments stand in it for the variables
of the class above.
-/

namespace ApiSurface

open Signature

namespace TypeEnvironment

theorem lookup_zip {names : List String} {arguments : List JavaType}
    (h : arguments.length ≤ names.length) (v : String) :
    (names.zip arguments).lookup v = arguments[names.idxOf v]? := by
  induction names generalizing arguments with
  | nil => simp [List.length_eq_zero_iff.mp (Nat.le_zero.mp h)]
  | cons name names ih =>
    cases arguments with
    | nil => simp
    | cons argument arguments =>
      by_cases hv : v = name
      · simp [hv]
      · have hb : (v == name) = false := by simp [hv]
        simp only [List.zip_cons_cons, List.lookup_cons, hb, List.idxOf_cons_ne _ (Ne.symm hv),
          ih (Nat.le_of_succ_le_succ h), List.getElem?_cons_succ]

theorem assigned_cons (b : String × JavaType) (bindings : List (String × JavaType)) (v : String) :
    assigned ⟨b :: bindings⟩ v = if v = b.1 then b.2 else assigned ⟨bindings⟩ v := by
  obtain ⟨name, bound⟩ := b
  by_cases hv : v = name
  · simp [assigned, lookup, hv]
  · have hb : (v == name) = false := by simp [hv]
    simp [assigned, lookup, List.lookup_cons, hv, hb]

theorem assigned_of_not_mem {bindings : List (String × JavaType)} {v : String}
    (h : v ∉ bindings.map Prod.fst) : assigned ⟨bindings⟩ v = .var v := by
  rw [assigned, lookup_eq_none_iff.mpr h, Option.getD_none]

/-- A variable that is bound once, and to itself, stands for itself without the binding, too. -/
theorem assigned_ofBindings {bindings : List (String × JavaType)}
    (h : (bindings.map Prod.fst).Nodup) (v : String) :
    (ofBindings bindings).assigned v = assigned ⟨bindings⟩ v := by
  induction bindings with
  | nil => rfl
  | cons b bindings ih =>
    obtain ⟨hnew, hrest⟩ := List.nodup_cons.mp h
    cases hid : isIdentity b with
    | false =>
      have hkept : ofBindings (b :: bindings) = ⟨b :: (ofBindings bindings).bindings⟩ := by
        simp [ofBindings, hid]
      rw [hkept, assigned_cons, assigned_cons, ← ih hrest]
    | true =>
      have hdropped : ofBindings (b :: bindings) = ofBindings bindings := by
        simp [ofBindings, hid]
      rw [hdropped, assigned_cons, ih hrest]
      split_ifs with hv
      · rw [hv, assigned_of_not_mem hnew]
        exact (beq_iff_eq.mp hid).symm
      · rfl

end TypeEnvironment

/-! ## Arguments in the place of variables -/

namespace TypeSchema

/-- The arguments in the place of the declared variables, the first in that of the first. -/
def instantiate (schema : TypeSchema) (arguments : List JavaType) (t : JavaType) : JavaType :=
  t.substitute fun v => (arguments[schema.names.idxOf v]?).getD (.var v)

variable {schema : TypeSchema} {arguments : List JavaType} {env applied : TypeEnvironment}

theorem length_names : schema.names.length = schema.size := List.length_map _

theorem names_zip (h : arguments.length = schema.size) :
    (schema.names.zip arguments).map Prod.fst = schema.names :=
  List.map_fst_zip (length_names.trans h.symm).le

/-- An application that binds anything is one to as many arguments as there are variables. -/
theorem apply_eq_ok_iff (h : arguments ≠ []) : schema.apply arguments = .ok applied ↔
    arguments.length = schema.size ∧ applied = .ofBindings (schema.names.zip arguments) := by
  unfold apply
  split_ifs with hempty hlength
  · exact absurd (List.isEmpty_iff.mp hempty) h
  · simp [hlength, eq_comm]
  · simp [hlength]

/-- Leaving out what is bound to itself changes no type. -/
theorem resolve_apply (hdistinct : schema.names.Nodup) (h : arguments ≠ [])
    (happly : schema.apply arguments = .ok applied) (t : JavaType) :
    t.resolve applied = t.resolve ⟨schema.names.zip arguments⟩ := by
  obtain ⟨hlength, rfl⟩ := (apply_eq_ok_iff h).mp happly
  have hnames : ((schema.names.zip arguments).map Prod.fst).Nodup := by
    rwa [names_zip hlength]
  exact (JavaType.resolve_eq_iff t).mpr fun v _ => TypeEnvironment.assigned_ofBindings hnames v

/-- What the variables are bound to is what stands in their place, resolved where the arguments are
given. -/
theorem resolve_zip (hlength : arguments.length = schema.size) {t : JavaType}
    (ht : ∀ v ∈ t.variableNames, v ∈ schema.names) :
    t.resolve ⟨schema.names.zip (arguments.map (JavaType.resolve env))⟩ =
      (schema.instantiate arguments t).resolve env := by
  have hright : (schema.instantiate arguments t).resolve env =
      (schema.instantiate arguments t).substitute env.assigned := JavaType.resolve_eq_substitute _
  rw [hright, instantiate, JavaType.substitute_substitute, JavaType.resolve_eq_substitute,
    JavaType.substitute_eq_iff]
  intro v hv
  have hindex : schema.names.idxOf v < arguments.length := by
    rw [hlength, ← length_names]
    exact List.idxOf_lt_length_iff.mpr (ht v hv)
  have hle : (arguments.map (JavaType.resolve env)).length ≤ schema.names.length := by
    rw [List.length_map, hlength, length_names]
  rw [TypeEnvironment.assigned, TypeEnvironment.lookup, TypeEnvironment.lookup_zip hle]
  simp [List.getElem?_eq_getElem hindex, JavaType.resolve_eq_substitute]

end TypeSchema

/-! ## Links and levels -/

namespace ClassCollection

/-- A supertype that a class declares is a reference to a loaded class, which it binds to what its
arguments mean below. -/
structure Link (collection : ClassCollection) (below : BoundClass) (reference : JavaType)
    (above : BoundClass) : Prop where
  declared : reference ∈ below.decl.supertypes
  loaded : collection.classOf? reference = some above.decl
  applied : above.decl.schema.apply (argumentsIn below.environment reference) =
    .ok above.environment

def Above (collection : ClassCollection) (below above : BoundClass) : Prop :=
  ∃ reference, collection.Link below reference above

/-- The variables that one class declares have different names. -/
def Distinct (collection : ClassCollection) : Prop :=
  ∀ decl, collection.Loaded decl → decl.schema.names.Nodup

variable {collection : ClassCollection} {start below above : BoundClass} {reference : JavaType}

theorem gives_link (h : reference ∈ below.decl.supertypes) :
    Gives (fun next => ∀ above ∈ next, collection.Link below reference above) (fun _ => True)
      (collection.bind? reference below.environment) := by
  unfold bind?
  cases hclass : collection.classOf? reference with
  | none => exact fun _ hnone => nomatch hnone
  | some decl =>
    simp only
    cases happly : decl.schema.apply (argumentsIn below.environment reference) with
    | error e => trivial
    | ok env =>
      rintro _ ⟨⟩
      exact ⟨h, hclass, happly⟩

/-- A chain of links from the start to each of the levels. -/
def Chained (collection : ClassCollection) (start : BoundClass) (levels : List BoundClass) : Prop :=
  ∀ level ∈ levels, Relation.ReflTransGen collection.Above start level

theorem gives_chained_addInterfaces (steps : Nat) {levels : List BoundClass}
    (hbelow : Relation.ReflTransGen collection.Above start below)
    (hlevels : collection.Chained start levels) :
    Gives (collection.Chained start) (fun _ => True)
      (collection.addInterfaces steps levels below) := by
  induction steps generalizing levels below with
  | zero => exact hlevels
  | succ steps ih =>
    rw [addInterfaces]
    split_ifs
    · exact hlevels
    · have hstart : collection.Chained start (levels ++ [below]) :=
        List.forall_mem_append.mpr ⟨hlevels, by simpa using hbelow⟩
      refine gives_foldlM (fun between interface hmem hbetween => ?_) hstart
      have hdeclared : interface ∈ below.decl.supertypes := List.mem_append_right _ hmem
      refine gives_bind (gives_link hdeclared) fun next hnext => ?_
      cases next with
      | none => exact hbetween
      | some above => exact ih (hbelow.tail ⟨interface, hnext above rfl⟩) hbetween

theorem gives_superclass_link (below : BoundClass) :
    Gives (fun next => ∀ above ∈ next, collection.Above below above) (fun _ => True)
      (collection.superclass? below) := by
  unfold superclass?
  cases hsuper : below.decl.superclass with
  | none => exact fun _ hnone => nomatch hnone
  | some type =>
    have hdeclared : type ∈ below.decl.supertypes := by simp [JavaClass.supertypes, hsuper]
    exact (gives_link hdeclared).imp fun next hnext above habove => ⟨type, hnext above habove⟩

/-- By induction on the superclasses: from each of them the chain goes on. -/
theorem gives_chained_climb (steps : Nat) {levels : List BoundClass}
    (hbelow : Relation.ReflTransGen collection.Above start below)
    (hlevels : collection.Chained start levels) :
    Gives (collection.Chained start) (fun _ => True) (collection.climb steps levels below) := by
  induction steps generalizing levels below with
  | zero => trivial
  | succ steps ih =>
    rw [climb]
    refine gives_bind (gives_lift (gives_chained_addInterfaces _ hbelow hlevels)
      fun _ _ => trivial) fun after hafter => ?_
    refine gives_bind (gives_lift (gives_superclass_link below) fun _ _ => trivial)
      fun next hnext => ?_
    cases next with
    | none => exact hafter
    | some above => exact ih (hbelow.tail (hnext above rfl)) hafter

theorem chained_of_hierarchy {levels : List BoundClass}
    (h : collection.hierarchy start = .ok levels) : collection.Chained start levels :=
  (gives_chained_climb _ .refl (List.forall_mem_nil _)).ok h

/-! ## Classes read from records -/

variable {after : ClassCollection}

theorem loaded_add {c decl : JavaClass} (h : (collection.add c).Loaded decl) :
    collection.Loaded decl ∨ decl = c := by
  obtain ⟨name, hname⟩ := (NameMap.mem_values_iff _ _).mp h
  change (collection.add c).class? name = some decl at hname
  rw [class?_add] at hname
  split_ifs at hname with hsame
  · cases hclass : collection.class? name with
    | none =>
      rw [hclass] at hname
      exact .inr (Option.some.inj hname).symm
    | some first =>
      rw [hclass] at hname
      exact .inl (loaded_of_class? (hclass.trans hname))
  · exact .inl (loaded_of_class? hname)

theorem distinct_empty : empty.Distinct := by
  intro decl hdecl
  cases hdecl

theorem Distinct.add (h : collection.Distinct) {c : JavaClass} (hc : c.schema.names.Nodup) :
    (collection.add c).Distinct := by
  intro decl hdecl
  rcases loaded_add hdecl with hbefore | rfl
  · exact h decl hbefore
  · exact hc

end ClassCollection

theorem Signature.nodup_of_parseClassSignature {text : String} {signature : ClassSignature}
    (h : parseClassSignature text = .ok signature) : signature.schema.names.Nodup := by
  rw [parseClassSignature_eq] at h
  obtain ⟨⟨parameters, superclass, interfaces⟩, -, hbuild⟩ := bind_eq_ok_iff.mp h
  obtain ⟨schema, hschema, hdone⟩ := bind_eq_ok_iff.mp hbuild
  cases hdone
  rw [TypeSchema.names_ofEntries hschema]
  exact TypeSchema.nodup_of_ofEntries hschema

theorem ClassRecord.nodup_of_declaration {record : ClassRecord} {schema : TypeSchema}
    {supertypes : Option JavaType × List JavaType}
    (h : record.declaration = .ok (schema, supertypes)) : schema.names.Nodup := by
  unfold declaration at h
  cases hsignature : record.signature with
  | none =>
    rw [hsignature] at h
    cases h
    exact List.nodup_nil
  | some text =>
    rw [hsignature] at h
    obtain ⟨signature, hread, hdone⟩ := bind_eq_ok_iff.mp h
    cases hdone
    exact nodup_of_parseClassSignature hread

theorem ClassRecord.nodup_of_toClass {record : ClassRecord} {c : JavaClass}
    (h : record.toClass = .ok c) : c.schema.names.Nodup := by
  unfold toClass at h
  obtain ⟨⟨schema, supertypes⟩, hdeclaration, hrest⟩ := bind_eq_ok_iff.mp h
  obtain ⟨annotations, -, hrest⟩ := bind_eq_ok_iff.mp hrest
  obtain ⟨fields, -, hrest⟩ := bind_eq_ok_iff.mp hrest
  obtain ⟨methods, -, hrest⟩ := bind_eq_ok_iff.mp hrest
  obtain ⟨components, -, hdone⟩ := bind_eq_ok_iff.mp hrest
  cases hdone
  exact nodup_of_declaration hdeclaration

namespace ClassCollection

variable {collection after : ClassCollection} {records : List ClassRecord}

/-- Reading a class fails where it declares a variable twice, so what is read is distinct. -/
theorem Distinct.addRecords (h : collection.Distinct)
    (hread : collection.addRecords records = .ok after) : after.Distinct := by
  have hgives : Gives Distinct (fun _ => True) (collection.addRecords records) := by
    refine gives_foldlM (fun between record _ hbetween => ?_) h
    cases hclass : record.toClass with
    | error e => trivial
    | ok c => exact hbetween.add (record.nodup_of_toClass hclass)
  exact hgives.ok hread

/-- Every level of a hierarchy is reached from the start by a chain of links, from a class to a
loaded one that it declares as its superclass or an interface. Along each link a type in variables
of the class above is resolved as it is below with the arguments in their place, also where a
variable that is bound to itself is not left out; a reference without arguments binds nothing. -/
theorem hierarchy_composes (collection : ClassCollection) (hdistinct : collection.Distinct) :
    (∀ start levels, collection.hierarchy start = .ok levels →
      ∀ level ∈ levels, Relation.ReflTransGen collection.Above start level) ∧
    ∀ below reference above, collection.Link below reference above →
      (∀ base arguments, reference = .parameterized base arguments → arguments ≠ [] →
        arguments.length = above.decl.schema.size ∧
        (∀ t : JavaType, (∀ v ∈ t.variableNames, v ∈ above.decl.schema.names) →
          t.resolve above.environment =
            (above.decl.schema.instantiate arguments t).resolve below.environment) ∧
        ∀ t : JavaType, t.resolve above.environment =
          t.resolve ⟨above.decl.schema.names.zip
            (arguments.map (JavaType.resolve below.environment))⟩) ∧
      ((∀ base arguments, reference = .parameterized base arguments → arguments = []) →
        above.environment = .empty) := by
  refine ⟨fun start levels h => chained_of_hierarchy h, fun below reference above hlink => ?_⟩
  obtain ⟨-, hclass, happlied⟩ := hlink
  have hnames := hdistinct above.decl (loaded_of_classOf? hclass)
  constructor
  · rintro base arguments rfl hsome
    have hresolved : arguments.map (JavaType.resolve below.environment) ≠ [] := by simpa using hsome
    have hkept := TypeSchema.resolve_apply hnames hresolved happlied
    have hlength := ((TypeSchema.apply_eq_ok_iff hresolved).mp happlied).1
    rw [List.length_map] at hlength
    exact ⟨hlength, fun t ht => (hkept t).trans (TypeSchema.resolve_zip hlength ht), hkept⟩
  · intro hraw
    have hnone : argumentsIn below.environment reference = [] := by
      cases reference with
      | parameterized base arguments => simp [argumentsIn, hraw base arguments rfl]
      | _ => rfl
    rw [hnone, TypeSchema.apply_nil] at happlied
    exact (Except.ok.inj happlied).symm

/-- A pair is extended with its variables changed over, and is listed by the first of them. -/
def swappedRecords : List ClassRecord :=
  let declared := "<A:Ljava/lang/Object;B:Ljava/lang/Object;>"
  let record (name signature : String) : ClassRecord :=
    ⟨name, 1, some signature, none, [], [], [], [], [], []⟩
  [record "Swapped" (declared ++ "LPair<TB;TA;>;"),
    record "Pair" (declared ++ "Ljava/lang/Object;LListed<TA;>;"),
    record "Listed" "<A:Ljava/lang/Object;>Ljava/lang/Object;"]

def swapped : ClassCollection := (empty.addRecords swappedRecords).toOption.getD empty

/-- The extended pair, the second variable of which is bound to the first. -/
def swappedPair : BoundClass :=
  ⟨(swapped.class? "Swapped").getD (.ofFields "" .empty .object []),
    ⟨[("A", .basic "Left"), ("B", .var "A")]⟩⟩

theorem addRecords_swapped : empty.addRecords swappedRecords = .ok swapped := by
  have hok : (empty.addRecords swappedRecords).isOk = true := by decide +kernel
  unfold swapped
  cases hread : empty.addRecords swappedRecords with
  | error e =>
    rw [hread] at hok
    cases hok
  | ok collection => rfl

theorem hierarchy_composes_swapped :
    let t : JavaType := .parameterized (.basic "Map") [.var "A", .array (.var "B")]
    swapped.Distinct ∧ ∃ levels above,
      swapped.hierarchy swappedPair = .ok levels ∧
      levels.map (fun level => (level.decl.name, level.environment.bindings)) =
        [("Swapped", [("A", .basic "Left"), ("B", .var "A")]), ("Pair", [("B", .basic "Left")]),
          ("Listed", [])] ∧
      (∀ level ∈ levels, Relation.ReflTransGen swapped.Above swappedPair level) ∧
      swapped.Link swappedPair (.parameterized (.basic "Pair") [.var "B", .var "A"]) above ∧
      (∀ v ∈ t.variableNames, v ∈ above.decl.schema.names) ∧
      t.resolve above.environment = (above.decl.schema.instantiate [.var "B", .var "A"] t).resolve
        swappedPair.environment := by
  intro t
  have hdistinct : swapped.Distinct := distinct_empty.addRecords addRecords_swapped
  have hlevels : (swapped.hierarchy swappedPair).map
      (List.map fun level => (level.decl.name, level.environment.bindings)) =
        .ok [("Swapped", [("A", .basic "Left"), ("B", .var "A")]), ("Pair", [("B", .basic "Left")]),
          ("Listed", [])] := by decide +kernel
  have hpair : (swapped.bind? (.parameterized (.basic "Pair") [.var "B", .var "A"])
      swappedPair.environment).map (Option.map fun above => above.decl.schema.names) =
        .ok (some ["A", "B"]) := by decide +kernel
  have hdeclared : .parameterized (.basic "Pair") [.var "B", .var "A"] ∈
      swappedPair.decl.supertypes := by decide +kernel
  obtain ⟨levels, hhierarchy, hnames⟩ := exists_of_map_eq_ok hlevels
  obtain ⟨next, hnext, hsome⟩ := exists_of_map_eq_ok hpair
  obtain ⟨above, rfl, hvariables⟩ := Option.map_eq_some_iff.mp hsome
  have hlink := (gives_link hdeclared).ok hnext above rfl
  have hcomposes := hierarchy_composes swapped hdistinct
  have ht : ∀ v ∈ t.variableNames, v ∈ above.decl.schema.names := by
    rw [hvariables]
    decide +kernel
  exact ⟨hdistinct, levels, above, hhierarchy, hnames, hcomposes.1 _ levels hhierarchy, hlink, ht,
    ((hcomposes.2 _ _ above hlink).1 _ _ rfl (by simp)).2.1 t ht⟩

end ClassCollection

end ApiSurface
