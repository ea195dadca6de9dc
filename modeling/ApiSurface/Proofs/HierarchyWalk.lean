import ApiSurface.Proofs.HierarchyEnvironments
import ApiSurface.Proofs.Trails

/-!
# The walk through a hierarchy

The levels of a hierarchy are the classes that a depth-first walk through interfaces enters from the
superclasses of the start, one after the other. So they are the start and what stands above it by
superclasses first and by interfaces then, each class once, also where interfaces refer to each
other in a cycle.
-/

namespace ApiSurface.ClassCollection

open Relation Signature DepthFirst

variable {collection : ClassCollection} {start bound : BoundClass} {levels after : List BoundClass}

/-- From a loaded class to an interface of it, if that is loaded too. -/
def InterfaceLink (collection : ClassCollection) (decl above : JavaClass) : Prop :=
  collection.Loaded decl ∧ above ∈ decl.interfaces.filterMap collection.classOf?

/-- A class with its superclasses, as far as they are loaded. -/
inductive SuperclassChain (collection : ClassCollection) : JavaClass → List JavaClass → Prop where
  | last {decl : JavaClass} : decl.superclass.bind collection.classOf? = none →
      SuperclassChain collection decl [decl]
  | step {decl above : JavaClass} {chain : List JavaClass} :
      decl.superclass.bind collection.classOf? = some above →
      SuperclassChain collection above chain → SuperclassChain collection decl (decl :: chain)

theorem loaded_of_superclass {decl above : JavaClass}
    (h : decl.superclass.bind collection.classOf? = some above) : collection.Loaded above := by
  obtain ⟨type, -, htype⟩ := Option.bind_eq_some_iff.mp h
  exact loaded_of_classOf? htype

theorem SuperclassChain.mem_iff {decl : JavaClass} {chain : List JavaClass}
    (h : collection.SuperclassChain decl chain) (hloaded : collection.Loaded decl)
    {above : JavaClass} :
    above ∈ chain ↔ ReflTransGen collection.SuperclassLink decl above := by
  induction h with
  | @last decl hnone =>
    rw [List.mem_singleton]
    constructor
    · rintro rfl
      exact .refl
    · intro habove
      rcases ReflTransGen.cases_head habove with heq | ⟨next, ⟨-, hnext⟩, -⟩
      · exact heq.symm
      · rw [hnone] at hnext
        cases hnext
  | @step decl next chain hnext _ ih =>
    rw [List.mem_cons, ih (loaded_of_superclass hnext)]
    constructor
    · rintro (rfl | habove)
      · exact .refl
      · exact .head ⟨hloaded, hnext⟩ habove
    · intro habove
      rcases ReflTransGen.cases_head habove with heq | ⟨other, ⟨-, hother⟩, habove⟩
      · exact .inl heq.symm
      · rw [hnext] at hother
        cases hother
        exact .inr habove

/-! ## Interfaces -/

open Classical in
/-- The loaded interfaces of a loaded class, in the order of their declaration. -/
noncomputable def interfacesOf (collection : ClassCollection) (decl : JavaClass) : List JavaClass :=
  if collection.Loaded decl then decl.interfaces.filterMap collection.classOf? else []

theorem interfacesOf_of_loaded {decl : JavaClass} (h : collection.Loaded decl) :
    collection.interfacesOf decl = decl.interfaces.filterMap collection.classOf? := if_pos h

theorem mem_interfacesOf_iff {decl above : JavaClass} :
    above ∈ collection.interfacesOf decl ↔ collection.InterfaceLink decl above := by
  unfold interfacesOf InterfaceLink
  split_ifs with hloaded <;> simp [hloaded]

theorem loaded_of_interfacesOf_ne_nil (decl : JavaClass) (h : collection.interfacesOf decl ≠ []) :
    decl ∈ collection.classes.values := by
  unfold interfacesOf at h
  split_ifs at h with hloaded
  · exact hloaded
  · exact absurd rfl h

/-- So a walk through interfaces has a step for every class that it may go on from. -/
theorem length_values_lt (collection : ClassCollection) :
    collection.classes.values.length < collection.size + 1 := by
  rw [length_values]
  exact Nat.lt_succ_self _

theorem classOf?_eq_none_of_bind? {type : JavaType} {env : TypeEnvironment}
    (h : collection.bind? type env = .ok none) : collection.classOf? type = none := by
  unfold bind? at h
  cases hclass : collection.classOf? type with
  | none => rfl
  | some decl =>
    rw [hclass] at h
    obtain ⟨applied, -, hdone⟩ := bind_eq_ok_iff.mp h
    cases hdone

open Classical in
/-- The levels show the classes that a walk through interfaces enters from a class. -/
structure Walked (collection : ClassCollection) (steps : Nat) (levels : List BoundClass)
    (row : List JavaClass) (after : List BoundClass) : Prop where
  decls : after.map BoundClass.decl =
    row.foldl (visit collection.interfacesOf steps) (levels.map BoundClass.decl)
  loaded : ∀ level ∈ after, collection.Loaded level.decl
  kept : levels <+: after

theorem Walked.trans {steps : Nat} {row row' : List JavaClass} {between : List BoundClass}
    (h : collection.Walked steps levels row between)
    (h' : collection.Walked steps between row' after) :
    collection.Walked steps levels (row ++ row') after where
  decls := by rw [List.foldl_append, ← h.decls, h'.decls]
  loaded := h'.loaded
  kept := h.kept.trans h'.kept

theorem walked_nil {steps : Nat} (h : ∀ level ∈ levels, collection.Loaded level.decl) :
    collection.Walked steps levels [] levels :=
  ⟨rfl, h, List.prefix_rfl⟩

/-- By induction on the interfaces, if it holds of each of them. -/
theorem walked_interfaces {steps : Nat} {interfaces : List JavaType} {env : TypeEnvironment}
    (hadd : ∀ {levels bound after}, collection.Loaded bound.decl →
      (∀ level ∈ levels, collection.Loaded level.decl) →
      collection.addInterfaces steps levels bound = .ok after →
      collection.Walked steps levels [bound.decl] after)
    (hlevels : ∀ level ∈ levels, collection.Loaded level.decl)
    (h : interfaces.foldlM (fun levels interface => do
      match ← collection.bind? interface env with
      | none => pure levels
      | some next => collection.addInterfaces steps levels next) levels = .ok after) :
    collection.Walked steps levels (interfaces.filterMap collection.classOf?) after := by
  induction interfaces generalizing levels with
  | nil =>
    cases h
    exact walked_nil hlevels
  | cons interface interfaces ih =>
    rw [List.foldlM_cons] at h
    obtain ⟨between, hfirst, hrest⟩ := bind_eq_ok_iff.mp h
    obtain ⟨next, hnext, hadded⟩ := bind_eq_ok_iff.mp hfirst
    cases next with
    | none =>
      cases hadded
      rw [List.filterMap_cons_none (classOf?_eq_none_of_bind? hnext)]
      exact ih hlevels hrest
    | some next =>
      have hclass := classOf?_of_bind? hnext
      have hwalked := hadd (loaded_of_classOf? hclass) hlevels hadded
      rw [List.filterMap_cons_some hclass]
      exact hwalked.trans (ih hwalked.loaded hrest)

/-- By induction on the steps. A class is entered by its name, and so once. -/
theorem walked_addInterfaces (hnamed : collection.ByName) (steps : Nat)
    (hbound : collection.Loaded bound.decl)
    (hlevels : ∀ level ∈ levels, collection.Loaded level.decl)
    (h : collection.addInterfaces steps levels bound = .ok after) :
    collection.Walked steps levels [bound.decl] after := by
  classical
  induction steps generalizing levels bound after with
  | zero =>
    cases h
    exact ⟨rfl, hlevels, List.prefix_rfl⟩
  | succ steps ih =>
    rw [addInterfaces] at h
    split_ifs at h with hany
    · cases h
      obtain ⟨level, hlevel, hname⟩ := List.any_eq_true.mp hany
      have heq := hnamed.eq_of_name_eq (hlevels level hlevel) hbound (beq_iff_eq.mp hname)
      have hmem : bound.decl ∈ levels.map BoundClass.decl := List.mem_map.mpr ⟨level, hlevel, heq⟩
      refine ⟨?_, hlevels, List.prefix_rfl⟩
      rw [List.foldl_cons, visit_of_mem hmem, List.foldl_nil]
    · have hmem : bound.decl ∉ levels.map BoundClass.decl := by
        intro hmem
        obtain ⟨level, hlevel, heq⟩ := List.mem_map.mp hmem
        exact hany (List.any_eq_true.mpr ⟨level, hlevel, by simp [heq]⟩)
      have hstart : ∀ level ∈ levels ++ [bound], collection.Loaded level.decl :=
        List.forall_mem_append.mpr ⟨hlevels, by simpa using hbound⟩
      have hwalked := walked_interfaces ih hstart h
      refine ⟨?_, hwalked.loaded, (List.prefix_append _ _).trans hwalked.kept⟩
      rw [List.foldl_cons, visit_of_not_mem hmem, List.foldl_nil, interfacesOf_of_loaded hbound,
        hwalked.decls, List.map_append, List.map_singleton]

/-! ## Superclasses -/

theorem eq_ok_of_lift {α : Type} {x : Except SurfaceError α} {a : α} (h : Halt.lift x = .ok a) :
    x = .ok a := by
  cases x with
  | error e => cases h
  | ok b =>
    cases h
    rfl

/-- A climb adds a class with its interfaces, and goes on with the superclass if there is one. -/
theorem exists_of_climb {steps : Nat} (h : collection.climb (steps + 1) levels bound = .ok after) :
    ∃ between, collection.addInterfaces (collection.size + 1) levels bound = .ok between ∧
      (collection.superclass? bound = .ok none ∧ after = between ∨
        ∃ next, collection.superclass? bound = .ok (some next) ∧
          collection.climb steps between next = .ok after) := by
  rw [climb] at h
  obtain ⟨between, hadd, hrest⟩ := bind_eq_ok_iff.mp h
  obtain ⟨next, hnext, hdone⟩ := bind_eq_ok_iff.mp hrest
  refine ⟨between, eq_ok_of_lift hadd, ?_⟩
  cases next with
  | none =>
    cases hdone
    exact .inl ⟨eq_ok_of_lift hnext, rfl⟩
  | some next => exact .inr ⟨next, eq_ok_of_lift hnext, hdone⟩

theorem superclass_eq_none_of_superclass? (h : collection.superclass? bound = .ok none) :
    bound.decl.superclass.bind collection.classOf? = none := by
  unfold superclass? at h
  cases htype : bound.decl.superclass with
  | none => rfl
  | some type =>
    rw [htype] at h
    exact classOf?_eq_none_of_bind? h

/-- By induction on the steps, which go along the superclasses. -/
theorem exists_walked_climb (hnamed : collection.ByName) (steps : Nat)
    (hbound : collection.Loaded bound.decl)
    (hlevels : ∀ level ∈ levels, collection.Loaded level.decl)
    (h : collection.climb steps levels bound = .ok after) :
    ∃ chain, collection.SuperclassChain bound.decl chain ∧
      collection.Walked (collection.size + 1) levels chain after := by
  induction steps generalizing levels bound with
  | zero => cases h
  | succ steps ih =>
    obtain ⟨between, hadd, hrest⟩ := exists_of_climb h
    have hwalked := walked_addInterfaces hnamed _ hbound hlevels hadd
    rcases hrest with ⟨hnone, rfl⟩ | ⟨next, hnext, hclimb⟩
    · exact ⟨[bound.decl], .last (superclass_eq_none_of_superclass? hnone), hwalked⟩
    · have hlink := (superclassLink_of_superclass? hbound hnext).2
      obtain ⟨chain, hchain, hwalked'⟩ := ih (loaded_of_superclass hlink) hwalked.loaded hclimb
      exact ⟨bound.decl :: chain, .step hlink hchain, hwalked.trans hwalked'⟩

theorem exists_walked_of_hierarchy (hnamed : collection.ByName)
    (hstart : collection.Loaded start.decl) (h : collection.hierarchy start = .ok levels) :
    ∃ chain, collection.SuperclassChain start.decl chain ∧
      collection.Walked (collection.size + 1) [] chain levels :=
  exists_walked_climb hnamed _ hstart (List.forall_mem_nil _) h

/-- The start is entered as it was given, before all others. -/
theorem head?_of_hierarchy (hnamed : collection.ByName) (hstart : collection.Loaded start.decl)
    (h : collection.hierarchy start = .ok levels) : levels.head? = some start := by
  obtain ⟨between, hadd, hrest⟩ := exists_of_climb h
  have hwalked := walked_addInterfaces hnamed _ hstart (List.forall_mem_nil _) hadd
  have hfirst : [start] <+: between := by
    have hloaded : ∀ level ∈ [start], collection.Loaded level.decl := by simpa using hstart
    have hinterfaces := walked_interfaces
      (fun hbound hlevels => walked_addInterfaces hnamed collection.size hbound hlevels)
      hloaded hadd
    exact hinterfaces.kept
  have hkept : between <+: levels := by
    rcases hrest with ⟨-, rfl⟩ | ⟨next, hnext, hclimb⟩
    · exact List.prefix_rfl
    · have hlink := (superclassLink_of_superclass? hstart hnext).2
      obtain ⟨_, -, hrest⟩ :=
        exists_walked_climb hnamed _ (loaded_of_superclass hlink) hwalked.loaded hclimb
      exact hrest.kept
  obtain ⟨back, rfl⟩ := hfirst.trans hkept
  rfl

/-- The walk enters exactly what stands above the start by superclasses and then by interfaces. -/
theorem mem_hierarchy_iff (hnamed : collection.ByName) (hstart : collection.Loaded start.decl)
    (h : collection.hierarchy start = .ok levels) {decl : JavaClass} :
    decl ∈ levels.map BoundClass.decl ↔ ∃ between,
      ReflTransGen collection.SuperclassLink start.decl between ∧
      ReflTransGen collection.InterfaceLink between decl := by
  classical
  obtain ⟨chain, hchain, hwalked⟩ := exists_walked_of_hierarchy hnamed hstart h
  rw [hwalked.decls, List.map_nil,
    mem_walk_iff loaded_of_interfacesOf_ne_nil (length_values_lt collection)]
  simp only [hchain.mem_iff hstart, reaches_iff_links fun _ _ => mem_interfacesOf_iff]

theorem nodup_hierarchy (hnamed : collection.ByName) (hstart : collection.Loaded start.decl)
    (h : collection.hierarchy start = .ok levels) : (levels.map BoundClass.decl).Nodup := by
  classical
  obtain ⟨chain, -, hwalked⟩ := exists_walked_of_hierarchy hnamed hstart h
  rw [hwalked.decls]
  exact nodup_foldl_visit _ List.nodup_nil chain

/-- A hierarchy without a cycle of superclasses comes to an end. If it gives levels, they begin with
the start and have each name once, and their classes are those that links lead to from the start,
first from a class to its superclass and then from a class to an interface, each to a loaded class.
Interfaces may refer to each other in any way. -/
theorem hierarchy_exact (classes : List JavaClass) {start : BoundClass}
    (hstart : (ofClasses classes).Loaded start.decl) :
    (NoReturn (ofClasses classes).SuperclassLink id →
      (ofClasses classes).hierarchy start ≠ .error .endless) ∧
    ∀ levels, (ofClasses classes).hierarchy start = .ok levels →
      levels.head? = some start ∧ (levels.map fun level => level.decl.name).Nodup ∧
      ∀ decl, decl ∈ levels.map BoundClass.decl ↔ ∃ between,
        ReflTransGen (ofClasses classes).SuperclassLink start.decl between ∧
        ReflTransGen (ofClasses classes).InterfaceLink between decl := by
  have hnamed := byName_ofClasses classes
  refine ⟨fun hend => hierarchy_ne_endless hend hstart, fun levels h => ?_⟩
  refine ⟨head?_of_hierarchy hnamed hstart h, ?_, fun decl => mem_hierarchy_iff hnamed hstart h⟩
  obtain ⟨chain, -, hwalked⟩ := exists_walked_of_hierarchy hnamed hstart h
  have hnames : ((levels.map BoundClass.decl).map JavaClass.name).Nodup := by
    refine (nodup_hierarchy hnamed hstart h).map_on ?_
    intro decl hdecl other hother hname
    obtain ⟨level, hlevel, rfl⟩ := List.mem_map.mp hdecl
    obtain ⟨level', hlevel', rfl⟩ := List.mem_map.mp hother
    exact hnamed.eq_of_name_eq (hwalked.loaded level hlevel) (hwalked.loaded level' hlevel') hname
  rwa [List.map_map] at hnames

/-- Orders and the entries they extend are both listed. What is listed is shown, and what is shown
is listed. -/
def listedOrder : JavaClass :=
  { JavaClass.ofFields "Order" .empty (.basic "Entry") [] with interfaces := [.basic "Listed"] }

def listedClasses : List JavaClass :=
  let plain (name : String) (interfaces : List JavaType) : JavaClass :=
    { JavaClass.ofFields name .empty .object [] with interfaces := interfaces }
  [listedOrder, plain "Entry" [.basic "Listed", .basic "Sent"], plain "Listed" [.basic "Shown"],
    plain "Shown" [.basic "java.io.Serializable", .basic "Listed"]]

theorem hierarchy_exact_listed :
    (ofClasses listedClasses).Loaded listedOrder ∧
    ∃ levels, (ofClasses listedClasses).hierarchy (.raw listedOrder) = .ok levels ∧
      levels.map (fun level => level.decl.name) = ["Order", "Listed", "Shown", "Entry"] ∧
      levels.head? = some (.raw listedOrder) ∧
      ∀ decl, decl ∈ levels.map BoundClass.decl ↔ ∃ between,
        ReflTransGen (ofClasses listedClasses).SuperclassLink listedOrder between ∧
        ReflTransGen (ofClasses listedClasses).InterfaceLink between decl := by
  have hloaded : (ofClasses listedClasses).Loaded listedOrder :=
    loaded_of_class? (rfl : (ofClasses listedClasses).class? "Order" = some listedOrder)
  have hlevels : ((ofClasses listedClasses).hierarchy (.raw listedOrder)).map
      (List.map fun level => level.decl.name) = .ok ["Order", "Listed", "Shown", "Entry"] := by
    decide +kernel
  obtain ⟨levels, hhierarchy, hnames⟩ := exists_of_map_eq_ok hlevels
  have hexact := (hierarchy_exact listedClasses hloaded).2 levels hhierarchy
  exact ⟨hloaded, levels, hhierarchy, hnames, hexact.1, hexact.2.2⟩

end ApiSurface.ClassCollection
