import ApiSurface.Proofs.EndpointReading
import ApiSurface.Proofs.BeanPopulation

/-!
# Classes that are not elaborated

A class that is imported or kept opaque has no definition of its own. As a case of a union it has
one nevertheless, since a union describes its subtypes without asking whether they are withheld. So
no withheld class is elaborated exactly if no described union has one among its subtypes.
-/

namespace ApiSurface

namespace ApiDefinition

/-- The definitions of classes and of the cases of unions. -/
def definitions (api : ApiDefinition) : List ClassDefinition :=
  api.classes.values ++ api.unions.values.flatMap (·.cases.values)

theorem mem_definitions_iff {api : ApiDefinition} {definition : ClassDefinition} :
    definition ∈ api.definitions ↔ (∃ name, api.classes.get? name = some definition) ∨
      ∃ name union value, api.unions.get? name = some union ∧
        union.cases.get? value = some definition := by
  simp only [definitions, List.mem_append, List.mem_flatMap, NameMap.mem_values_iff]
  refine or_congr_right ⟨?_, ?_⟩
  · intro hgiven
    obtain ⟨union, ⟨name, hunion⟩, value, hcase⟩ := hgiven
    exact ⟨name, union, value, hunion, hcase⟩
  · intro hgiven
    obtain ⟨name, union, value, hunion, hcase⟩ := hgiven
    exact ⟨union, ⟨name, hunion⟩, value, hcase⟩

end ApiDefinition

namespace Survey

/-- The class comes from elsewhere, or the settings keep it opaque. -/
def Withheld (survey : Survey) (q : String) : Prop :=
  survey.settings.isImported (survey.nameOf q) = true ∨ survey.settings.isBlackBox q = true

/-- The loaded subtypes of a class that is described as a union, each with the value that selects
it. -/
def unionMembers (survey : Survey) (decl : JavaClass) : List (String × String) :=
  match decl.form with
  | .beanUnion _ =>
    ((BeanUnion.subtypes survey.classes decl).toOption.getD []).filterMap fun subtype =>
      (survey.classes.classOf? subtype.type).map fun subclass => (subtype.value, subclass.name)
  | .sealedUnion =>
    decl.permittedSubclasses.filterMap fun name =>
      (survey.classes.class? name).map fun subclass =>
        (Serialization.caseValue subclass, subclass.name)
  | .enum | .bean | .serialized => []

/-- A definition in the API belongs to the class that has its name, or to the subtype that its
value selects in a union. -/
inductive Belongs (survey : Survey) (d : Description) (definition : ClassDefinition) :
    String → Prop where
  | named {q : String} : survey.Claimed d q →
      d.api.classes.get? (survey.nameOf q) = some definition → Belongs survey d definition q
  | case {owner value q : String} {decl : JavaClass} {union : UnionDefinition} :
      survey.Claimed d owner → survey.classes.class? owner = some decl →
      d.api.unions.get? (survey.nameOf owner) = some union →
      union.cases.get? value = some definition → (value, q) ∈ survey.unionMembers decl →
      Belongs survey d definition q

variable {survey : Survey}

theorem not_withheld_of_kind {q : String} {decl : JavaClass} (h : survey.kind q = .defined decl) :
    ¬ survey.Withheld q := by
  intro hwithheld
  unfold kind at h
  split_ifs at h with himported hopaque
  exact hwithheld.elim himported hopaque

/-! ## Members of unions -/

/-- A loop that adds cases adds those of the items that have a class, in their order. -/
theorem foldlM_addUnionCase {α : Type} {slotsOf : JavaClass → Except Halt (List Slot)}
    {value : α → JavaClass → String} {find : α → Option JavaClass} {l : List α}
    {start cases : List UnionCase}
    (h : l.foldlM (fun cases a => addUnionCase slotsOf cases (value a) (find a)) start =
      .ok cases) :
    cases.map (fun c => (c.value, c.className)) =
      start.map (fun c => (c.value, c.className)) ++
        l.filterMap fun a => (find a).map fun subclass => (value a subclass, subclass.name) := by
  induction l generalizing start with
  | nil =>
    cases h
    simp
  | cons a l ih =>
    rw [List.foldlM_cons] at h
    cases hfind : find a with
    | none =>
      rw [hfind] at h
      simp [ih h, hfind]
    | some subclass =>
      rw [hfind] at h
      cases hslots : slotsOf subclass with
      | error halt =>
        rw [addUnionCase, hslots] at h
        cases h
      | ok slots =>
        rw [addUnionCase, hslots] at h
        simp [ih h, hfind]

theorem unionMembers_of_beanCases {decl : JavaClass} {info : AnnotationUse}
    {cases : List UnionCase} (hform : decl.form = .beanUnion info)
    (h : survey.beanCases decl = .ok cases) :
    cases.map (fun c => (c.value, c.className)) = survey.unionMembers decl := by
  cases hsubtypes : BeanUnion.subtypes survey.classes decl with
  | error e =>
    rw [beanCases, hsubtypes] at h
    cases h
  | ok subtypes =>
    rw [beanCases, hsubtypes] at h
    simpa [unionMembers, hform, hsubtypes, Except.toOption] using foldlM_addUnionCase h

theorem unionMembers_of_permittedCases {decl : JavaClass} {cases : List UnionCase}
    (hform : decl.form = .sealedUnion) (h : survey.permittedCases decl = .ok cases) :
    cases.map (fun c => (c.value, c.className)) = survey.unionMembers decl := by
  simpa [unionMembers, hform] using foldlM_addUnionCase h

/-- The cases of a union are its loaded subtypes. -/
theorem unionMembers_of_shape {decl : JavaClass} {discriminator : String}
    {cases : List UnionCase} (h : survey.shape decl = .ok (.union discriminator cases)) :
    cases.map (fun c => (c.value, c.className)) = survey.unionMembers decl := by
  cases hform : decl.form with
  | enum =>
    rw [shape, hform] at h
    cases h
  | bean =>
    rw [shape, hform] at h
    cases hslots : survey.beanSlots decl <;> rw [hslots] at h <;> cases h
  | serialized =>
    rw [shape, hform] at h
    cases hslots : survey.serializedSlots decl <;> rw [hslots] at h <;> cases h
  | beanUnion info =>
    rw [shape, hform] at h
    cases hdiscriminator : BeanUnion.discriminator info with
    | error fault =>
      simp only [hdiscriminator] at h
      cases h
    | ok property =>
      simp only [hdiscriminator] at h
      cases hcases : survey.beanCases decl <;> rw [hcases] at h <;> cases h
      exact unionMembers_of_beanCases hform hcases
  | sealedUnion =>
    rw [shape, hform] at h
    cases hcases : survey.permittedCases decl <;> rw [hcases] at h <;> cases h
    exact unionMembers_of_permittedCases hform hcases

/-! ## Entries -/

theorem name_of_readCase {followed : List String} {c : UnionCase} {value : String}
    {definition : ClassDefinition} {met : List Sighting}
    (h : survey.readCase followed c = some ((value, definition), met)) :
    value = c.value ∧ definition.name = survey.nameOf c.className := by
  simp only [readCase, Option.bind_eq_bind, Option.bind_eq_some_iff, Option.some.injEq,
    Prod.mk.injEq, Prod.exists] at h
  obtain ⟨_, _, hread, ⟨rfl, rfl⟩, -⟩ := h
  obtain ⟨properties, -, rfl⟩ := readClass_eq_some_iff.mp hread
  exact ⟨rfl, rfl⟩

theorem values_of_readCases {followed : List String} {cases : List UnionCase}
    {definitions : List (String × ClassDefinition)} {met : List Sighting}
    (h : readEach (survey.readCase followed) cases = some (definitions, met)) :
    definitions.map Prod.fst = cases.map UnionCase.value :=
  map_of_readEach (fun _ _ _ hcase => (name_of_readCase hcase).1) h

section

variable {q : String} {followed : List String} {entry : ApiEntry} {met : List Sighting}

theorem exists_shape_of_entryAt? (hentry : survey.entryAt? ⟨q, followed⟩ = some (entry, met))
    (hdefines : entry.defines = true) :
    ∃ decl shape, survey.kind q = .defined decl ∧ survey.shape decl = .ok shape ∧
      survey.readShape followed (survey.nameOf q) shape = some (entry, met) := by
  obtain ⟨decl, hkind⟩ := exists_defined_of_entryAt? hentry hdefines
  simp only [entryAt?, hkind] at hentry
  cases hshape : survey.shape decl with
  | error halt =>
    rw [hshape] at hentry
    cases hentry
  | ok shape =>
    rw [hshape] at hentry
    exact ⟨decl, shape, hkind, hshape, hentry⟩

theorem name_of_entryAt? (hentry : survey.entryAt? ⟨q, followed⟩ = some (entry, met))
    {definition : ClassDefinition} (hclass : entry.class? = some definition) :
    definition.name = survey.nameOf q := by
  obtain ⟨decl, shape, -, -, hread⟩ :=
    exists_shape_of_entryAt? hentry (by simp [ApiEntry.defines, hclass])
  cases shape with
  | members slots =>
    obtain ⟨_, hslots, rfl⟩ := readShape_members_eq_some_iff.mp hread
    cases hclass
    obtain ⟨properties, -, rfl⟩ := readClass_eq_some_iff.mp hslots
    rfl
  | enum constants =>
    cases hread
    cases hclass
  | union discriminator cases =>
    obtain ⟨_, -, rfl⟩ := readShape_union_eq_some_iff.mp hread
    cases hclass

/-- The union of a class has the cases that its subtypes are read to. -/
theorem union_of_entryAt? (hentry : survey.entryAt? ⟨q, followed⟩ = some (entry, met))
    {union : UnionDefinition} (hunion : entry.union? = some union) :
    ∃ decl discriminator cases definitions, survey.kind q = .defined decl ∧
      survey.shape decl = .ok (.union discriminator cases) ∧
      readEach (survey.readCase followed) cases = some (definitions, met) ∧
      union.cases = .ofList definitions := by
  obtain ⟨decl, shape, hkind, hshape, hread⟩ :=
    exists_shape_of_entryAt? hentry (by simp [ApiEntry.defines, hunion])
  cases shape with
  | members slots =>
    obtain ⟨_, -, rfl⟩ := readShape_members_eq_some_iff.mp hread
    cases hunion
  | enum constants =>
    cases hread
    cases hunion
  | union discriminator cases =>
    obtain ⟨definitions, hcases, rfl⟩ := readShape_union_eq_some_iff.mp hread
    cases hunion
    exact ⟨decl, discriminator, cases, definitions, hkind, hshape, hcases, rfl⟩

end

/-! ## Descriptions -/

section

variable {r : Registry} {d : Description} {definition : ClassDefinition} {q q' name : String}

theorem claimed_unique (h : survey.Claimed d q) (h' : survey.Claimed d q')
    (hname : survey.nameOf q = survey.nameOf q') : q = q' := by
  rw [Claimed, hname] at h
  exact Option.some.inj (h.symm.trans h')

/-- What is defined belongs to a registered class, which has claimed its name. -/
theorem Matches.exists_entry (h : survey.Matches [] r d)
    (hdefined : d.api.defines name = true) :
    ∃ q followed met, survey.nameOf q = name ∧ survey.Claimed d q ∧
      survey.entryAt? ⟨q, followed⟩ = some (d.api.entry name, met) := by
  obtain ⟨q, followed, hq, rfl⟩ := h.exists_of_defines hdefined
  obtain ⟨met, hentry⟩ := h.settled q followed hq (by simp)
  exact ⟨q, followed, met, rfl, h.claimed q (by simp [NameMap.contains, hq]), hentry⟩

/-- A class with a definition under its own name is never withheld. -/
theorem Matches.not_withheld (h : survey.Matches [] r d) (hclaimed : survey.Claimed d q)
    (hdefined : d.api.defines (survey.nameOf q) = true) : ¬ survey.Withheld q := by
  obtain ⟨q', followed, met, hname, hclaimed', hentry⟩ := h.exists_entry hdefined
  obtain ⟨decl, hkind⟩ := exists_defined_of_entryAt? hentry (by simpa using hdefined)
  rw [claimed_unique hclaimed hclaimed' hname.symm]
  exact not_withheld_of_kind hkind

/-- The cases of a union in the API are those of its subtypes. -/
theorem Matches.exists_cases (h : survey.Matches [] r d) {union : UnionDefinition}
    (hunion : d.api.unions.get? name = some union) :
    ∃ q decl followed cases definitions more, survey.nameOf q = name ∧ survey.Claimed d q ∧
      survey.classes.class? q = some decl ∧
      cases.map (fun c => (c.value, c.className)) = survey.unionMembers decl ∧
      readEach (survey.readCase followed) cases = some (definitions, more) ∧
      union.cases = .ofList definitions := by
  have hdefined : d.api.defines name = true := by
    simp [ApiDefinition.defines, NameMap.contains, hunion]
  obtain ⟨q, followed, met, rfl, hclaimed, hentry⟩ := h.exists_entry hdefined
  obtain ⟨decl, discriminator, cases, definitions, hkind, hshape, hread, hcases⟩ :=
    union_of_entryAt? hentry hunion
  exact ⟨q, decl, followed, cases, definitions, met, rfl, hclaimed,
    class?_of_kind_defined hkind, unionMembers_of_shape hshape, hread, hcases⟩

/-- Every definition belongs to a class of its name. -/
theorem Matches.exists_belongs (h : survey.Matches [] r d)
    (hmem : definition ∈ d.api.definitions) :
    ∃ q, survey.Belongs d definition q ∧ definition.name = survey.nameOf q := by
  rcases ApiDefinition.mem_definitions_iff.mp hmem with hclass | hcase
  · obtain ⟨name, hclass⟩ := hclass
    have hdefined : d.api.defines name = true := by
      simp [ApiDefinition.defines, NameMap.contains, hclass]
    obtain ⟨q, followed, met, rfl, hclaimed, hentry⟩ := h.exists_entry hdefined
    exact ⟨q, .named hclaimed hclass, name_of_entryAt? hentry hclass⟩
  · obtain ⟨name, union, value, hunion, hcase⟩ := hcase
    obtain ⟨owner, decl, followed, cases, definitions, more, rfl, hclaimed, hdecl, hmembers, hread,
      hcases⟩ := h.exists_cases hunion
    rw [hcases] at hcase
    obtain ⟨c, hc, _, hreadCase⟩ := mem_of_readEach hread (mem_ofList hcase)
    obtain ⟨rfl, hname⟩ := name_of_readCase hreadCase
    refine ⟨c.className, .case hclaimed hdecl hunion (hcases ▸ hcase) ?_, hname⟩
    rw [← hmembers]
    exact List.mem_map_of_mem hc

/-- Every subtype of a union has a case. -/
theorem Matches.exists_case (h : survey.Matches [] r d) {owner value : String} {decl : JavaClass}
    (hclaimed : survey.Claimed d owner) (hdecl : survey.classes.class? owner = some decl)
    (hunion : d.api.unions.contains (survey.nameOf owner) = true)
    (hmember : (value, q) ∈ survey.unionMembers decl) :
    ∃ definition, survey.Belongs d definition q := by
  obtain ⟨union, hunion⟩ := Option.isSome_iff_exists.mp hunion
  obtain ⟨owner', decl', followed, cases, definitions, more, hname, hclaimed', hdecl', hmembers,
    hread, hcases⟩ := h.exists_cases hunion
  cases claimed_unique hclaimed hclaimed' hname.symm
  cases hdecl.symm.trans hdecl'
  have hvalue : union.cases.contains value = true := by
    rw [hcases, NameMap.contains_ofList, values_of_readCases hread]
    rw [← hmembers] at hmember
    obtain ⟨c, hc, heq⟩ := List.mem_map.mp hmember
    cases heq
    exact List.mem_map_of_mem hc
  obtain ⟨definition, hcase⟩ := Option.isSome_iff_exists.mp hvalue
  exact ⟨definition, .case hclaimed hdecl hunion hcase hmember⟩

end

/-- Every definition in an API belongs to a class of its name, and a class with a definition of its
own is never withheld. So no definition belongs to a withheld class exactly if no union in the API
has a subtype that is withheld. -/
theorem elaborated_iff (survey : Survey) {api : ApiDefinition} {d : Description}
    (hrun : Describing.run survey.describeApi .empty = (.ok api, d)) :
    api = d.api ∧
    (∀ definition ∈ api.definitions, ∃ q, survey.Belongs d definition q ∧
      definition.name = survey.nameOf q) ∧
    (∀ q, survey.Claimed d q → api.defines (survey.nameOf q) = true → ¬ survey.Withheld q) ∧
    ((∀ definition q, survey.Belongs d definition q → ¬ survey.Withheld q) ↔
      ∀ owner decl value q, survey.Claimed d owner → survey.classes.class? owner = some decl →
        api.unions.contains (survey.nameOf owner) = true →
        (value, q) ∈ survey.unionMembers decl → ¬ survey.Withheld q) := by
  obtain ⟨groups, r, -, rfl, hmatch, -, -⟩ := exists_matches_of_api hrun
  refine ⟨rfl, fun definition hmem => hmatch.exists_belongs hmem,
    fun q hclaimed hdefined => hmatch.not_withheld hclaimed hdefined, ?_⟩
  constructor
  · intro h owner decl value q hclaimed hdecl hunion hmember
    obtain ⟨definition, hbelongs⟩ := hmatch.exists_case hclaimed hdecl hunion hmember
    exact h definition q hbelongs
  · intro h definition q hbelongs
    cases hbelongs with
    | named hclaimed hclass =>
      exact hmatch.not_withheld hclaimed (by simp [ApiDefinition.defines, NameMap.contains, hclass])
    | case hclaimed hdecl hunion hcase hmember =>
      exact h _ _ _ q hclaimed hdecl (by simp [NameMap.contains, hunion]) hmember

def sealedShape : JavaClass :=
  ⟨"Shape", ⟨1⟩, .empty, some .object, [], [.mk Serialization.serializable []], [], [], [],
    ["Circle"]⟩

def sealedCircle : JavaClass :=
  { JavaClass.ofFields "Circle" .empty (.basic "Shape") [("center", .basic "Point")] with
    annotations := [.mk Serialization.serializable []] }

/-- A sealed class with one subtype, and a type that comes from elsewhere. -/
def sealedShapes (imported : String) : Survey :=
  ⟨.ofClasses [sealedShape, sealedCircle],
    { Settings.empty with
      imports := NameMap.empty.insert "geometry" [imported]
      importedTypes := NameSet.add .empty imported
      roots := ["Shape"] }⟩

theorem unionMembers_sealedShapes (imported : String) :
    (sealedShapes imported).unionMembers sealedShape = [("Circle", "Circle")] := by
  have hvalue : Serialization.caseValue sealedCircle = "Circle" := by decide +kernel
  show [(Serialization.caseValue sealedCircle, "Circle")] = _
  rw [hvalue]

/-- Where the type of a field is imported, and no subtype is, no imported class is elaborated. -/
theorem elaborated_iff_point :
    ∃ api d, Describing.run (sealedShapes "Point").describeApi .empty = (.ok api, d) ∧
      (sealedShapes "Point").Withheld "Point" ∧
      ∀ definition q, (sealedShapes "Point").Belongs d definition q →
        ¬ (sealedShapes "Point").Withheld q := by
  let d := (Describing.run (sealedShapes "Point").describeApi .empty).2
  have hrun : Describing.run (sealedShapes "Point").describeApi .empty = (.ok d.api, d) :=
    Describing.run_eq_of_fst (by decide +kernel)
  have hunions : d.api.unions.keys = ["Shape"] ∧ d.claims.get? "Shape" = some "Shape" := by
    decide +kernel
  refine ⟨d.api, d, hrun, .inl (by decide), ?_⟩
  obtain ⟨-, -, -, hiff⟩ := elaborated_iff (sealedShapes "Point") hrun
  refine hiff.mpr fun owner decl value q hclaimed hdecl hunion hmember => ?_
  have hname := (NameMap.mem_keys_iff _ _).mpr hunion
  rw [hunions.1, List.mem_singleton] at hname
  rw [Claimed, hname, hunions.2] at hclaimed
  cases hclaimed
  cases hdecl
  rw [unionMembers_sealedShapes] at hmember
  cases List.mem_singleton.mp hmember
  intro hwithheld
  rcases hwithheld with himported | hopaque
  · revert himported
    decide
  · cases hopaque

/-- An imported subtype of a union is elaborated as one of its cases. -/
theorem imported_subtype_elaborated :
    ∃ api d definition, Describing.run (sealedShapes "Circle").describeApi .empty =
        (.ok api, d) ∧
      definition ∈ api.definitions ∧ (sealedShapes "Circle").Belongs d definition "Circle" ∧
      (sealedShapes "Circle").Withheld "Circle" := by
  let d := (Describing.run (sealedShapes "Circle").describeApi .empty).2
  let circle : ClassDefinition :=
    ⟨"Circle", NameMap.empty.insert "center" (.reference "Point")⟩
  let union : UnionDefinition := ⟨"Shape", "type", NameMap.empty.insert "Circle" circle⟩
  have hrun : Describing.run (sealedShapes "Circle").describeApi .empty = (.ok d.api, d) :=
    Describing.run_eq_of_fst (by decide +kernel)
  obtain ⟨hunion, hclaimed⟩ : d.api.unions.get? "Shape" = some union ∧
      (sealedShapes "Circle").Claimed d "Shape" := by
    unfold Claimed
    decide +kernel
  have hmem : circle ∈ d.api.definitions :=
    ApiDefinition.mem_definitions_iff.mpr (.inr ⟨"Shape", union, "Circle", hunion, rfl⟩)
  have hmember : ("Circle", "Circle") ∈ (sealedShapes "Circle").unionMembers sealedShape := by
    simp [unionMembers_sealedShapes]
  exact ⟨d.api, d, circle, hrun, hmem, .case hclaimed rfl hunion rfl hmember, .inl (by decide)⟩

end Survey

end ApiSurface
