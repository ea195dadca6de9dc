import ApiSurface.Proofs.DefinitionStore
import ApiSurface.Proofs.EndpointReading
import ApiSurface.Proofs.InternalFailures
import ApiSurface.Proofs.UnionEntries

/-!
# Imports

Settings accept an import if its module is new, whatever its types are. An API that is finished
accepts a type if no module has it yet. So imports that settings accept fail in the end exactly
where the types of all modules repeat a name, within one module or over two of them, and otherwise
every module has the types that it was declared with.
-/

namespace ApiSurface

theorem FirstRepeated.append {values : List String} {value : String}
    (h : FirstRepeated values value) (more : List String) :
    FirstRepeated (values ++ more) value := by
  obtain ⟨front, back, rfl, hnodup, hmem⟩ := h
  exact ⟨front, back ++ more, by simp, hnodup, hmem⟩

theorem FirstRepeated.not_nodup {values : List String} {value : String}
    (h : FirstRepeated values value) : ¬ values.Nodup := by
  obtain ⟨front, back, rfl, -, hmem⟩ := h
  intro hnodup
  exact (List.nodup_append.mp hnodup).2.2 value hmem value List.mem_cons_self rfl

/-- Only one value is the first that comes again. -/
theorem FirstRepeated.unique {values : List String} {value value' : String}
    (h : FirstRepeated values value) (h' : FirstRepeated values value') : value = value' := by
  obtain ⟨front, back, rfl, hnodup, hmem⟩ := h
  obtain ⟨front', back', heq, hnodup', hmem'⟩ := h'
  rcases List.append_eq_append_iff.mp heq with ⟨between, rfl, hrest⟩ | ⟨between, rfl, hrest⟩
  · cases between with
    | nil => exact (List.cons.inj hrest).1
    | cons first between =>
      obtain ⟨rfl, -⟩ := List.cons.inj hrest
      exact absurd rfl ((List.nodup_append.mp hnodup').2.2 value hmem value List.mem_cons_self)
  · cases between with
    | nil => exact (List.cons.inj hrest).1.symm
    | cons first between =>
      obtain ⟨rfl, -⟩ := List.cons.inj hrest
      exact absurd rfl ((List.nodup_append.mp hnodup).2.2 value' hmem' value' List.mem_cons_self)

theorem NameMap.perm_insertEntry {β : Type} {k : String} (v : β) {l : List (String × β)}
    (h : l.lookup k = none) : (insertEntry k v l).Perm ((k, v) :: l) := by
  induction l with
  | nil => exact .refl _
  | cons first l ih =>
    obtain ⟨k', v'⟩ := first
    rw [insertEntry]
    by_cases hk : k = k'
    · simp [hk] at h
    · have hrest : l.lookup k = none := by
        rwa [List.lookup_cons, beq_false_of_ne hk] at h
      split_ifs
      · exact .refl _
      · exact ((ih hrest).cons _).trans (.swap _ _ _)

/-- A module with the names of its types, as it is declared. -/
abbrev ImportDeclaration := String × List String

/-- The types of the declarations, each beside its module. -/
def importedNames (imports : List ImportDeclaration) : List (String × String) :=
  imports.flatMap fun i => i.2.map fun type => (i.1, type)

theorem mem_importedNames_iff {imports : List ImportDeclaration} {module type : String} :
    (module, type) ∈ importedNames imports ↔
      ∃ types, (module, types) ∈ imports ∧ type ∈ types := by
  simp only [importedNames, List.mem_flatMap, List.mem_map, Prod.mk.injEq, Prod.exists]
  constructor
  · rintro ⟨module', types, himport, type', htype, rfl, rfl⟩
    exact ⟨types, himport, htype⟩
  · rintro ⟨types, himport, htype⟩
    exact ⟨module, types, himport, type, htype, rfl, rfl⟩

/-! ## Settings -/

namespace Settings

/-- Declares imports one after the other. The first that is not accepted ends it. -/
def addImports (settings : Settings) (imports : List ImportDeclaration) :
    Except SurfaceError Settings :=
  imports.foldlM (fun settings i => settings.addImport i.1 i.2) settings

/-- Settings keep all imports that they accept. -/
theorem perm_of_addImports {settings after : Settings} {imports : List ImportDeclaration}
    (h : settings.addImports imports = .ok after) :
    after.imports.entries.Perm (settings.imports.entries ++ imports) := by
  induction imports generalizing settings with
  | nil =>
    cases h
    simp
  | cons i imports ih =>
    obtain ⟨module, types⟩ := i
    rw [addImports, List.foldlM_cons] at h
    cases hfirst : settings.addImport module types with
    | error e =>
      rw [hfirst] at h
      cases h
    | ok between =>
      rw [hfirst] at h
      have hperm := ih h
      obtain ⟨hnew, rfl⟩ := addImport_eq_ok_iff.mp hfirst
      have hnone : settings.imports.entries.lookup module = none := by
        simpa [NameMap.contains, NameMap.get?] using hnew
      have hfirst := (NameMap.perm_insertEntry types hnone).append_right imports
      exact hperm.trans (hfirst.trans List.perm_middle.symm)

end Settings

/-! ## The imports of an API -/

namespace ApiDefinition

variable {api : ApiDefinition} {declared : List (String × String)}

/-- The API imports these types from these modules, and nothing else. -/
def ImportsOnly (api : ApiDefinition) (declared : List (String × String)) : Prop :=
  ∀ module type, api.Imports module type ↔ (module, type) ∈ declared

theorem ImportsOnly.isImported_iff (h : api.ImportsOnly declared) {type : String} :
    api.isImported type = true ↔ type ∈ declared.map Prod.snd := by
  simp [ApiDefinition.isImported_iff, h _ type]

theorem ImportsOnly.importType (h : api.ImportsOnly declared) (module type : String) :
    (api.importType module type).ImportsOnly (declared ++ [(module, type)]) := by
  intro module' type'
  rw [imports_importType_iff, h module' type']
  simp [or_comm]

/-- The types of one module are imported as long as none of them is there already. -/
theorem addImport_cases (h : api.ImportsOnly declared) (hnodup : (declared.map Prod.snd).Nodup)
    (module : String) (types : List String) :
    ((api.addImport module types).1 = .ok () ∧ (declared.map Prod.snd ++ types).Nodup ∧
      (api.addImport module types).2.ImportsOnly
        (declared ++ types.map fun type => (module, type))) ∨
    ∃ type, (api.addImport module types).1 = .error (.duplicateImport type) ∧
      FirstRepeated (declared.map Prod.snd ++ types) type := by
  induction types generalizing api declared with
  | nil => exact .inl ⟨rfl, by simpa using hnodup, by simpa [addImport] using h⟩
  | cons type types ih =>
    rw [addImport]
    split_ifs with himported
    · have hdeclared := h.isImported_iff.mp himported
      exact .inr ⟨type, rfl, declared.map Prod.snd, types, rfl, hnodup, hdeclared⟩
    · have hfresh : type ∉ declared.map Prod.snd := fun hmem =>
        himported (h.isImported_iff.mpr hmem)
      have hnodup' : ((declared ++ [(module, type)]).map Prod.snd).Nodup := by
        rw [List.map_append]
        exact List.nodup_append.mpr ⟨hnodup, by simp, by rintro a ha b hb rfl; simp_all⟩
      simpa using ih (h.importType module type) hnodup'

end ApiDefinition

namespace Survey

open Describing

variable {survey : Survey} {d after : Description}

theorem run_describeImport (module : String) (types : List String) (d : Description) :
    run (describeImport module types) d = (Halt.lift (d.api.addImport module types).1,
      { d with api := (d.api.addImport module types).2 }) := by
  rw [describeImport, run_bind_of_ok (run_api d), run_bind_of_ok (run_modify _ d), run_lift]

/-- Declarations are added one after the other, up to the first type that is there already. -/
theorem describeImports_cases {declared : List (String × String)}
    (h : d.api.ImportsOnly declared) (hnodup : (declared.map Prod.snd).Nodup)
    (imports : List ImportDeclaration) :
    ((declared.map Prod.snd ++ imports.flatMap Prod.snd).Nodup ∧
      ∃ after, run (describeImports imports) d = (.ok (), after) ∧
        after.api.ImportsOnly (declared ++ importedNames imports)) ∨
    ∃ type after, FirstRepeated (declared.map Prod.snd ++ imports.flatMap Prod.snd) type ∧
      run (describeImports imports) d = (.error (.failed (.duplicateImport type)), after) := by
  induction imports generalizing d declared with
  | nil => exact .inl ⟨by simpa using hnodup, d, rfl, by simpa [importedNames] using h⟩
  | cons i imports ih =>
    obtain ⟨module, types⟩ := i
    have hcons : describeImports ((module, types) :: imports) =
        (describeImport module types >>= fun _ => describeImports imports) := rfl
    have hrun := run_describeImport module types d
    rcases ApiDefinition.addImport_cases h hnodup module types with
      ⟨hok, hnodup', hadded⟩ | ⟨type, herror, hrepeated⟩
    · rw [hok] at hrun
      have hmore : importedNames ((module, types) :: imports) =
          types.map (fun type => (module, type)) ++ importedNames imports := rfl
      rw [hcons, run_bind_of_ok hrun, hmore]
      have hrest := ih (d := { d with api := (d.api.addImport module types).2 }) hadded
        (by simpa [Function.comp_def] using hnodup')
      simpa [Function.comp_def] using hrest
    · rw [herror] at hrun
      refine .inr ⟨type, _, ?_, by rw [hcons, run_bind_of_error hrun]⟩
      simpa using hrepeated.append (imports.flatMap Prod.snd)

/-! ## Controllers and roots -/

/-- Every way to halt but at an import. -/
def IsNotImport (h : Halt) : Prop := ∀ type, h ≠ .failed (.duplicateImport type)

theorem tolerates_isNotImport (survey : Survey) : survey.Tolerates IsNotImport where
  external e he type := by
    rintro ⟨⟩
    cases he
  ending := .inl fun _ => by rintro ⟨⟩

/-- Controllers and roots never fail with an import. -/
theorem isNotImport_of_describeSurface {h : Halt}
    (herror : (run survey.describeSurface d).1 = .error h) : IsNotImport h := by
  have hdescribe : ∀ type (env : TypeEnvironment) d, env.Proper →
      survey.Heeds IsNotImport d (survey.describe type env) := fun type env d henv =>
    heeds_describeTo_of_proper (tolerates_isNotImport survey) (fun _ => by rintro ⟨⟩) _ type henv
  have hheeds := heeds_describeSurface (d := d) (tolerates_isNotImport survey) hdescribe
  exact (hheeds d (.nothing d)).2 h herror

theorem importsOnly_of_describeSurface
    (hrun : run survey.describeSurface .empty = (.ok (), after)) : after.api.ImportsOnly [] := by
  have himports :
      Yields survey.describeSurface .empty fun _ after => after.api.imports = .empty := by
    refine yields_bind (yields_describeControllers rfl) ?_
    intro _ between hpost
    obtain ⟨groups, met, -, hadds⟩ := hpost
    refine (yields_describeRoots (hadds.followed.trans rfl)).imp ?_
    intro _ after hpost
    obtain ⟨types, more, -, htour⟩ := hpost
    exact (hadds.trans htour.adds).imports
  intro module type
  simp [ApiDefinition.Imports, himports () after hrun]

/-! ## The whole API -/

/-- The ways in which a survey ends: its controllers or roots halt, or they are described and its
imports decide. -/
theorem api_cases (survey : Survey) :
    (∃ h, (run survey.describeSurface .empty).1 = .error h ∧ survey.api.1 = .error h) ∨
    (run survey.describeSurface .empty).1 = .ok () ∧
      ((survey.settings.imports.entries.flatMap Prod.snd).Nodup ∧
        (∃ api, survey.api.1 = .ok api ∧
          api.ImportsOnly (importedNames survey.settings.imports.entries)) ∨
      ∃ type, FirstRepeated (survey.settings.imports.entries.flatMap Prod.snd) type ∧
        survey.api.1 = .error (.failed (.duplicateImport type))) := by
  have hapi : survey.api.1 = (run survey.describeApi .empty).1 := rfl
  rw [hapi, describeApi_eq]
  rcases hsurface : run survey.describeSurface .empty with ⟨h | _, d⟩
  · exact .inl ⟨h, rfl, by rw [run_bind_of_error hsurface]⟩
  rw [run_bind_of_ok hsurface]
  refine .inr ⟨rfl, ?_⟩
  have hcases := describeImports_cases (importsOnly_of_describeSurface hsurface) List.nodup_nil
    survey.settings.imports.entries
  rcases hcases with ⟨hnodup, after, hrun, honly⟩ | ⟨type, after, hrepeated, hrun⟩
  · refine .inl ⟨hnodup, after.api, ?_, honly⟩
    rw [run_bind_of_ok hrun, run_bind_of_ok (run_api after), run_bind_of_ok (run_forM_report _ _)]
    rfl
  · refine .inr ⟨type, hrepeated, ?_⟩
    rw [run_bind_of_error hrun]

/-- An API fails with an import where the controllers and roots are described, but a type of the
modules comes again. -/
theorem duplicateImport_iff (survey : Survey) (type : String) :
    survey.api.1 = .error (.failed (.duplicateImport type)) ↔
      (run survey.describeSurface .empty).1 = .ok () ∧
        FirstRepeated (survey.settings.imports.entries.flatMap Prod.snd) type := by
  rcases api_cases survey with
    ⟨h, hsurface, hapi⟩ | ⟨hsurface, ⟨hnodup, api, hapi, -⟩ | ⟨type', hrepeated, hapi⟩⟩
  · rw [hapi, hsurface]
    simpa using isNotImport_of_describeSurface hsurface type
  · rw [hapi]
    simpa using fun _ hrepeated => FirstRepeated.not_nodup hrepeated hnodup
  · rw [hapi, hsurface]
    simp only [true_and, Except.error.injEq, Halt.failed.injEq, SurfaceError.duplicateImport.injEq]
    constructor
    · rintro rfl
      exact hrepeated
    · exact hrepeated.unique

theorem exists_api_iff (survey : Survey) :
    (∃ api, survey.api.1 = .ok api) ↔ (run survey.describeSurface .empty).1 = .ok () ∧
      (survey.settings.imports.entries.flatMap Prod.snd).Nodup := by
  rcases api_cases survey with
    ⟨h, hsurface, hapi⟩ | ⟨hsurface, ⟨hnodup, api, hapi, -⟩ | ⟨type, hrepeated, hapi⟩⟩
  · simp [hapi, hsurface]
  · simp [hapi, hsurface, hnodup]
  · simp [hapi, hrepeated.not_nodup]

theorem importsOnly_of_api {api : ApiDefinition} (hok : survey.api.1 = .ok api) :
    api.ImportsOnly (importedNames survey.settings.imports.entries) := by
  rcases api_cases survey with
    ⟨h, -, hapi⟩ | ⟨-, ⟨-, api', hapi, honly⟩ | ⟨type, -, hapi⟩⟩
  · cases hapi.symm.trans hok
  · cases hapi.symm.trans hok
    exact honly
  · cases hapi.symm.trans hok

/-- Of imports that settings accept, those that name no type twice are never refused in the end:
where the controllers and roots are described, the API is, and every module has the types that it
was declared with. Otherwise the first type that comes again is refused, in the order of the
modules. -/
theorem imports_checked (classes : ClassCollection) {settings after : Settings}
    {imports : List ImportDeclaration} (hempty : settings.imports = .empty)
    (haccepted : settings.addImports imports = .ok after) :
    let survey : Survey := ⟨classes, after⟩
    let described := (run survey.describeSurface .empty).1 = .ok ()
    ((imports.flatMap Prod.snd).Nodup →
      (∀ type, survey.api.1 ≠ .error (.failed (.duplicateImport type))) ∧
        (described → ∃ api, survey.api.1 = .ok api)) ∧
    (∀ api, survey.api.1 = .ok api → ∀ module type,
      api.Imports module type ↔ ∃ types, (module, types) ∈ imports ∧ type ∈ types) ∧
    ∀ type, survey.api.1 = .error (.failed (.duplicateImport type)) ↔
      described ∧ FirstRepeated (after.imports.entries.flatMap Prod.snd) type := by
  intro survey described
  have hperm : after.imports.entries.Perm imports := by
    simpa [hempty, NameMap.empty] using Settings.perm_of_addImports haccepted
  have hnames : (after.imports.entries.flatMap Prod.snd).Nodup ↔ (imports.flatMap Prod.snd).Nodup :=
    (hperm.flatMap_right _).nodup_iff
  refine ⟨fun hnodup => ⟨fun type herror => ?_, fun hdescribed => ?_⟩,
    fun api hok module type => ?_,
    duplicateImport_iff survey⟩
  · exact ((duplicateImport_iff survey type).mp herror).2.not_nodup (hnames.mpr hnodup)
  · exact (exists_api_iff survey).mpr ⟨hdescribed, hnames.mpr hnodup⟩
  · rw [importsOnly_of_api hok module type, mem_importedNames_iff]
    simp only [survey, hperm.mem_iff]

/-- Two modules that are declared with one type are accepted as settings, but not as imports of an
API, although there is nothing to describe. -/
theorem imports_refused :
    ∃ after, Settings.empty.addImports [("a", ["Money"]), ("b", ["Money"])] = .ok after ∧
      (⟨.empty, after⟩ : Survey).api.1 = .error (.failed (.duplicateImport "Money")) :=
  ⟨_, rfl, by decide +kernel⟩

/-- Modules that are declared out of order, one of them without a type. An order is found by its
number, which comes from one of them. -/
theorem imports_checked_orders :
    let classes : ClassCollection := .ofClasses [.ofEndpoints "Orders" [("find", .basic "Id")]]
    let imports := [("money", ["Money", "Amount"]), ("a", []), ("keys", ["Id"])]
    ∃ after, Settings.empty.addImports imports = .ok after ∧
      (∀ type, (⟨classes, after⟩ : Survey).api.1 ≠ .error (.failed (.duplicateImport type))) ∧
      ∃ api, (⟨classes, after⟩ : Survey).api.1 = .ok api := by
  intro classes imports
  have haccepted : Settings.empty.addImports imports = .ok { Settings.empty with
      imports := ((NameMap.empty.insert "money" ["Money", "Amount"]).insert "a" []).insert "keys"
        ["Id"]
      importedTypes :=
        ((NameSet.addAll .empty ["Money", "Amount"]).addAll []).addAll ["Id"] } := rfl
  have hchecked := imports_checked classes rfl haccepted
  have hnodup : (imports.flatMap Prod.snd).Nodup := by decide
  exact ⟨_, haccepted, (hchecked.1 hnodup).1, (hchecked.1 hnodup).2 (by decide +kernel)⟩

end Survey

end ApiSurface
