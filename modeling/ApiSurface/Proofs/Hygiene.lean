import Mathlib.Logic.Equiv.Basic
import ApiSurface.Proofs.Levels
import ApiSurface.Proofs.RenamedEndpoints
import ApiSurface.Proofs.RootOrder

/-!
# Names of type variables

A renaming of the variables of all classes keeps every API. A renaming in one class only may bring
variables together that were apart, or the other way round: classes follow each other's variables
by name.
-/

namespace ApiSurface

namespace ClassCollection

/-- The renaming changes no other class. -/
def Apart (collection : ClassCollection) (className : String) (ρ : String → String) : Prop :=
  ∀ name c, collection.class? name = some c → name ≠ className → c.rename ρ = c

theorem renameClass_eq_rename {collection : ClassCollection} {className : String}
    {ρ : String → String} (h : collection.Apart className ρ) :
    collection.renameClass className ρ = collection.rename ρ := by
  have hclasses : (collection.classes.mapEntries fun name c =>
      if name = className then c.rename ρ else c) =
      collection.classes.mapEntries fun _ c => c.rename ρ := by
    refine NameMap.ext_get? fun name => ?_
    simp only [NameMap.get?_mapEntries]
    cases hc : collection.classes.get? name with
    | none => rfl
    | some c =>
      by_cases hname : name = className
      · simp [hname]
      · simp [hname, h name c hc hname]
  rw [renameClass, hclasses, rename]

theorem apart_ofClasses {classes : List JavaClass} {className : String} {ρ : String → String}
    (h : ∀ c ∈ classes, c.name = className ∨ c.rename ρ = c) :
    (ofClasses classes).Apart className ρ := by
  intro name c hc hne
  rw [class?_ofClasses] at hc
  have hname : c.name = name := by simpa using List.find?_some hc
  exact (h c (List.mem_of_find?_eq_some hc)).resolve_left (hname ▸ hne)

end ClassCollection

namespace Survey

/-- Renames the variables of one class only. -/
def renameClass (survey : Survey) (className : String) (ρ : String → String) : Survey :=
  { survey with classes := survey.classes.renameClass className ρ }

theorem renameClass_eq_rename {survey : Survey} {className : String} {ρ : String → String}
    (h : survey.classes.Apart className ρ) :
    survey.renameClass className ρ = survey.rename ρ := by
  rw [renameClass, ClassCollection.renameClass_eq_rename h, rename]

variable {survey : Survey} {ρ : String → String} (hρ : Function.Injective ρ)

include hρ in
theorem readCalls_rootCalls_rename (survey : Survey) (roots : List String) :
    (survey.rename ρ).readCalls (rootCalls roots) =
      (survey.readCalls (rootCalls roots)).map (renamedMet ρ) := by
  have hcalls : rootCalls roots =
      (rootCalls roots).map fun call => (call.1.rename ρ, call.2.rename ρ) := by
    rw [rootCalls, List.map_map]
    rfl
  conv_lhs => rw [hcalls]
  exact readEach_rename fun call _ => reading_rename survey hρ call.2 [] call.1

include hρ in
theorem Tour.rename {roots : List String} {r : Registry} (h : survey.Tour (rootCalls roots) r) :
    (survey.rename ρ).Tour (rootCalls roots) (r.rename ρ) := by
  obtain ⟨types, met, hread, hwalk⟩ := h
  have hread' := readCalls_rootCalls_rename hρ survey roots
  rw [hread] at hread'
  exact ⟨types, met.map (Sighting.rename ρ), hread', hwalk.rename hρ⟩

include hρ in
theorem ApiTour.rename {groups : List EndpointGroup} {r : Registry}
    (h : survey.ApiTour groups r) : (survey.rename ρ).ApiTour groups (r.rename ρ) := by
  obtain ⟨met, types, more, hgroups, hread, hwalk⟩ := h
  have hgroups' := readGroups_rename survey hρ
  have hread' := readCalls_rootCalls_rename hρ survey survey.settings.roots
  rw [hgroups] at hgroups'
  rw [hread] at hread'
  refine ⟨met.map (Sighting.rename ρ), types, more.map (Sighting.rename ρ), hgroups', hread', ?_⟩
  rw [← List.map_append]
  exact hwalk.rename hρ

theorem ApiTour.unique {groups groups' : List EndpointGroup} {r r' : Registry}
    (h : survey.ApiTour groups r) (h' : survey.ApiTour groups' r') : groups = groups' ∧ r = r' := by
  obtain ⟨met, types, more, hgroups, hread, hwalk⟩ := h
  obtain ⟨met', types', more', hgroups', hread', hwalk'⟩ := h'
  obtain ⟨rfl, rfl⟩ := Prod.mk.inj (Option.some.inj (hgroups.symm.trans hgroups'))
  obtain ⟨rfl, rfl⟩ := Prod.mk.inj (Option.some.inj (hread.symm.trans hread'))
  exact ⟨rfl, hwalk.unique hwalk'⟩

/-! ## One API -/

/-- The names of variables do not matter to the API of roots, if they are changed in all classes. -/
theorem entryIn_eq_of_rename {roots : List String} {r r' : Registry} (hρ : Function.Injective ρ)
    (h : survey.Tour (rootCalls roots) r) (h' : (survey.rename ρ).Tour (rootCalls roots) r')
    (name : String) : survey.entryIn r name = (survey.rename ρ).entryIn r' name := by
  rw [← (h.rename hρ).unique h', entryIn_rename survey hρ]

/-- Nor do they to the API of controllers. -/
theorem ApiTour.eq_of_rename {groups groups' : List EndpointGroup} {r r' : Registry}
    (hρ : Function.Injective ρ) (h : survey.ApiTour groups r)
    (h' : (survey.rename ρ).ApiTour groups' r') :
    groups = groups' ∧
      ∀ name, survey.entryIn r name = (survey.rename ρ).entryIn r' name := by
  obtain ⟨hgroups, hr⟩ := (h.rename hρ).unique h'
  exact ⟨hgroups, fun name => by rw [← hr, entryIn_rename survey hρ]⟩

/-- Renaming the variables of one class keeps the API of roots, or the whole API, exactly if the
endpoints are read the same and under each name the class that has it gets the same, read under the
variables that are followed where it is met first. This is so in particular if the renaming does
not touch the variables of the other classes. -/
theorem api_of_renamed_class (survey : Survey) (className : String) {ρ : String → String}
    (hρ : Function.Injective ρ) :
    (∀ {roots : List String} {d d' : Description},
      Describing.run (roots.forM survey.describeRoot) .empty = (.ok (), d) →
      Describing.run (roots.forM (survey.renameClass className ρ).describeRoot) .empty =
        (.ok (), d') →
      ∃ r r', survey.Tour (rootCalls roots) r ∧
        (survey.renameClass className ρ).Tour (rootCalls roots) r' ∧
        (d.api = d'.api ↔ ∀ name, survey.entryIn r name =
          (survey.renameClass className ρ).entryIn r' name) ∧
        (survey.classes.Apart className ρ → d.api = d'.api)) ∧
    (∀ {api api' : ApiDefinition} {d d' : Description},
      Describing.run survey.describeApi .empty = (.ok api, d) →
      Describing.run (survey.renameClass className ρ).describeApi .empty = (.ok api', d') →
      ∃ groups groups' r r', survey.ApiTour groups r ∧
        (survey.renameClass className ρ).ApiTour groups' r' ∧
        (api = api' ↔ groups = groups' ∧ ∀ name, survey.entryIn r name =
          (survey.renameClass className ρ).entryIn r' name) ∧
        (survey.classes.Apart className ρ → api = api')) := by
  constructor
  · intro roots d d' hrun hrun'
    obtain ⟨r, htour, hmatch, hgroups, himports⟩ := exists_tour_of_roots hrun
    obtain ⟨r', htour', hmatch', hgroups', himports'⟩ := exists_tour_of_roots hrun'
    have hiff : d.api = d'.api ↔ ∀ name, survey.entryIn r name =
        (survey.renameClass className ρ).entryIn r' name := by
      simp only [← hmatch.entry_eq, ← hmatch'.entry_eq]
      exact ApiDefinition.eq_iff_entry (hgroups.trans hgroups'.symm)
        (himports.trans himports'.symm)
    refine ⟨r, r', htour, htour', hiff, fun hapart => hiff.mpr ?_⟩
    rw [renameClass_eq_rename hapart] at htour' ⊢
    exact entryIn_eq_of_rename hρ htour htour'
  · intro api api' d d' hrun hrun'
    obtain ⟨groups, r, htour, hgroups, himports, hentry⟩ := exists_tour_of_api hrun
    obtain ⟨groups', r', htour', hgroups', himports', hentry'⟩ := exists_tour_of_api hrun'
    have hiff : api = api' ↔ groups = groups' ∧ ∀ name, survey.entryIn r name =
        (survey.renameClass className ρ).entryIn r' name := by
      simp only [← hentry, ← hentry', ← hgroups, ← hgroups']
      constructor
      · rintro rfl
        exact ⟨rfl, fun _ => rfl⟩
      · intro hgiven
        obtain ⟨hsame, hentries⟩ := hgiven
        exact (ApiDefinition.eq_iff_entry hsame (himports.trans himports'.symm)).mpr hentries
    refine ⟨groups, groups', r, r', htour, htour', hiff, fun hapart => hiff.mpr ?_⟩
    rw [renameClass_eq_rename hapart] at htour' ⊢
    exact htour.eq_of_rename hρ htour'

/-- A class is the argument for the variable of one class, and itself gives the argument for the
variable of another one. -/
def nestedVariables (name : String) : Survey :=
  ⟨.ofClasses [.ofFields "Base" ⟨[("T", [])]⟩ .object [("value", .var "T")],
    .ofFields "Cell" ⟨[(name, [])]⟩ .object [("value", .var name)],
    .ofFields "Holder" .empty (.parameterized (.basic "Base") [.basic "Item"]) [],
    .ofFields "Item" .empty (.parameterized (.basic "Cell") [.basic "java.lang.String"]) []],
    { Settings.empty with roots := ["Holder"] }⟩

/-- With names that no other class has, either name of the variable gives one API. -/
theorem api_of_renamed_class_nested :
    (∃ d d', Describing.run (["Holder"].forM (nestedVariables "V").describeRoot) .empty =
        (.ok (), d) ∧
      Describing.run (["Holder"].forM
        ((nestedVariables "V").renameClass "Cell" (Equiv.swap "V" "U")).describeRoot) .empty =
          (.ok (), d') ∧ d.api = d'.api) ∧
    (∃ api d api' d', Describing.run (nestedVariables "V").describeApi .empty = (.ok api, d) ∧
      Describing.run ((nestedVariables "V").renameClass "Cell" (Equiv.swap "V" "U")).describeApi
        .empty = (.ok api', d') ∧ api = api') := by
  have hapart : (nestedVariables "V").classes.Apart "Cell" (Equiv.swap "V" "U") := by
    refine ClassCollection.apart_ofClasses fun c hc => ?_
    simp only [List.mem_cons, List.not_mem_nil, or_false] at hc
    obtain rfl | rfl | rfl | rfl := hc
    · exact .inr rfl
    · exact .inl rfl
    · exact .inr rfl
    · exact .inr rfl
  obtain ⟨hroots, hapi⟩ := api_of_renamed_class (nestedVariables "V") "Cell"
    (Equiv.swap "V" "U").injective
  constructor
  · obtain ⟨⟨⟩, d, hrun⟩ := Describing.exists_run_of_isOk (by decide +kernel :
      (Describing.run (["Holder"].forM (nestedVariables "V").describeRoot) .empty).1.isOk = true)
    obtain ⟨⟨⟩, d', hrun'⟩ := Describing.exists_run_of_isOk (by decide +kernel :
      (Describing.run (["Holder"].forM ((nestedVariables "V").renameClass "Cell"
        (Equiv.swap "V" "U")).describeRoot) .empty).1.isOk = true)
    obtain ⟨_, _, _, _, _, hsame⟩ := hroots hrun hrun'
    exact ⟨d, d', hrun, hrun', hsame hapart⟩
  · obtain ⟨api, d, hrun⟩ := Describing.exists_run_of_isOk (by decide +kernel :
      (Describing.run (nestedVariables "V").describeApi .empty).1.isOk = true)
    obtain ⟨api', d', hrun'⟩ := Describing.exists_run_of_isOk (by decide +kernel :
      (Describing.run ((nestedVariables "V").renameClass "Cell"
        (Equiv.swap "V" "U")).describeApi .empty).1.isOk = true)
    obtain ⟨_, _, _, _, _, _, _, hsame⟩ := hapi hrun hrun'
    exact ⟨api, d, api', d', hrun, hrun', hsame hapart⟩

/-- If another class has a variable of the same name, then a property may not be described as it
is otherwise. -/
theorem api_depends_on_variable_names :
    Function.Injective (Equiv.swap "T" "U") ∧ ∃ d d',
      Describing.run (["Holder"].forM (nestedVariables "T").describeRoot) .empty = (.ok (), d) ∧
      Describing.run (["Holder"].forM
        ((nestedVariables "T").renameClass "Cell" (Equiv.swap "T" "U")).describeRoot) .empty =
          (.ok (), d') ∧
      d.api ≠ d'.api := by
  have hrun : Describing.run (["Holder"].forM (nestedVariables "T").describeRoot) .empty =
      (.ok (), (Describing.run (["Holder"].forM (nestedVariables "T").describeRoot) .empty).2) :=
    Describing.run_eq_of_fst (by decide +kernel)
  have hrun' : Describing.run (["Holder"].forM
      ((nestedVariables "T").renameClass "Cell" (Equiv.swap "T" "U")).describeRoot) .empty =
        (.ok (), (Describing.run (["Holder"].forM
          ((nestedVariables "T").renameClass "Cell" (Equiv.swap "T" "U")).describeRoot)
            .empty).2) :=
    Describing.run_eq_of_fst (by decide +kernel)
  exact ⟨(Equiv.swap "T" "U").injective, _, _, hrun, hrun', by decide +kernel⟩

end Survey

end ApiSurface
