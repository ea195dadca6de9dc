import ApiSurface.Proofs.EndpointReading
import ApiSurface.Proofs.RootOrder

/-!
# Definitions that the surface needs

The surface of an API refers to classes, and their definitions refer to more. A class is registered
wherever it is met, also where the type that it was met in is not kept: in the argument of a class
that is no container, or in an endpoint whose name is taken. So an API has more than its surface
needs exactly if a class that was passed by in this way is needed nowhere else.
-/

namespace ApiSurface

namespace ApiEntry

/-- The types of the properties of a class and of the cases of a union. -/
def memberTypes (entry : ApiEntry) : List ApiType :=
  let members := (entry.union?.toList.flatMap (·.cases.values))
  (entry.class?.toList ++ members).flatMap (·.properties.values)

def types (entry : ApiEntry) : List ApiType := entry.memberTypes ++ entry.alias?.toList

theorem defines_of_mem_memberTypes {entry : ApiEntry} {t : ApiType} (h : t ∈ entry.memberTypes) :
    entry.defines = true := by
  obtain ⟨c?, e?, u?, a?, b⟩ := entry
  cases c? <;> cases u? <;> simp_all [memberTypes, defines]

end ApiEntry

namespace ApiDefinition

/-- The types of the bodies and the parameters of all endpoints. -/
def endpointTypes (api : ApiDefinition) : List ApiType :=
  (api.endpointGroups.flatMap (·.endpoints.values)).flatMap Endpoint.types

end ApiDefinition

namespace Survey

/-- A type of the API's surface: of an endpoint, of an alias, or what a root stands for. -/
inductive OnSurface (survey : Survey) (api : ApiDefinition) (t : ApiType) : Prop where
  | endpoint : t ∈ api.endpointTypes → OnSurface survey api t
  | aliased : t ∈ api.aliases.values → OnSurface survey api t
  | root {root : String} {met : List Sighting} : root ∈ survey.settings.roots →
      survey.reading .empty [] (.basic root) = some (t, met) → OnSurface survey api t

/-- References lead from one name to another, through properties of classes and of the cases of
unions. -/
inductive Leads (api : ApiDefinition) (start : String) : String → Prop where
  | start : Leads api start start
  | member {owner name : String} {t : ApiType} :
      Leads api start owner → t ∈ (api.entry owner).memberTypes → t.reference? = some name →
      Leads api start name

/-- References lead to the name from a type of the surface. -/
def Reachable (survey : Survey) (api : ApiDefinition) (name : String) : Prop :=
  ∃ t start, survey.OnSurface api t ∧ t.reference? = some start ∧ Leads api start name

/-- A class is met at a place of which these types are kept: in the endpoints, in a root, or in
what a class that was met gets. What it gets counts if it stands in the API, and in any case if
the class is written as a value, since that is registered only after its target. -/
inductive MetAt (survey : Survey) (api : ApiDefinition) : Sighting → List ApiType → Prop where
  | endpoint {groups : List EndpointGroup} {met : List Sighting} {s : Sighting} :
      survey.readGroups = some (groups, met) → s ∈ met → MetAt survey api s api.endpointTypes
  | root {root : String} {t : ApiType} {met : List Sighting} {s : Sighting} :
      root ∈ survey.settings.roots → survey.reading .empty [] (.basic root) = some (t, met) →
      s ∈ met → MetAt survey api s [t]
  | inside {s s' : Sighting} {kept : List ApiType} {entry : ApiEntry} {met : List Sighting} :
      MetAt survey api s kept →
      survey.isValue s.className = true ∨ entry = api.entry (survey.nameOf s.className) →
      survey.entryAt? s = some (entry, met) → s' ∈ met →
      MetAt survey api s' (api.entry (survey.nameOf s.className)).types

/-- A class is met at a place that keeps no reference to it. -/
def PassedBy (survey : Survey) (api : ApiDefinition) (s : Sighting) : Prop :=
  ∃ kept, survey.MetAt api s kept ∧ ∀ t ∈ kept, t.reference? ≠ some (survey.nameOf s.className)

/-- Every definition is reachable from the surface. -/
def Minimal (survey : Survey) (api : ApiDefinition) : Prop :=
  ∀ name, api.defines name = true → survey.Reachable api name

/-- References lead to the name from the surface or from a class that was passed by. -/
def Found (survey : Survey) (api : ApiDefinition) (name : String) : Prop :=
  survey.Reachable api name ∨ ∃ s, survey.PassedBy api s ∧
    api.defines (survey.nameOf s.className) = true ∧ Leads api (survey.nameOf s.className) name

variable {survey : Survey} {api : ApiDefinition} {s : Sighting} {owner name : String} {t : ApiType}

theorem Leads.trans {start middle last : String} (h : Leads api start middle)
    (h' : Leads api middle last) : Leads api start last := by
  induction h' with
  | start => exact h
  | member _ ht hname ih => exact .member ih ht hname

theorem reachable_of_surface (ht : survey.OnSurface api t) (hname : t.reference? = some name) :
    survey.Reachable api name :=
  ⟨t, name, ht, hname, .start⟩

theorem Reachable.leads (h : survey.Reachable api owner) (hleads : Leads api owner name) :
    survey.Reachable api name :=
  have ⟨t, start, ht, hstart, howner⟩ := h
  ⟨t, start, ht, hstart, howner.trans hleads⟩

theorem Found.member (h : survey.Found api owner) (ht : t ∈ (api.entry owner).memberTypes)
    (hname : t.reference? = some name) : survey.Found api name := by
  rcases h with hreach | ⟨s, hpass, hdefined, hleads⟩
  · exact .inl (hreach.leads (.member .start ht hname))
  · exact .inr ⟨s, hpass, hdefined, .member hleads ht hname⟩

/-- What a definition refers to is found with it; an alias is on the surface itself. -/
theorem found_of_entry (howner : api.defines owner = true → survey.Found api owner)
    (ht : t ∈ (api.entry owner).types) (hname : t.reference? = some name) :
    survey.Found api name := by
  rcases List.mem_append.mp ht with hmember | halias
  · exact (howner (ApiEntry.defines_of_mem_memberTypes hmember)).member hmember hname
  · have hget : api.aliases.get? owner = some t := by simpa [ApiDefinition.entry] using halias
    have hsurface : survey.OnSurface api t :=
      .aliased ((NameMap.mem_values_iff _ _).mpr ⟨owner, hget⟩)
    exact .inl (reachable_of_surface hsurface hname)

/-- A class that is met at a place is found, if what the types of the place refer to is: the place
keeps a reference to the class, or the class is passed by there. -/
theorem found_of_metAt {kept : List ApiType} (hmet : survey.MetAt api s kept)
    (hkept : ∀ t ∈ kept, ∀ name, t.reference? = some name → survey.Found api name)
    (hdefined : api.defines (survey.nameOf s.className) = true) :
    survey.Found api (survey.nameOf s.className) := by
  by_cases h : ∃ t ∈ kept, t.reference? = some (survey.nameOf s.className)
  · obtain ⟨t, ht, hname⟩ := h
    exact hkept t ht _ hname
  · have hpass : survey.PassedBy api s := ⟨kept, hmet, fun t ht hname => h ⟨t, ht, hname⟩⟩
    exact .inr ⟨s, hpass, hdefined, .start⟩

/-- What is met on a walk through an API is found. The invariant of the walk is that a class is met
at some place, and is found if it has a definition. -/
theorem found_of_walk {groups : List EndpointGroup} {types : List ApiType}
    {met more : List Sighting} {r : Registry} (hgroups : survey.readGroups = some (groups, met))
    (hroots : survey.readCalls (rootCalls survey.settings.roots) = some (types, more))
    (hwalk : survey.Walk .empty (met ++ more) r) {d : Description} (hmatch : survey.Matches [] r d)
    {q : String} {followed : List String} (hq : r.get? q = some followed)
    (hdefined : d.api.defines (survey.nameOf q) = true) :
    survey.Found d.api (survey.nameOf q) := by
  let api := d.api
  let P (s : Sighting) : Prop := (∃ kept, survey.MetAt api s kept) ∧
    (api.defines (survey.nameOf s.className) = true →
      survey.Found api (survey.nameOf s.className))
  have hplace : ∀ s kept, survey.MetAt api s kept →
      (∀ t ∈ kept, ∀ name, t.reference? = some name → survey.Found api name) → P s :=
    fun s kept hmet hkept => ⟨⟨kept, hmet⟩, found_of_metAt hmet hkept⟩
  have hstart : ∀ s ∈ met ++ more, P s := by
    intro s hs
    rcases List.mem_append.mp hs with hs | hs
    · exact hplace s _ (.endpoint hgroups hs) fun t ht name hname =>
        .inl (reachable_of_surface (.endpoint ht) hname)
    · obtain ⟨root, hroot, t, first, hread, hs⟩ := (mem_met_iff hroots s).mp hs
      refine hplace s _ (.root hroot hread hs) fun u hu name hname => ?_
      rw [List.mem_singleton.mp hu] at hname
      exact .inl (reachable_of_surface (.root hroot hread) hname)
  have hinside : ∀ s entry inner, P s →
      survey.isValue s.className = true ∨ r.get? s.className = some s.followed →
      survey.entryAt? s = some (entry, inner) → ∀ s' ∈ inner, P s' := by
    intro s entry inner hs hlook hentry s' hs'
    obtain ⟨⟨kept, hmet⟩, howner⟩ := hs
    have hsettled : survey.isValue s.className = true ∨
        entry = api.entry (survey.nameOf s.className) := by
      refine hlook.imp_right fun hhere => ?_
      obtain ⟨met, hthere⟩ := hmatch.settled _ _ hhere (by simp)
      cases hthere.symm.trans hentry
      rfl
    exact hplace s' _ (.inside hmet hsettled hentry hs') fun t ht name => found_of_entry howner ht
  exact (hwalk.visits hinside hstart (by rintro _ _ ⟨⟩) q followed hq).2 hdefined

/-- To every definition references lead from the surface or from a class that was passed by. So an
API is minimal exactly if every class that was passed by somewhere, and has a definition, is
reachable from the surface in another way. -/
theorem minimal_iff (survey : Survey) {d : Description}
    (hrun : Describing.run survey.describeApi .empty = (.ok api, d)) :
    (∀ name, api.defines name = true → survey.Found api name) ∧
    (survey.Minimal api ↔ ∀ s, survey.PassedBy api s →
      api.defines (survey.nameOf s.className) = true →
      survey.Reachable api (survey.nameOf s.className)) := by
  have hfound : ∀ name, api.defines name = true → survey.Found api name := by
    intro name hdefined
    obtain ⟨groups, r, ⟨met, types, more, hgroups, hroots, hwalk⟩, rfl, hmatch, -, -⟩ :=
      exists_matches_of_api hrun
    obtain ⟨q, followed, hq, rfl⟩ := hmatch.exists_of_defines hdefined
    exact found_of_walk hgroups hroots hwalk hmatch hq hdefined
  refine ⟨hfound, fun h s _ => h _, fun hpassed name hdefined => ?_⟩
  rcases hfound name hdefined with hreach | ⟨s, hpass, hthere, hleads⟩
  · exact hreach
  · exact (hpassed s hpass hthere).leads hleads

def pageOfDrafts : JavaType := .parameterized (.basic "Page") [.basic "Draft"]

def notedOrder : JavaClass :=
  .ofFields "Order" .empty .object [("page", pageOfDrafts), ("note", .basic "Note")]

/-- An order with a page of drafts, where a page is no container, and with a note that has a
draft. -/
def notedOrders : Survey :=
  ⟨.ofClasses [notedOrder, .ofFields "Page" .empty .object [], fieldBean "Note" "draft" "Draft",
    .ofFields "Draft" .empty .object []], { Settings.empty with roots := ["Order"] }⟩

theorem reading_notedOrders {name : String} (hname : name ∈ ["Order", "Page", "Note", "Draft"]) :
    notedOrders.reading .empty [] (.basic name) = some (.reference name, [⟨name, []⟩]) := by
  simp only [List.mem_cons, List.not_mem_nil, or_false] at hname
  rcases hname with rfl | rfl | rfl | rfl <;> · rw [reading]; rfl

theorem met_notedOrders :
    (∃ entry, notedOrders.entryAt? ⟨"Order", []⟩ =
      some (entry, [⟨"Draft", []⟩, ⟨"Page", []⟩, ⟨"Note", []⟩])) ∧
    (∃ entry, notedOrders.entryAt? ⟨"Note", []⟩ = some (entry, [⟨"Draft", []⟩])) ∧
    (∃ entry, notedOrders.entryAt? ⟨"Page", []⟩ = some (entry, [])) ∧
    ∃ entry, notedOrders.entryAt? ⟨"Draft", []⟩ = some (entry, []) := by
  have hdraft : notedOrders.reading .empty [] (.basic "Draft") =
      some (.reference "Draft", [⟨"Draft", []⟩]) := reading_notedOrders (by simp)
  have hcontainer :
      notedOrders.classes.container? (.basic "Page") [.reference "Draft"] = none := rfl
  have hpage : notedOrders.reading .empty [] pageOfDrafts =
      some (.reference "Page", [⟨"Draft", []⟩, ⟨"Page", []⟩]) := by
    rw [pageOfDrafts, reading]
    simp [readingAll, hdraft, hcontainer, reading_notedOrders]
  refine ⟨?_, ?_, ⟨_, rfl⟩, ⟨_, rfl⟩⟩
  · have hkind : notedOrders.kind "Order" = .defined notedOrder := rfl
    have hshape : notedOrders.shape notedOrder = .ok (.members
        [⟨"page", pageOfDrafts, .empty, false⟩, ⟨"note", .basic "Note", .empty, false⟩]) := rfl
    simp [entryAt?, hkind, hshape, readShape, readClass, readEach, readSlot, hpage,
      reading_notedOrders]
  · have hkind : notedOrders.kind "Note" = .defined (fieldBean "Note" "draft" "Draft") := rfl
    have hshape : notedOrders.shape (fieldBean "Note" "draft" "Draft") =
        .ok (.members [⟨"draft", .basic "Draft", .empty, false⟩]) := rfl
    simp [entryAt?, hkind, hshape, readShape, readClass, readEach, readSlot, hdraft]

theorem metAt_notedOrders {kept : List ApiType} (h : notedOrders.MetAt api s kept) :
    s.className ∈ ["Order", "Page", "Note", "Draft"] ∧ s.followed = [] := by
  obtain ⟨⟨_, horder⟩, ⟨_, hnote⟩, ⟨_, hpage⟩, ⟨_, hdraft⟩⟩ := met_notedOrders
  induction h with
  | endpoint hgroups hs =>
    have hnone : notedOrders.readGroups = some ([], []) := rfl
    cases hnone.symm.trans hgroups
    cases hs
  | root hroot hread hs =>
    cases List.mem_singleton.mp hroot
    cases (reading_notedOrders (by simp)).symm.trans hread
    cases List.mem_singleton.mp hs
    simp
  | @inside s _ _ _ _ _ _ hentry hs ih =>
    obtain ⟨name, followed⟩ := s
    obtain ⟨hname, rfl⟩ := ih
    simp only [List.mem_cons, List.not_mem_nil, or_false] at hname
    rcases hname with rfl | rfl | rfl | rfl
    · cases horder.symm.trans hentry
      simp only [List.mem_cons, List.not_mem_nil, or_false] at hs
      rcases hs with rfl | rfl | rfl <;> simp
    · cases hpage.symm.trans hentry
      cases hs
    · cases hnote.symm.trans hentry
      cases List.mem_singleton.mp hs
      simp
    · cases hdraft.symm.trans hentry
      cases hs

/-- The draft is passed by in the type of the page, but the note has it. -/
theorem minimal_iff_noted :
    ∃ api d, Describing.run notedOrders.describeApi .empty = (.ok api, d) ∧
      notedOrders.Minimal api := by
  let api := (Describing.run notedOrders.describeApi .empty).2.api
  have hrun : Describing.run notedOrders.describeApi .empty =
      (.ok api, (Describing.run notedOrders.describeApi .empty).2) :=
    Describing.run_eq_of_fst (by decide +kernel)
  have hmembers : (api.entry "Order").memberTypes = [.reference "Note", .reference "Page"] ∧
      (api.entry "Note").memberTypes = [.reference "Draft"] := by decide +kernel
  have horder : notedOrders.Reachable api "Order" :=
    reachable_of_surface (.root (by simp [notedOrders]) (reading_notedOrders (by simp))) rfl
  have hnote : notedOrders.Reachable api "Note" :=
    horder.leads (.member (t := .reference "Note") .start (by simp [hmembers.1]) rfl)
  have hpage : notedOrders.Reachable api "Page" :=
    horder.leads (.member (t := .reference "Page") .start (by simp [hmembers.1]) rfl)
  have hdraft : notedOrders.Reachable api "Draft" :=
    hnote.leads (.member (t := .reference "Draft") .start (by simp [hmembers.2]) rfl)
  refine ⟨api, _, hrun, (minimal_iff notedOrders hrun).2.mpr ?_⟩
  intro s hpassed _
  obtain ⟨kept, hmet, -⟩ := hpassed
  have hname := (metAt_notedOrders hmet).1
  simp only [List.mem_cons, List.not_mem_nil, or_false] at hname
  rcases hname with h | h | h | h <;> rw [h] <;> assumption

/-- A controller with two methods of one name, of which the second gives a draft. -/
def overloadedOrders : Survey :=
  ⟨.ofClasses [.ofEndpoints "OrderController" [("find", .basic "Order"), ("find", .basic "Draft")],
    .ofFields "Order" .empty .object [], .ofFields "Draft" .empty .object []], .empty⟩

/-- The draft of a method that is left out is registered, though nothing leads to it. -/
theorem overload_not_minimal :
    ∃ api d, Describing.run overloadedOrders.describeApi .empty = (.ok api, d) ∧
      api.classes.keys = ["Draft", "Order"] ∧ ¬ overloadedOrders.Reachable api "Draft" := by
  let api := (Describing.run overloadedOrders.describeApi .empty).2.api
  have hrun : Describing.run overloadedOrders.describeApi .empty =
      (.ok api, (Describing.run overloadedOrders.describeApi .empty).2) :=
    Describing.run_eq_of_fst (by decide +kernel)
  have htypes : api.classes.keys = ["Draft", "Order"] ∧ api.endpointTypes = [.reference "Order"] ∧
      api.aliases.values = [] ∧ (api.entry "Order").memberTypes = [] := by decide +kernel
  obtain ⟨hkeys, hendpoints, haliases, horder⟩ := htypes
  have honly : ∀ name, overloadedOrders.Reachable api name → name = "Order" := by
    intro name h
    obtain ⟨t, start, hsurface, hstart, hleads⟩ := h
    have hfirst : start = "Order" := by
      cases hsurface with
      | endpoint ht =>
        rw [hendpoints] at ht
        cases List.mem_singleton.mp ht
        cases hstart
        rfl
      | aliased ht =>
        rw [haliases] at ht
        cases ht
      | root hroot _ => cases hroot
    induction hleads with
    | start => exact hfirst
    | member _ ht _ ih =>
      rw [ih, horder] at ht
      cases ht
  refine ⟨api, _, hrun, hkeys, fun h => ?_⟩
  have hdraft := honly "Draft" h
  simp at hdraft

end Survey

end ApiSurface
