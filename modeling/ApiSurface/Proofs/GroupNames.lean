import Mathlib.Data.List.Nodup
import ApiSurface.Proofs.EndpointReading

/-!
# Names of endpoint groups

A group has the name that is made of its controller's, and a group is found by its name, the first
one where there are several. So the groups of an API are told apart by their names exactly if the
controllers are, and then each controller's group is found, with all its endpoints.
-/

namespace ApiSurface

namespace EndpointGroup

@[simp] theorem name_addAll (group : EndpointGroup) (endpoints : List Endpoint) :
    (group.addAll endpoints).name = group.name := by
  induction endpoints generalizing group with
  | nil => rfl
  | cons endpoint endpoints ih =>
    have hstep : (group.add endpoint).2.name = group.name := by
      unfold add
      split <;> rfl
    exact (ih _).trans hstep

/-- What a group had stays, and of the endpoints added the first of a name is found. -/
theorem endpoint?_addAll (group : EndpointGroup) (endpoints : List Endpoint) (name : String) :
    (group.addAll endpoints).endpoint? name =
      (group.endpoint? name <|> endpoints.find? (·.name == name)) := by
  induction endpoints generalizing group with
  | nil => simp [addAll]
  | cons endpoint endpoints ih =>
    have hstep : group.addAll (endpoint :: endpoints) =
        (group.add endpoint).2.addAll endpoints := rfl
    rw [hstep, ih, endpoint?_add]
    by_cases hname : name = endpoint.name
    · cases group.endpoint? name <;> simp [hname]
    · have hne : (endpoint.name == name) = false := by simp [Ne.symm hname]
      simp [hname, hne]

/-- An endpoint of a group is found by its own name. -/
theorem endpoint?_of_mem {name : String} {endpoints : List Endpoint} {endpoint : Endpoint}
    (h : endpoint ∈ ((empty name).addAll endpoints).endpoints.values) :
    ((empty name).addAll endpoints).endpoint? endpoint.name = some endpoint := by
  obtain ⟨key, hkey⟩ := (NameMap.mem_values_iff _ _).mp h
  have hfound : some endpoint = endpoints.find? (·.name == key) := by
    rw [← hkey]
    exact endpoint?_addAll (empty name) endpoints key
  have hname : endpoint.name = key := by simpa using List.find?_some hfound.symm
  rw [hname]
  exact hkey

end EndpointGroup

namespace Survey

variable {survey : Survey}

def groupNameOf (survey : Survey) (controller : JavaClass) : String :=
  survey.settings.naming.groupName controller.name

/-- The endpoints of a controller's methods and of those it inherits, the most derived first. -/
def readEndpoints (survey : Survey) (controller : JavaClass) :
    Option (List Endpoint × List Sighting) := do
  let levels ← (survey.classes.hierarchy (.raw controller)).toOption
  readEach (fun m => survey.readEndpoint controller m.1 m.2) (levels.flatMap fun level =>
    (survey.classes.mappedMethods level.decl).map fun m => (level, m))

theorem readGroup_eq_some_iff {controller : JavaClass} {group : EndpointGroup}
    {met : List Sighting} :
    survey.readGroup controller = some (group, met) ↔
      ∃ endpoints, survey.readEndpoints controller = some (endpoints, met) ∧
        group = EndpointGroup.addAll (.empty (survey.groupNameOf controller)) endpoints := by
  unfold readGroup readEndpoints
  cases (survey.classes.hierarchy (.raw controller)).toOption with
  | none => simp
  | some levels =>
    simp only [Option.bind_eq_bind, Option.bind_some, Option.bind_eq_some_iff, Option.some.injEq,
      Prod.mk.injEq, Prod.exists]
    constructor
    · intro hgiven
      obtain ⟨endpoints, _, hread, rfl, rfl⟩ := hgiven
      exact ⟨endpoints, hread, rfl⟩
    · intro hgiven
      obtain ⟨endpoints, hread, rfl⟩ := hgiven
      exact ⟨endpoints, met, hread, rfl, rfl⟩

theorem name_of_readGroup {controller : JavaClass} {group : EndpointGroup} {met : List Sighting}
    (h : survey.readGroup controller = some (group, met)) :
    group.name = survey.groupNameOf controller := by
  obtain ⟨endpoints, -, rfl⟩ := readGroup_eq_some_iff.mp h
  simp [EndpointGroup.empty]

section

variable {controllers : List JavaClass} {groups : List EndpointGroup} {met : List Sighting}

theorem names_of_readGroups (h : readEach survey.readGroup controllers = some (groups, met)) :
    groups.map EndpointGroup.name = controllers.map survey.groupNameOf :=
  map_of_readEach (fun _ _ _ hgroup => name_of_readGroup hgroup) h

/-- The first group of a name is that of the first controller of the name. -/
theorem find?_readGroups (h : readEach survey.readGroup controllers = some (groups, met))
    (name : String) :
    groups.find? (·.name == name) =
      ((controllers.find? (survey.groupNameOf · == name)).bind survey.readGroup).map
        Prod.fst := by
  refine find?_of_readEach (fun controller group _ hgroup => ?_) h
  rw [name_of_readGroup hgroup]

end

end Survey

/-- Where all items have different names, each is the first of its name. -/
theorem find?_eq_some_of_nodup {α : Type} {f : α → String} {l : List α} (h : (l.map f).Nodup)
    {a : α} (ha : a ∈ l) : l.find? (f · == f a) = some a := by
  obtain ⟨b, hb⟩ := Option.isSome_iff_exists.mp
    (List.find?_isSome.mpr ⟨a, ha, by simp⟩ : (l.find? (f · == f a)).isSome = true)
  have hname : f b = f a := by simpa using List.find?_some hb
  rw [hb, List.inj_on_of_nodup_map h (List.mem_of_find?_eq_some hb) ha hname]

namespace Survey

/-- The groups have different names exactly if the names made of the controllers' are different.
Under each name stands the group of the first controller of that name. So if the names are
different, then each controller's own group is found by its name, and in it the first endpoint of
each name that is read from the controller, which is each endpoint that the group has. -/
theorem groups_by_name (survey : Survey) {api : ApiDefinition} {d : Description}
    (hrun : Describing.run survey.describeApi .empty = (.ok api, d)) :
    ((api.endpointGroups.map EndpointGroup.name).Nodup ↔
      ((survey.classes.controllers survey.settings).map survey.groupNameOf).Nodup) ∧
    (∀ name, api.group? name = (((survey.classes.controllers survey.settings).find?
      (survey.groupNameOf · == name)).bind survey.readGroup).map Prod.fst) ∧
    ((api.endpointGroups.map EndpointGroup.name).Nodup →
      ∀ controller ∈ survey.classes.controllers survey.settings, ∃ endpoints group met,
        survey.readEndpoints controller = some (endpoints, met) ∧
        survey.readGroup controller = some (group, met) ∧
        api.group? (survey.groupNameOf controller) = some group ∧
        (∀ name, group.endpoint? name = endpoints.find? (·.name == name)) ∧
        ∀ endpoint ∈ group.endpoints.values, group.endpoint? endpoint.name = some endpoint) := by
  obtain ⟨groups, r, ⟨met, _, _, hgroups, -, -⟩, rfl, -, -⟩ := exists_tour_of_api hrun
  have hnames := names_of_readGroups hgroups
  have hfirst := find?_readGroups hgroups
  refine ⟨by rw [hnames], hfirst, ?_⟩
  intro hnodup controller hcontroller
  obtain ⟨group, more, hgroup⟩ := exists_read_of_mem hgroups hcontroller
  obtain ⟨endpoints, hread, rfl⟩ := readGroup_eq_some_iff.mp hgroup
  have hown : api.group? (survey.groupNameOf controller) =
      some (EndpointGroup.addAll (.empty (survey.groupNameOf controller)) endpoints) := by
    rw [hnames] at hnodup
    rw [ApiDefinition.group?, hfirst, find?_eq_some_of_nodup hnodup hcontroller]
    simp [hgroup]
  exact ⟨endpoints, _, more, hread, hgroup, hown,
    fun name => EndpointGroup.endpoint?_addAll _ endpoints name,
    fun endpoint => EndpointGroup.endpoint?_of_mem⟩

/-- Two controllers, each with one endpoint. -/
def twoControllers (first second : String) : Survey :=
  ⟨.ofClasses [.ofEndpoints first [("find", .basic "void")],
    .ofEndpoints second [("clear", .basic "void")]], .empty⟩

/-- Of controllers with names of their own, the group of one and its endpoint are found. -/
theorem groups_by_name_apart :
    ∃ api d group endpoints met, Describing.run
        (twoControllers "a.OrderController" "a.Items").describeApi .empty = (.ok api, d) ∧
      (api.endpointGroups.map EndpointGroup.name).Nodup ∧
      (twoControllers "a.OrderController" "a.Items").readEndpoints
        (.ofEndpoints "a.OrderController" [("find", .basic "void")]) = some (endpoints, met) ∧
      api.group? "Order" = some group ∧ group.endpoints.keys = ["find"] ∧
      (∀ name, group.endpoint? name = endpoints.find? (·.name == name)) ∧
      ∀ endpoint ∈ group.endpoints.values, group.endpoint? endpoint.name = some endpoint := by
  let survey := twoControllers "a.OrderController" "a.Items"
  let controller := JavaClass.ofEndpoints "a.OrderController" [("find", .basic "void")]
  have hrun : Describing.run survey.describeApi .empty =
      (.ok (Describing.run survey.describeApi .empty).2.api,
        (Describing.run survey.describeApi .empty).2) :=
    Describing.run_eq_of_fst (by decide +kernel)
  have hname : survey.groupNameOf controller = "Order" := by decide +kernel
  have hcontrollers : survey.classes.controllers survey.settings =
      [.ofEndpoints "a.Items" [("clear", .basic "void")], controller] := rfl
  have hmem : controller ∈ survey.classes.controllers survey.settings := by simp [hcontrollers]
  obtain ⟨hnames, -, hown⟩ := groups_by_name survey hrun
  have hnodup := hnames.mpr (by decide +kernel)
  obtain ⟨endpoints, group, met, hread, -, hgroup, hendpoints⟩ := hown hnodup controller hmem
  rw [hname] at hgroup
  refine ⟨_, _, group, endpoints, met, hrun, hnodup, hread, hgroup, ?_, hendpoints⟩
  have hkeys : ((Describing.run survey.describeApi .empty).2.api.group? "Order").map
      (·.endpoints.keys) = some ["find"] := by decide +kernel
  simpa [hgroup] using hkeys

/-- Two controllers of one display name have two groups of one name. Only the first is found. -/
theorem group_names_collide :
    ∃ api d, Describing.run (twoControllers "a.OrderController" "b.OrderController").describeApi
        .empty = (.ok api, d) ∧
      ¬ (api.endpointGroups.map EndpointGroup.name).Nodup ∧
      api.endpointGroups.map (·.endpoints.keys) = [["find"], ["clear"]] ∧
      (api.group? "Order").map (·.endpoints.keys) = some ["find"] := by
  let act := (twoControllers "a.OrderController" "b.OrderController").describeApi
  have hrun : Describing.run act .empty =
      (.ok (Describing.run act .empty).2.api, (Describing.run act .empty).2) :=
    Describing.run_eq_of_fst (by decide +kernel)
  exact ⟨_, _, hrun, by decide +kernel⟩

end Survey

end ApiSurface
