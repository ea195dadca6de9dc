import ApiSurface.Proofs.FirstMembers
import ApiSurface.Proofs.GroupNames
import ApiSurface.Proofs.ImpliedAnnotations

/-!
# The endpoints of an API

Which classes are described as controllers, which methods are endpoints and which parameters are
described is told by what their annotations imply. An API has a group for each controller, in the
order of the names of the classes, and in it an endpoint for each name of a method that takes
requests, read from the first method of the name.
-/

namespace ApiSurface

open Controllers

namespace ClassCollection

/-- One of the annotations implies the type. -/
def Carries (classes : ClassCollection) (annotations : List AnnotationUse) (type : String) : Prop :=
  ∃ a ∈ annotations, classes.Implies a.name type

variable {classes : ClassCollection}

theorem carries_iff {annotations : List AnnotationUse} {type : String} :
    classes.carries annotations type = true ↔ classes.Carries annotations type :=
  isSome_resolve?_iff

instance (annotations : List AnnotationUse) (type : String) :
    Decidable (classes.Carries annotations type) :=
  decidable_of_iff _ carries_iff

end ClassCollection

namespace Survey

variable {survey : Survey}

/-! ## Controllers -/

/-- The class takes requests and is no annotation type, and the settings select it by its name,
as they do with any name if they have no pattern. -/
structure IsController (survey : Survey) (name : String) (decl : JavaClass) : Prop where
  noAnnotation : decl.isAnnotationType = false
  selected : survey.settings.controllers.patterns = [] ∨
    ∃ p ∈ survey.settings.controllers.patterns, p.matchesIn name = true
  marked : survey.classes.Carries decl.annotations restController

theorem isController_iff {name : String} {decl : JavaClass} :
    survey.IsController name decl ↔
      (!decl.isAnnotationType) = true ∧ survey.settings.isController name = true ∧
        survey.classes.carries decl.annotations restController = true := by
  have hselected : survey.settings.isController name = true ↔
      survey.settings.controllers.patterns = [] ∨
        ∃ p ∈ survey.settings.controllers.patterns, p.matchesIn name = true := by
    simp [Settings.isController, PatternSet.isEmpty, PatternSet.contains]
  rw [hselected, ClassCollection.carries_iff, Bool.not_eq_true']
  exact ⟨fun h => ⟨h.noAnnotation, h.selected, h.marked⟩, fun h => ⟨h.1, h.2.1, h.2.2⟩⟩

/-- The loaded controllers with their names, in the order of the names. -/
def namedControllers (survey : Survey) : List (String × JavaClass) :=
  survey.classes.classes.entries.filter fun e =>
    !e.2.isAnnotationType && (survey.settings.isController e.1 &&
      survey.classes.carries e.2.annotations restController)

theorem controllers_eq (survey : Survey) :
    survey.classes.controllers survey.settings = survey.namedControllers.map Prod.snd := by
  simp only [ClassCollection.controllers, ClassCollection.carriers, ClassCollection.select,
    namedControllers, List.filter_map, List.filter_filter]
  congr 1
  refine List.filter_congr fun e _ => ?_
  simp only [Function.comp_apply]
  cases survey.settings.isController e.1 <;>
    cases survey.classes.carries e.2.annotations restController <;> simp

theorem mem_namedControllers_iff {name : String} {decl : JavaClass} :
    (name, decl) ∈ survey.namedControllers ↔
      survey.classes.class? name = some decl ∧ survey.IsController name decl := by
  rw [namedControllers, List.mem_filter, NameMap.mem_entries_iff, isController_iff,
    Bool.and_eq_true, Bool.and_eq_true]
  rfl

/-! ## Methods -/

/-- The method takes requests under the name. -/
structure Serves (survey : Survey) (name : String) (decl : JavaClass) (method : JavaMethod) :
    Prop where
  isPublic : method.access.isPublic = true
  ofInstance : method.access.isStatic = false
  mapped : survey.classes.Carries method.annotations requestMapping
  name : method.name = name

def takesRequests (survey : Survey) (method : JavaMethod) : Bool :=
  method.access.isPublic && !method.access.isStatic &&
    survey.classes.carries method.annotations requestMapping

/-- The methods of the levels that take requests, level by level. -/
def mappedMembers (survey : Survey) (levels : List BoundClass) : List (BoundClass × JavaMethod) :=
  levels.flatMap fun level =>
    (level.decl.methods.filter survey.takesRequests).map fun m => (level, m)

theorem mappedMembers_eq (survey : Survey) (levels : List BoundClass) :
    (levels.flatMap fun level =>
      (survey.classes.mappedMethods level.decl).map fun m => (level, m)) =
        survey.mappedMembers levels := by
  have hmapped : ∀ decl, survey.classes.mappedMethods decl =
      decl.methods.filter survey.takesRequests := by
    intro decl
    rw [ClassCollection.mappedMethods, JavaClass.publicMethods, List.filter_filter]
    refine List.filter_congr fun m _ => ?_
    rw [takesRequests, Bool.and_comm, Bool.and_assoc]
  simp only [mappedMembers, hmapped]

theorem serves_iff {name : String} {decl : JavaClass} {method : JavaMethod} :
    survey.Serves name decl method ↔
      survey.takesRequests method = true ∧ method.name = name := by
  rw [takesRequests, Bool.and_eq_true, Bool.and_eq_true, Bool.not_eq_true',
    ClassCollection.carries_iff]
  constructor
  · intro h
    exact ⟨⟨⟨h.isPublic, h.ofInstance⟩, h.mapped⟩, h.name⟩
  · intro h
    obtain ⟨⟨⟨hpublic, hinstance⟩, hmapped⟩, hname⟩ := h
    exact ⟨hpublic, hinstance, hmapped, hname⟩

theorem find?_mappedMembers_eq_some_iff {levels : List BoundClass} {name : String}
    {level : BoundClass} {method : JavaMethod} :
    (survey.mappedMembers levels).find? (fun m => m.2.name == name) = some (level, method) ↔
      FirstMember JavaClass.methods (survey.Serves name) levels level method := by
  have hcondition : ∀ (level : BoundClass) (m : JavaMethod), survey.Serves name level.decl m ↔
      survey.takesRequests m = true ∧ ((level, m).2.name == name) = true := by
    intro level m
    rw [serves_iff, beq_iff_eq]
  rw [mappedMembers, find?_members_eq_some_iff (fun _ => survey.takesRequests) hcondition]
  constructor
  · rintro ⟨_, _, hfirst, heq⟩
    cases heq
    exact hfirst
  · exact fun hfirst => ⟨level, method, hfirst, rfl⟩

/-- There is one first method of a name. -/
theorem firstMember_unique {levels : List BoundClass} {name : String}
    {level level' : BoundClass} {method method' : JavaMethod}
    (h : FirstMember JavaClass.methods (survey.Serves name) levels level method)
    (h' : FirstMember JavaClass.methods (survey.Serves name) levels level' method') :
    level = level' ∧ method = method' := by
  rw [← find?_mappedMembers_eq_some_iff] at h h'
  cases h.symm.trans h'
  exact ⟨rfl, rfl⟩

/-! ## Parameters -/

/-- The parameter takes part of a request. -/
def Bound (survey : Survey) (parameter : JavaParameter) : Prop :=
  survey.classes.Carries parameter.annotations requestBody ∨
    survey.classes.Carries parameter.annotations requestParam ∨
    survey.classes.Carries parameter.annotations pathVariable

instance (parameter : JavaParameter) : Decidable (survey.Bound parameter) :=
  inferInstanceAs (Decidable (_ ∨ _ ∨ _))

/-- Where in a request a parameter comes from, and its name: its own, else the one that its
annotation gives. A body comes before a query, and this before a path. -/
inductive BoundTo (survey : Survey) (parameter : JavaParameter) :
    ParameterSource → String → Prop where
  | body {name : String} :
      survey.classes.Carries parameter.annotations requestBody → parameter.name = some name →
      BoundTo survey parameter .requestBody name
  | query {name : String} {a : ResolvedUse} :
      ¬ survey.classes.Carries parameter.annotations requestBody →
      survey.classes.resolve? parameter.annotations requestParam = some a →
      (parameter.name <|> survey.classes.declaredName? a) = some name →
      BoundTo survey parameter
        (.requestParam ((survey.classes.declaredName? a).getD name)) name
  | path {name : String} {a : ResolvedUse} :
      ¬ survey.classes.Carries parameter.annotations requestBody →
      ¬ survey.classes.Carries parameter.annotations requestParam →
      survey.classes.resolve? parameter.annotations pathVariable = some a →
      (parameter.name <|> survey.classes.declaredName? a) = some name →
      BoundTo survey parameter
        (.pathVariable ((survey.classes.declaredName? a).getD name)) name

/-- The parameter is described by where it is bound, with the type that its own stands for. -/
structure ParameterOf (survey : Survey) (env : TypeEnvironment) (parameter : JavaParameter)
    (described : EndpointParameter) : Prop where
  bound : survey.BoundTo parameter described.source described.name
  type : ∃ met, survey.readElement parameter.annotations parameter.type env =
    some (described.type, met)

theorem isSome_resolve?_iff_carries (parameter : JavaParameter) (type : String) :
    (survey.classes.resolve? parameter.annotations type).isSome = true ↔
      survey.classes.Carries parameter.annotations type :=
  ClassCollection.isSome_resolve?_iff

theorem parameterBinding?_eq_none_iff {parameter : JavaParameter} :
    survey.parameterBinding? parameter = none ↔ ¬ survey.Bound parameter := by
  simp only [Bound, ← isSome_resolve?_iff_carries]
  cases hbody : survey.classes.resolve? parameter.annotations requestBody <;>
    cases hquery : survey.classes.resolve? parameter.annotations requestParam <;>
    cases hpath : survey.classes.resolve? parameter.annotations pathVariable <;>
    simp [parameterBinding?, hbody, hquery, hpath]

theorem boundTo_of_binding {parameter : JavaParameter} {binding : Binding}
    {missing : SurfaceError} {source : ParameterSource} {name : String}
    (hbinding : survey.parameterBinding? parameter = some binding)
    (hbound : boundParameter parameter missing binding = .ok (source, name)) :
    survey.BoundTo parameter source name := by
  have hcarries := @isSome_resolve?_iff_carries survey parameter
  unfold parameterBinding? at hbinding
  cases hbody : survey.classes.resolve? parameter.annotations requestBody with
  | some a =>
    have hcarried := (hcarries requestBody).mp (by simp [hbody])
    simp only [hbody, Option.isSome_some, if_true, Option.some.injEq] at hbinding
    subst hbinding
    cases hname : parameter.name with
    | none => simp [boundParameter, hname] at hbound
    | some n =>
      simp only [boundParameter, hname, Except.ok.injEq, Prod.mk.injEq] at hbound
      obtain ⟨rfl, rfl⟩ := hbound
      exact .body hcarried hname
  | none =>
    have hnoBody : ¬ survey.classes.Carries parameter.annotations requestBody := fun hcarried =>
      by simpa [hbody] using (hcarries requestBody).mpr hcarried
    simp only [hbody, Option.isSome_none, Bool.false_eq_true, if_false] at hbinding
    cases hquery : survey.classes.resolve? parameter.annotations requestParam with
    | some a =>
      simp only [hquery, Option.some.injEq] at hbinding
      subst hbinding
      simp only [boundParameter] at hbound
      split at hbound
      · next n hname =>
        cases hbound
        exact .query hnoBody hquery hname
      · cases hbound
    | none =>
      have hnoQuery : ¬ survey.classes.Carries parameter.annotations requestParam :=
        fun hcarried => by simpa [hquery] using (hcarries requestParam).mpr hcarried
      cases hpath : survey.classes.resolve? parameter.annotations pathVariable with
      | none => simp [hquery, hpath] at hbinding
      | some a =>
        simp only [hquery, hpath, Option.some.injEq] at hbinding
        subst hbinding
        simp only [boundParameter] at hbound
        split at hbound
        · next n hname =>
          cases hbound
          exact .path hnoBody hnoQuery hpath hname
        · cases hbound

/-- The parameters of an endpoint are those of the method that are bound, in their order. -/
theorem forall₂_of_readParameters {controller : JavaClass} {method : JavaMethod}
    {env : TypeEnvironment} {index : Nat} {parameters : List JavaParameter}
    {described : List EndpointParameter} {met : List Sighting}
    (h : survey.readParameters controller method env index parameters = some (described, met)) :
    List.Forall₂ (survey.ParameterOf env) (parameters.filter (survey.Bound ·)) described := by
  induction parameters generalizing index described met with
  | nil =>
    cases h
    exact .nil
  | cons parameter rest ih =>
    simp only [readParameters, Option.bind_eq_bind, Option.bind_eq_some_iff, Option.some.injEq,
      Prod.mk.injEq, Prod.exists] at h
    obtain ⟨read, _, hread, others, _, hothers, rfl, -⟩ := h
    have hrest := ih hothers
    unfold readParameter at hread
    cases hbinding : survey.parameterBinding? parameter with
    | none =>
      have hunbound := parameterBinding?_eq_none_iff.mp hbinding
      simp only [hbinding, Option.some.injEq, Prod.mk.injEq] at hread
      obtain ⟨rfl, -⟩ := hread
      simpa [hunbound] using hrest
    | some binding =>
      have hbound : survey.Bound parameter := by
        by_contra hunbound
        simp [parameterBinding?_eq_none_iff.mpr hunbound] at hbinding
      simp only [hbinding] at hread
      split at hread
      · cases hread
      · next source name hsource =>
        simp only [Option.bind_eq_bind, Option.bind_eq_some_iff, Option.some.injEq,
          Prod.mk.injEq, Prod.exists] at hread
        obtain ⟨t, metThere, htype, rfl, -⟩ := hread
        rw [List.filter_cons_of_pos (by simpa using hbound)]
        exact .cons ⟨boundTo_of_binding hbinding hsource, metThere, htype⟩ hrest

/-! ## Endpoints -/

/-- Types of a method are seen through the arguments of its class, then through its own bounds. -/
def environmentOf (level : BoundClass) (method : JavaMethod) : TypeEnvironment :=
  level.environment.merge (level.decl.methodEnvironment method)

/-- The endpoint is read from the method. -/
structure EndpointOf (survey : Survey) (controller : JavaClass) (level : BoundClass)
    (method : JavaMethod) (endpoint : Endpoint) : Prop where
  name : endpoint.name = method.name
  uriTemplate : survey.uriTemplate controller method = .ok endpoint.uriTemplate
  requestMethod : endpoint.method = (survey.namedMethod? method.annotations <|>
    survey.namedMethod? level.decl.annotations).getD .get
  responseBody : ∃ met, survey.readBody method (environmentOf level method) =
    some (endpoint.responseBody, met)
  parameters : List.Forall₂ (survey.ParameterOf (environmentOf level method))
    (method.parameters.filter (survey.Bound ·)) endpoint.parameters
  generateUrlMethod : endpoint.generateUrlMethod =
    survey.settings.isUrlEndpoint controller.name method.name

theorem endpointOf_of_readEndpoint {controller : JavaClass} {level : BoundClass}
    {method : JavaMethod} {endpoint : Endpoint} {met : List Sighting}
    (h : survey.readEndpoint controller level method = some (endpoint, met)) :
    survey.EndpointOf controller level method endpoint := by
  simp only [readEndpoint, Option.bind_eq_bind, Option.bind_eq_some_iff, Option.some.injEq,
    Prod.mk.injEq, Prod.exists] at h
  obtain ⟨body, metBody, hbody, parameters, _, hparameters, uri, huri, rfl, -⟩ := h
  refine ⟨rfl, ?_, rfl, ⟨metBody, hbody⟩, forall₂_of_readParameters hparameters, rfl⟩
  cases htemplate : survey.uriTemplate controller method with
  | error e => simp [htemplate, Except.toOption] at huri
  | ok template =>
    rw [htemplate] at huri
    cases huri
    rfl

/-- The group of a controller has an endpoint for each name that a method of its hierarchy takes
requests under, read from the first such method. -/
structure GroupOf (survey : Survey) (controller : JavaClass) (levels : List BoundClass)
    (group : EndpointGroup) : Prop where
  name : group.name = survey.groupNameOf controller
  names : ∀ name, group.endpoints.contains name = true ↔
    ∃ level ∈ levels, ∃ method ∈ level.decl.methods, survey.Serves name level.decl method
  endpoints : ∀ name endpoint, group.endpoint? name = some endpoint → ∃ level method,
    FirstMember JavaClass.methods (survey.Serves name) levels level method ∧
      survey.EndpointOf controller level method endpoint

theorem groupOf_of_readGroup {controller : JavaClass} {group : EndpointGroup}
    {met : List Sighting} (h : survey.readGroup controller = some (group, met)) :
    ∃ levels, survey.classes.hierarchy (.raw controller) = .ok levels ∧
      survey.GroupOf controller levels group := by
  obtain ⟨endpoints, hread, rfl⟩ := readGroup_eq_some_iff.mp h
  unfold readEndpoints at hread
  cases hlevels : survey.classes.hierarchy (.raw controller) with
  | error e => simp [hlevels, Except.toOption] at hread
  | ok levels =>
    simp only [hlevels, Except.toOption, Option.bind_eq_bind, Option.bind_some,
      mappedMembers_eq] at hread
    have hfind : ∀ name, (EndpointGroup.addAll (.empty (survey.groupNameOf controller))
        endpoints).endpoint? name = (((survey.mappedMembers levels).find?
          fun m => m.2.name == name).bind
            fun m => survey.readEndpoint controller m.1 m.2).map Prod.fst := by
      intro name
      rw [EndpointGroup.endpoint?_addAll]
      refine (find?_of_readEach (fun m endpoint _ hendpoint => ?_) hread :
        endpoints.find? (·.name == name) = _)
      rw [(endpointOf_of_readEndpoint hendpoint).name]
    refine ⟨levels, rfl, by simp [EndpointGroup.empty], fun name => ?_,
      fun name endpoint hendpoint => ?_⟩
    · have hserved : (∃ m ∈ survey.mappedMembers levels, m.2.name = name) ↔
          ∃ level ∈ levels, ∃ method ∈ level.decl.methods,
            survey.Serves name level.decl method := by
        simp only [mappedMembers, serves_iff, List.mem_flatMap, List.mem_map, List.mem_filter]
        constructor
        · intro hgiven
          obtain ⟨_, ⟨level, hlevel, method, ⟨hmethod, hmapped⟩, rfl⟩, hname⟩ := hgiven
          exact ⟨level, hlevel, method, hmethod, hmapped, hname⟩
        · intro hgiven
          obtain ⟨level, hlevel, method, hmethod, hmapped, hname⟩ := hgiven
          exact ⟨_, ⟨level, hlevel, method, ⟨hmethod, hmapped⟩, rfl⟩, hname⟩
      show ((EndpointGroup.addAll _ endpoints).endpoint? name).isSome = true ↔ _
      rw [hfind, ← hserved]
      cases hfirst : (survey.mappedMembers levels).find? fun m => m.2.name == name with
      | none =>
        have hnone := List.find?_eq_none.mp hfirst
        simpa using hnone
      | some m =>
        obtain ⟨endpoint, _, hendpoint⟩ := exists_read_of_mem hread (List.mem_of_find?_eq_some hfirst)
        have hname := List.find?_some hfirst
        simp only [Option.bind_some, hendpoint, Option.map_some, Option.isSome_some, true_iff]
        exact ⟨m, List.mem_of_find?_eq_some hfirst, by simpa using hname⟩
    · rw [hfind, Option.map_eq_some_iff] at hendpoint
      obtain ⟨⟨_, _⟩, hread, rfl⟩ := hendpoint
      obtain ⟨⟨level, method⟩, hfirst, hread⟩ := Option.bind_eq_some_iff.mp hread
      exact ⟨level, method, find?_mappedMembers_eq_some_iff.mp hfirst,
        endpointOf_of_readEndpoint hread⟩

open Describing

/-- The groups of an API are those of the selected controllers, in their order. -/
theorem forall₂_groupOf_of_api {api : ApiDefinition} {d : Description}
    (hrun : run survey.describeApi .empty = (.ok api, d)) :
    List.Forall₂ (fun c group => ∃ levels,
      survey.classes.hierarchy (.raw c.2) = .ok levels ∧ survey.GroupOf c.2 levels group)
      survey.namedControllers api.endpointGroups := by
  obtain ⟨groups, r, ⟨met, _, _, hgroups, -, -⟩, rfl, -, -⟩ := exists_tour_of_api hrun
  rw [readGroups, controllers_eq] at hgroups
  have hpairs := List.forall₂_map_left_iff.mp (forall₂_of_readEach hgroups)
  refine hpairs.imp fun c group hgroup => ?_
  obtain ⟨more, hread⟩ := hgroup
  exact groupOf_of_readGroup hread

/-- The groups of an API are one for each loaded controller that the settings select, in the order
of the names of the classes. Each has exactly an endpoint for each name that a method of the
controller's hierarchy takes requests under, read from the first such method, with exactly the
parameters that are bound in a request. -/
theorem endpoints_exact (survey : Survey) {api : ApiDefinition} {d : Description}
    (hrun : run survey.describeApi .empty = (.ok api, d)) :
    ∃ controllers : List (String × JavaClass),
      controllers.Pairwise (fun a b => a.1 < b.1) ∧
      (∀ name decl, (name, decl) ∈ controllers ↔
        survey.classes.class? name = some decl ∧ survey.IsController name decl) ∧
      List.Forall₂ (fun c group => ∃ levels,
        survey.classes.hierarchy (.raw c.2) = .ok levels ∧ survey.GroupOf c.2 levels group)
        controllers api.endpointGroups :=
  ⟨survey.namedControllers, survey.classes.classes.sorted.filter _,
    fun _ _ => mem_namedControllers_iff, forall₂_groupOf_of_api hrun⟩

/-- A public method of an instance. -/
def publicMethod (name : String) (returnType : JavaType) (annotations : List AnnotationUse)
    (parameters : List JavaParameter) : JavaMethod :=
  ⟨name, "()", returnType, parameters, ⟨1⟩, .empty, annotations⟩

/-- A class of public methods. -/
def classOfMethods (name : String) (superclass : JavaType) (annotations : List AnnotationUse)
    (methods : List JavaMethod) : JavaClass :=
  ⟨name, ⟨1⟩, .empty, some superclass, [], annotations, [], methods, [], []⟩

/-- A controller that an annotation of the application marks, and methods that another one maps. It
inherits two endpoints and declares one of them again. -/
def orderStore : Survey :=
  ⟨.ofClasses [
    { classOfMethods "a.Api" .object [.mk restController []] [] with access := ⟨0x2001⟩ },
    { classOfMethods "a.Get" .object [.mk requestMapping []] [] with access := ⟨0x2001⟩ },
    classOfMethods "a.Orders" (.basic "a.Store") [.mk "a.Api" []]
      [publicMethod "find" (.basic "int") [.mk "a.Get" []]
          [⟨some "id", .basic "long", [.mk pathVariable []]⟩, ⟨some "user", .object, []⟩],
        publicMethod "count" (.basic "int") [] []],
    classOfMethods "a.Store" .object []
      [publicMethod "find" (.basic "boolean") [.mk requestMapping []] [],
        publicMethod "list" (.basic "int") [.mk requestMapping []] []]], .empty⟩

theorem endpoints_exact_store :
    ∃ api d controllers, run orderStore.describeApi .empty = (.ok api, d) ∧
      api.endpointGroups.map (·.endpoints.entries.map fun e =>
        (e.1, e.2.responseBody, e.2.parameters.map (·.name))) =
          [[("find", some .integer, ["id"]), ("list", some .integer, [])]] ∧
      (∀ name decl, (name, decl) ∈ controllers ↔
        orderStore.classes.class? name = some decl ∧ orderStore.IsController name decl) ∧
      List.Forall₂ (fun c group => ∃ levels,
        orderStore.classes.hierarchy (.raw c.2) = .ok levels ∧
          orderStore.GroupOf c.2 levels group) controllers api.endpointGroups := by
  have hrun : run orderStore.describeApi .empty =
      (.ok (run orderStore.describeApi .empty).2.api, (run orderStore.describeApi .empty).2) :=
    run_eq_of_fst (by decide +kernel)
  obtain ⟨controllers, -, hcontrollers, hgroups⟩ := endpoints_exact orderStore hrun
  exact ⟨_, _, controllers, hrun, by decide +kernel, hcontrollers, hgroups⟩

end Survey

end ApiSurface
