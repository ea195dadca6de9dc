import ApiSurface.Proofs.EndpointSelection

/-!
# Endpoints without a response

A method that is declared to return nothing gives an endpoint without a response body. Nothing can
also be returned in a wrapper, through a variable or a wildcard, or as the class that stands for it:
the endpoints of such methods have the body `void`.
-/

namespace ApiSurface

open Controllers Describing

theorem exists_mem_of_forall₂ {α β : Type} {R : α → β → Prop} {as : List α} {bs : List β}
    (h : List.Forall₂ R as bs) {a : α} (ha : a ∈ as) :
    ∃ b ∈ bs, R a b := by
  induction h with
  | nil => cases ha
  | cons hfirst _ ih =>
    rcases List.mem_cons.mp ha with rfl | ha
    · exact ⟨_, List.mem_cons_self, hfirst⟩
    · obtain ⟨b, hb, hab⟩ := ih ha
      exact ⟨b, List.mem_cons_of_mem _ hb, hab⟩

namespace Survey

variable {survey : Survey} {env : TypeEnvironment} {followed : List String}

/-! ## Types that stand for nothing -/

/-- The type stands for nothing where the variables of a list are followed: by its name, by that of
the generic class that it is made of, as a variable that is bound to such a type, or as a wildcard
with such a bound. -/
inductive StandsForVoid (survey : Survey) (env : TypeEnvironment) :
    List String → JavaType → Prop where
  | builtin {followed : List String} {name : String} :
      survey.classes.builtin? name = some .void → StandsForVoid survey env followed (.basic name)
  | generic {followed : List String} {base : JavaType} {arguments : List JavaType}
      {ts : List ApiType} {met : List Sighting} :
      survey.readingAll env followed arguments = some (ts, met) →
      survey.classes.container? base ts = none → StandsForVoid survey env followed base →
      StandsForVoid survey env followed (.parameterized base arguments)
  | var {followed : List String} {name : String} {bound : JavaType} :
      env.lookup name = some bound → name ∉ followed →
      StandsForVoid survey env (name :: followed) bound →
      StandsForVoid survey env followed (.var name)
  | lower {followed : List String} {upper : Option JavaType} {lower : JavaType} :
      StandsForVoid survey env followed lower →
      StandsForVoid survey env followed (.wildcard upper (some lower))
  | upper {followed : List String} {upper : JavaType} :
      StandsForVoid survey env followed upper →
      StandsForVoid survey env followed (.wildcard (some upper) none)

theorem StandsForVoid.reading {type : JavaType} (h : survey.StandsForVoid env followed type) :
    ∃ met, survey.reading env followed type = some (.void, met) := by
  induction h with
  | builtin hname => exact ⟨[], by simp [Survey.reading, hname]⟩
  | generic harguments hcontainer _ ih =>
    obtain ⟨met, hread⟩ := ih
    exact ⟨_, by simp [Survey.reading, harguments, hcontainer, hread]; rfl⟩
  | @var followed name bound hbound hfresh _ ih =>
    obtain ⟨met, hread⟩ := ih
    have hne : bound ≠ .var name := by
      rintro rfl
      simp [reading_var, hbound] at hread
    exact ⟨met, by simp [reading_var, hbound, hne, hfresh, hread]⟩
  | lower _ ih => simpa [Survey.reading] using ih
  | upper _ ih => simpa [Survey.reading] using ih

theorem standIn_ne_void (name : String) : survey.standIn name ≠ .void := by
  unfold standIn
  split <;> nofun

theorem container?_ne_void {classes : ClassCollection} {base : JavaType} {ts : List ApiType} :
    classes.container? base ts ≠ some .void := by
  have horNull : ∀ t : ApiType, t.orNull ≠ .void := by
    intro t
    cases t <;> nofun
  intro h
  refine ClassCollection.of_container? (P := (· ≠ .void)) ?_ (fun t _ => horNull t) ?_ h rfl <;>
    nofun

theorem standsForVoid_of_reading {type : JavaType} {met : List Sighting}
    (hread : survey.reading env followed type = some (.void, met)) :
    survey.StandsForVoid env followed type := by
  refine reading_induct (motive := fun followed type t => t = .void →
    survey.StandsForVoid env followed type) ?builtin ?sighted ?array ?container ?generic ?free
    ?bound ?lower ?upper ?unbounded hread rfl
  case builtin =>
    rintro _ _ _ hbuiltin rfl
    exact .builtin hbuiltin
  case sighted => exact fun _ name h => absurd h (standIn_ne_void name)
  case array => nofun
  case container =>
    rintro _ _ _ _ _ _ hcontainer rfl
    exact absurd hcontainer container?_ne_void
  case generic => exact fun _ _ _ _ _ _ hread hcontainer ih h => .generic hread hcontainer (ih h)
  case free => nofun
  case bound => exact fun _ _ _ _ hbound hfresh ih h => .var hbound hfresh (ih h)
  case lower => exact fun _ _ _ _ ih h => .lower (ih h)
  case upper => exact fun _ _ _ ih h => .upper (ih h)
  case unbounded => nofun

/-- A type is read as `void` exactly if it stands for nothing. -/
theorem reading_eq_void_iff {type : JavaType} :
    (∃ met, survey.reading env followed type = some (.void, met)) ↔
      survey.StandsForVoid env followed type :=
  ⟨fun ⟨_, hread⟩ => standsForVoid_of_reading hread, StandsForVoid.reading⟩

/-! ## Bodies -/

section

variable {controller : JavaClass} {level : BoundClass} {method : JavaMethod} {endpoint : Endpoint}

/-- An endpoint has no body exactly if its method is declared to return nothing. -/
theorem responseBody_eq_none_iff (h : survey.EndpointOf controller level method endpoint) :
    endpoint.responseBody = none ↔ method.returnType.isVoid = true := by
  obtain ⟨met, hbody⟩ := h.responseBody
  unfold readBody at hbody
  split_ifs at hbody with hvoid
  · simp only [Option.some.injEq, Prod.mk.injEq] at hbody
    exact iff_of_true hbody.1.symm hvoid
  · simp only [Option.bind_eq_bind, Option.bind_eq_some_iff, Option.some.injEq, Prod.mk.injEq,
      Prod.exists] at hbody
    obtain ⟨_, _, -, hsome, -⟩ := hbody
    simp [← hsome, hvoid]

/-- An endpoint has the body `void` exactly if its method is not declared to return nothing, but
what it returns stands for nothing and may not be null. -/
theorem responseBody_eq_void_iff (h : survey.EndpointOf controller level method endpoint) :
    endpoint.responseBody = some .void ↔
      method.returnType.isVoid = false ∧
      AnnotationUse.anyOf method.annotations nullMarkers = false ∧
      survey.StandsForVoid (environmentOf level method) []
        (survey.classes.payload method.returnType) := by
  have hnone := responseBody_eq_none_iff h
  cases hvoid : method.returnType.isVoid with
  | true => simp [hnone.mpr hvoid]
  | false =>
    obtain ⟨_, hbody⟩ := h.responseBody
    simp only [readBody, hvoid, Bool.false_eq_true, if_false, readElement, Option.bind_eq_bind,
      Option.bind_eq_some_iff, Option.some.injEq, Prod.mk.injEq, Prod.exists] at hbody
    obtain ⟨_, _, ⟨t, met, hread, rfl, -⟩, hsome, -⟩ := hbody
    rw [← reading_eq_void_iff, hread, ← hsome]
    cases AnnotationUse.anyOf method.annotations nullMarkers with
    | true => cases t <;> simp [ApiType.orNull, ApiType.void]
    | false => simp

end

/-! ## Endpoints of an API -/

/-- An endpoint is read from the method: it belongs to the hierarchy of a selected controller and is
the first of its name there that takes requests. -/
structure Served (survey : Survey) (controller : JavaClass) (level : BoundClass)
    (method : JavaMethod) : Prop where
  selected : ∃ name, survey.classes.class? name = some controller ∧
    survey.IsController name controller
  first : ∃ levels, survey.classes.hierarchy (.raw controller) = .ok levels ∧
    FirstMember JavaClass.methods (survey.Serves method.name) levels level method

/-- The API has the endpoint of the method in the group of the controller. -/
structure HasEndpoint (survey : Survey) (api : ApiDefinition) (controller : JavaClass)
    (level : BoundClass) (method : JavaMethod) (endpoint : Endpoint) : Prop where
  read : survey.EndpointOf controller level method endpoint
  held : ∃ group ∈ api.endpointGroups, group.name = survey.groupNameOf controller ∧
    group.endpoint? method.name = some endpoint

section

variable {api : ApiDefinition} {d : Description}

/-- Every endpoint is that of a method. -/
theorem exists_served (hrun : run survey.describeApi .empty = (.ok api, d)) {group : EndpointGroup}
    (hgroup : group ∈ api.endpointGroups) {endpoint : Endpoint}
    (hendpoint : endpoint ∈ group.endpoints.values) :
    ∃ controller level method, survey.Served controller level method ∧
      survey.HasEndpoint api controller level method endpoint := by
  obtain ⟨c, hc, levels, hlevels, hof⟩ :=
    exists_mem_of_forall₂ (forall₂_groupOf_of_api hrun).flip hgroup
  obtain ⟨name, hname⟩ := (NameMap.mem_values_iff _ _).mp hendpoint
  obtain ⟨level, method, hfirst, hread⟩ := hof.endpoints name endpoint hname
  obtain rfl := hfirst.meets.name
  exact ⟨c.2, level, method, ⟨⟨c.1, mem_namedControllers_iff.mp hc⟩, levels, hlevels, hfirst⟩,
    hread, group, hgroup, hof.name, hname⟩

/-- Every such method has its endpoint. -/
theorem exists_endpoint (hrun : run survey.describeApi .empty = (.ok api, d))
    {controller : JavaClass} {level : BoundClass} {method : JavaMethod}
    (h : survey.Served controller level method) :
    ∃ endpoint, survey.HasEndpoint api controller level method endpoint := by
  obtain ⟨name, hselected⟩ := h.selected
  obtain ⟨levels, hlevels, hfirst⟩ := h.first
  obtain ⟨group, hgroup, levels', hlevels', hof⟩ :=
    exists_mem_of_forall₂ (forall₂_groupOf_of_api hrun) (mem_namedControllers_iff.mpr hselected)
  cases hlevels.symm.trans hlevels'
  have hcontains := (hof.names method.name).mpr
    ⟨level, hfirst.level_mem, method, hfirst.member_mem, hfirst.meets⟩
  obtain ⟨endpoint, hendpoint⟩ := Option.isSome_iff_exists.mp hcontains
  obtain ⟨level', method', hfirst', hread⟩ := hof.endpoints method.name endpoint hendpoint
  obtain ⟨rfl, rfl⟩ := firstMember_unique hfirst hfirst'
  exact ⟨endpoint, hread, group, hgroup, hof.name, hendpoint⟩

/-- The method returns nothing, or the class that stands for it: what a wrapper of responses holds,
with the arguments of the controller in place of variables. -/
def ReturnsVoid (survey : Survey) (level : BoundClass) (method : JavaMethod) : Prop :=
  (survey.classes.payload method.returnType).resolve (environmentOf level method) ∈
      [.basic "void", .basic "java.lang.Void"] ∨
    survey.classes.payload (method.returnType.resolve (environmentOf level method)) ∈
      [.basic "void", .basic "java.lang.Void"]

/-- No endpoint of an API has the body `void` exactly if every method with an endpoint that returns
what stands for nothing, and may not be null, is declared to return nothing. The endpoints of the
methods that return nothing, or the class that stands for it, have no body exactly if all these
methods are so declared. -/
theorem void_responses_iff (survey : Survey) {api : ApiDefinition} {d : Description}
    (hrun : run survey.describeApi .empty = (.ok api, d)) :
    ((∀ group ∈ api.endpointGroups, ∀ endpoint ∈ group.endpoints.values,
        endpoint.responseBody ≠ some .void) ↔
      ∀ controller level method, survey.Served controller level method →
        survey.StandsForVoid (environmentOf level method) []
          (survey.classes.payload method.returnType) →
        AnnotationUse.anyOf method.annotations nullMarkers = false →
        method.returnType = .basic "void") ∧
    ((∀ controller level method endpoint, survey.Served controller level method →
        survey.HasEndpoint api controller level method endpoint →
        survey.ReturnsVoid level method → endpoint.responseBody = none) ↔
      ∀ controller level method, survey.Served controller level method →
        survey.ReturnsVoid level method → method.returnType = .basic "void") := by
  have hdeclared : ∀ type : JavaType, type.isVoid = true ↔ type = .basic "void" :=
    fun _ => JavaType.isBasic_iff
  simp only [← hdeclared]
  constructor
  · constructor
    · intro hnone controller level method hserved hvoid hmarked
      by_contra hvalue
      obtain ⟨endpoint, hread, group, hgroup, -, hfound⟩ := exists_endpoint hrun hserved
      exact hnone group hgroup endpoint ((NameMap.mem_values_iff _ _).mpr ⟨_, hfound⟩)
        ((responseBody_eq_void_iff hread).mpr ⟨by simpa using hvalue, hmarked, hvoid⟩)
    · intro hall group hgroup endpoint hendpoint hbody
      obtain ⟨controller, level, method, hserved, hhas⟩ := exists_served hrun hgroup hendpoint
      obtain ⟨hvalue, hmarked, hvoid⟩ := (responseBody_eq_void_iff hhas.read).mp hbody
      simp [hall controller level method hserved hvoid hmarked] at hvalue
  · constructor
    · intro hnone controller level method hserved hreturns
      obtain ⟨endpoint, hhas⟩ := exists_endpoint hrun hserved
      exact (responseBody_eq_none_iff hhas.read).mp
        (hnone controller level method endpoint hserved hhas hreturns)
    · intro hall controller level method endpoint hserved hhas hreturns
      exact (responseBody_eq_none_iff hhas.read).mpr
        (hall controller level method hserved hreturns)

end

/-- A response with a payload. -/
def responseOf (payload : JavaType) : JavaType :=
  .parameterized (.basic "org.springframework.http.ResponseEntity") [payload]

/-- What the endpoints of an API return, by their names. -/
def bodies (api : ApiDefinition) : List (String × Option ApiType) :=
  api.endpointGroups.flatMap fun group => group.endpoints.entries.map fun e =>
    (e.1, e.2.responseBody)

/-- A controller with a method that is declared to return nothing. -/
def declaredVoid : Survey :=
  ⟨.ofClasses [.ofEndpoints "a.Orders"
    [("clear", .basic "void"), ("find", responseOf (.basic "java.lang.String"))]], .empty⟩

theorem void_responses_declared :
    ∃ api d, run declaredVoid.describeApi .empty = (.ok api, d) ∧
      bodies api = [("clear", none), ("find", some .string)] ∧
      ∀ controller level method, declaredVoid.Served controller level method →
        declaredVoid.StandsForVoid (environmentOf level method) []
          (declaredVoid.classes.payload method.returnType) →
        AnnotationUse.anyOf method.annotations nullMarkers = false →
        method.returnType = .basic "void" := by
  let act := declaredVoid.describeApi
  have hrun : run act .empty = (.ok (run act .empty).2.api, (run act .empty).2) :=
    run_eq_of_fst (by decide +kernel)
  obtain ⟨hbodies, -⟩ := void_responses_iff declaredVoid hrun
  exact ⟨_, _, hrun, by decide +kernel, hbodies.mp (by decide +kernel)⟩

/-- A controller with methods that return nothing in a response, as the class that stands for it
and as the bound of a wildcard. -/
def wrappedVoid : Survey :=
  ⟨.ofClasses [.ofEndpoints "a.Orders"
    [("clear", responseOf (.basic "java.lang.Void")), ("drop", .basic "java.lang.Void"),
      ("empty", responseOf (.wildcard (some (.basic "java.lang.Void")) none)),
      ("reset", .basic "void")]], .empty⟩

/-- Of these methods only the one that is declared to return nothing has no body. -/
theorem void_response_wrapped :
    ∃ api d, run wrappedVoid.describeApi .empty = (.ok api, d) ∧
      bodies api = [("clear", some .void), ("drop", some .void), ("empty", some .void),
        ("reset", none)] ∧
      ¬ ∀ group ∈ api.endpointGroups, ∀ endpoint ∈ group.endpoints.values,
        endpoint.responseBody ≠ some .void := by
  let act := wrappedVoid.describeApi
  have hrun : run act .empty = (.ok (run act .empty).2.api, (run act .empty).2) :=
    run_eq_of_fst (by decide +kernel)
  exact ⟨_, _, hrun, by decide +kernel⟩

end Survey

end ApiSurface
