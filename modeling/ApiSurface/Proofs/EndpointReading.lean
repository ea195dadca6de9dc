import ApiSurface.Proofs.TouringRuns

/-!
# Readings of controllers

The endpoints of controllers can be read as types can: without an API under construction. What the
controllers, the roots and the imports of a survey come to is the whole API.
-/

namespace ApiSurface

/-- A controller whose public methods all take requests and have no parameters. -/
def JavaClass.ofEndpoints (name : String) (methods : List (String × JavaType)) : JavaClass :=
  ⟨name, ⟨1⟩, .empty, some .object, [], [.mk Controllers.restController []], [],
    methods.map fun m =>
      ⟨m.1, "()", m.2, [], ⟨1⟩, .empty, [.mk Controllers.requestMapping []]⟩, [], []⟩

def EndpointGroup.addAll (group : EndpointGroup) (endpoints : List Endpoint) : EndpointGroup :=
  endpoints.foldl (fun group endpoint => (group.add endpoint).2) group

/-- The imports of all modules, one module after the other. -/
def Settings.importMap (settings : Settings) : NameMap NameSet :=
  settings.imports.entries.foldl (fun imports (module, types) =>
    ApiDefinition.importsWith imports module types) .empty

namespace Survey

def readElement (survey : Survey) (annotations : List AnnotationUse) (type : JavaType)
    (env : TypeEnvironment) : Option (ApiType × List Sighting) := do
  let (t, met) ← survey.reading env [] type
  some (if AnnotationUse.anyOf annotations nullMarkers then t.orNull else t, met)

def readParameter (survey : Survey) (controller : JavaClass) (method : JavaMethod)
    (env : TypeEnvironment) (index : Nat) (parameter : JavaParameter) :
    Option (Option EndpointParameter × List Sighting) :=
  match survey.parameterBinding? parameter with
  | none => some (none, [])
  | some binding =>
    match boundParameter parameter (.missingParameterName controller.name method.name index)
      binding with
    | .error _ => none
    | .ok (source, name) => do
      let (t, met) ← survey.readElement parameter.annotations parameter.type env
      some (some ⟨source, name, t⟩, met)

def readParameters (survey : Survey) (controller : JavaClass) (method : JavaMethod)
    (env : TypeEnvironment) :
    Nat → List JavaParameter → Option (List EndpointParameter × List Sighting)
  | _, [] => some ([], [])
  | index, parameter :: rest => do
    let (read, met) ← survey.readParameter controller method env index parameter
    let (others, more) ← readParameters survey controller method env (index + 1) rest
    some (read.toList ++ others, met ++ more)

def readBody (survey : Survey) (method : JavaMethod) (env : TypeEnvironment) :
    Option (Option ApiType × List Sighting) :=
  if method.returnType.isVoid then some (none, [])
  else do
    let (t, met) ← survey.readElement method.annotations
      (survey.classes.payload method.returnType) env
    some (some t, met)

/-- The request method that annotations name, if it is known. -/
def namedMethod? (survey : Survey) (annotations : List AnnotationUse) : Option HttpMethod :=
  (survey.classes.mappedMethod? annotations).bind HttpMethod.ofName?

def readEndpoint (survey : Survey) (controller : JavaClass) (level : BoundClass)
    (method : JavaMethod) : Option (Endpoint × List Sighting) := do
  let env := level.environment.merge (level.decl.methodEnvironment method)
  let (responseBody, met) ← survey.readBody method env
  let (parameters, more) ← survey.readParameters controller method env 0 method.parameters
  let uriTemplate ← (survey.uriTemplate controller method).toOption
  let requestMethod := (survey.namedMethod? method.annotations <|>
    survey.namedMethod? level.decl.annotations).getD .get
  let generateUrlMethod := survey.settings.isUrlEndpoint controller.name method.name
  some (⟨method.name, uriTemplate, requestMethod, responseBody, parameters, generateUrlMethod⟩,
    met ++ more)

def readGroup (survey : Survey) (controller : JavaClass) :
    Option (EndpointGroup × List Sighting) := do
  let levels ← (survey.classes.hierarchy (.raw controller)).toOption
  let methods := levels.flatMap fun level =>
    (survey.classes.mappedMethods level.decl).map fun m => (level, m)
  let (endpoints, met) ← readEach (fun m => survey.readEndpoint controller m.1 m.2) methods
  some (EndpointGroup.addAll (.empty (survey.settings.naming.groupName controller.name)) endpoints,
    met)

/-- The groups of all controllers. -/
def readGroups (survey : Survey) : Option (List EndpointGroup × List Sighting) :=
  readEach survey.readGroup (survey.classes.controllers survey.settings)

/-- The groups of the controllers, and the registry after the controllers and the roots. -/
def ApiTour (survey : Survey) (groups : List EndpointGroup) (r : Registry) : Prop :=
  ∃ met types more, survey.readGroups = some (groups, met) ∧
    survey.readCalls (rootCalls survey.settings.roots) = some (types, more) ∧
    survey.Walk .empty (met ++ more) r

/-- What was done adds these groups of endpoints and meets these classes. -/
structure Adds (survey : Survey) (groups : List EndpointGroup) (met : List Sighting)
    (d d' : Description) : Prop where
  followed : d'.followed = d.followed
  groups : d'.api.endpointGroups = d.api.endpointGroups ++ groups
  imports : d'.api.imports = d.api.imports
  walks : ∀ r, survey.Matches [] r d → ∃ r', survey.Walk r met r' ∧ survey.Matches [] r' d'

variable {survey : Survey} {d d' d'' : Description} {met more : List Sighting}
  {groups groups' : List EndpointGroup}

theorem Tours.adds (h : survey.Tours met d d') : survey.Adds [] met d d' where
  followed := h.aside.followed
  groups := by simp [h.aside.groups]
  imports := h.aside.imports
  walks r hr := by
    obtain ⟨r', hwalk, hmatch, -⟩ := h.walks [] r hr
    exact ⟨r', hwalk, hmatch⟩

theorem Adds.trans (h : survey.Adds groups met d d') (h' : survey.Adds groups' more d' d'') :
    survey.Adds (groups ++ groups') (met ++ more) d d'' where
  followed := h'.followed.trans h.followed
  groups := by rw [h'.groups, h.groups, List.append_assoc]
  imports := h'.imports.trans h.imports
  walks r hr := by
    obtain ⟨r₁, hwalk, hmatch⟩ := h.walks r hr
    obtain ⟨r₂, hwalk', hmatch'⟩ := h'.walks r₁ hmatch
    exact ⟨r₂, hwalk.append hwalk', hmatch'⟩

theorem adds_withGroup (d : Description) (group : EndpointGroup) :
    survey.Adds [group] [] d (d.withGroup group) where
  followed := rfl
  groups := rfl
  imports := rfl
  walks r hr := ⟨r, .done r, hr.of_entries (fun _ => id) fun _ => rfl⟩

open Describing

/-! ## Endpoints -/

theorem yields_readElement (annotations : List AnnotationUse) (type : JavaType)
    (env : TypeEnvironment) (hd : d.followed = []) :
    Yields (survey.describe.element annotations type env) d fun t after =>
      ∃ met, survey.readElement annotations type env = some (t, met) ∧
        survey.Tours met d after := by
  refine (yields_element tells_describe annotations type env d).imp ?_
  intro _ after hpost
  obtain ⟨u, met, hread, rfl, htour⟩ := hpost
  rw [hd] at hread
  exact ⟨met, by simp [readElement, hread], htour⟩

theorem yields_describeParameter (controller : JavaClass) (method : JavaMethod)
    (env : TypeEnvironment) (index : Nat) (parameter : JavaParameter) (hd : d.followed = []) :
    Yields (survey.describeParameter controller method env index parameter) d fun read after =>
      ∃ met, survey.readParameter controller method env index parameter = some (read, met) ∧
        survey.Tours met d after := by
  unfold describeParameter readParameter
  cases survey.parameterBinding? parameter with
  | none => exact yields_pure ⟨[], rfl, .refl d⟩
  | some binding =>
    refine yields_bind (P := fun bound after => after = d ∧ boundParameter parameter
      (.missingParameterName controller.name method.name index) binding = .ok bound)
      (yields_lift fun bound hbound => ⟨rfl, hbound⟩) ?_
    rintro ⟨source, name⟩ _ ⟨rfl, hbound⟩
    refine yields_bind (yields_readElement _ _ _ hd) ?_
    intro t after hpost
    obtain ⟨met, hread, htour⟩ := hpost
    refine yields_pure ⟨met, ?_, htour⟩
    simp [hbound, hread]

theorem yields_describeParameters (controller : JavaClass) (method : JavaMethod)
    (env : TypeEnvironment) (index : Nat) (parameters : List JavaParameter)
    (hd : d.followed = []) :
    Yields (survey.describeParameters controller method env index parameters) d fun read after =>
      ∃ met, survey.readParameters controller method env index parameters = some (read, met) ∧
        survey.Tours met d after := by
  induction parameters generalizing index d with
  | nil => exact yields_pure ⟨[], rfl, .refl d⟩
  | cons parameter rest ih =>
    refine yields_bind (yields_describeParameter controller method env index parameter hd) ?_
    intro read between hpost
    obtain ⟨met, hread, htour⟩ := hpost
    refine yields_bind (ih (index + 1) (htour.aside.followed.trans hd)) ?_
    intro others after hpost
    obtain ⟨more, hreads, htour'⟩ := hpost
    refine yields_pure ⟨met ++ more, ?_, htour.trans htour'⟩
    simp [readParameters, hread, hreads]

theorem yields_describeBody (method : JavaMethod) (env : TypeEnvironment)
    (hd : d.followed = []) :
    Yields (survey.describeBody method env) d fun body after =>
      ∃ met, survey.readBody method env = some (body, met) ∧ survey.Tours met d after := by
  unfold describeBody readBody
  split_ifs
  · exact yields_pure ⟨[], rfl, .refl d⟩
  · refine yields_bind (yields_readElement _ _ _ hd) ?_
    intro t after hpost
    obtain ⟨met, hread, htour⟩ := hpost
    refine yields_pure ⟨met, ?_, htour⟩
    simp [hread]

theorem yields_requestMethod? (annotations : List AnnotationUse) (d : Description) :
    Yields (survey.requestMethod? annotations) d fun verb after =>
      verb = survey.namedMethod? annotations ∧ survey.Tours [] d after := by
  unfold requestMethod? namedMethod?
  cases survey.classes.mappedMethod? annotations with
  | none => exact yields_pure ⟨rfl, .refl d⟩
  | some name =>
    cases hname : HttpMethod.ofName? name with
    | some verb => simpa [hname] using yields_pure ⟨rfl, Tours.refl d⟩
    | none =>
      simp only [hname, Option.bind_some]
      exact yields_bind (yields_report _ d) fun _ after htour => yields_pure ⟨rfl, htour⟩

theorem yields_requestMethod (method : JavaMethod) (owner : JavaClass) (d : Description) :
    Yields (survey.requestMethod method owner) d fun verb after =>
      verb = (survey.namedMethod? method.annotations <|>
        survey.namedMethod? owner.annotations).getD .get ∧ survey.Tours [] d after := by
  refine yields_bind (yields_requestMethod? method.annotations d) ?_
  intro verb between hpost
  obtain ⟨hverb, htour⟩ := hpost
  rw [← hverb]
  cases verb with
  | some verb => exact yields_pure ⟨rfl, htour⟩
  | none =>
    refine yields_bind (yields_requestMethod? owner.annotations between) ?_
    intro _ after hpost
    obtain ⟨rfl, htour'⟩ := hpost
    exact yields_pure ⟨rfl, by simpa using htour.trans htour'⟩

theorem yields_describeEndpoint (controller : JavaClass) (level : BoundClass)
    (method : JavaMethod) (hd : d.followed = []) :
    Yields (survey.describeEndpoint controller level method) d fun endpoint after =>
      ∃ met, survey.readEndpoint controller level method = some (endpoint, met) ∧
        survey.Tours met d after := by
  refine yields_bind (yields_describeBody method _ hd) ?_
  intro body d₁ hpost
  obtain ⟨met, hbody, htour⟩ := hpost
  have hd₁ : d₁.followed = [] := htour.aside.followed.trans hd
  refine yields_bind (yields_describeParameters controller method _ 0 method.parameters hd₁) ?_
  intro parameters d₂ hpost
  obtain ⟨more, hparameters, htour'⟩ := hpost
  refine yields_bind (P := fun uri after => after = d₂ ∧ survey.uriTemplate controller method =
    .ok uri) (yields_lift fun uri huri => ⟨rfl, huri⟩) ?_
  intro uri _ hpost
  obtain ⟨rfl, huri⟩ := hpost
  refine yields_bind (yields_requestMethod method level.decl _) ?_
  intro _ after hpost
  obtain ⟨rfl, hrest⟩ := hpost
  refine yields_pure ⟨met ++ more, ?_, by simpa using (htour.trans htour').trans hrest⟩
  simp [readEndpoint, hbody, hparameters, huri, Except.toOption]

/-! ## Groups -/

theorem yields_addEndpoints (controller : JavaClass) (methods : List (BoundClass × JavaMethod))
    (group : EndpointGroup) (hd : d.followed = []) :
    Yields (methods.foldlM (fun group (level, method) => do
        pure (group.add (← survey.describeEndpoint controller level method)).2) group) d
      fun group' after => ∃ endpoints met,
        readEach (fun m => survey.readEndpoint controller m.1 m.2) methods =
          some (endpoints, met) ∧ group' = group.addAll endpoints ∧ survey.Tours met d after := by
  induction methods generalizing group d with
  | nil => exact yields_pure ⟨[], [], rfl, rfl, .refl d⟩
  | cons m methods ih =>
    obtain ⟨level, method⟩ := m
    have hstep : Yields (do
        pure (group.add (← survey.describeEndpoint controller level method)).2) d
          fun group' after => ∃ endpoint met,
            survey.readEndpoint controller level method = some (endpoint, met) ∧
            group' = (group.add endpoint).2 ∧ survey.Tours met d after := by
      refine yields_bind (yields_describeEndpoint controller level method hd) ?_
      intro endpoint after hpost
      obtain ⟨met, hread, htour⟩ := hpost
      exact yields_pure ⟨endpoint, met, hread, rfl, htour⟩
    rw [List.foldlM_cons]
    refine yields_bind hstep ?_
    intro _ between hpost
    obtain ⟨endpoint, met, hread, rfl, htour⟩ := hpost
    refine (ih _ (htour.aside.followed.trans hd)).imp ?_
    intro _ after hpost
    obtain ⟨endpoints, more, hreads, rfl, htour'⟩ := hpost
    exact ⟨endpoint :: endpoints, met ++ more, by simp [readEach, hread, hreads], rfl,
      htour.trans htour'⟩

theorem yields_describeGroup (controller : JavaClass) (hd : d.followed = []) :
    Yields (survey.describeGroup controller) d fun group after =>
      ∃ met, survey.readGroup controller = some (group, met) ∧ survey.Tours met d after := by
  refine yields_bind (P := fun levels after => after = d ∧
    survey.classes.hierarchy (.raw controller) = .ok levels)
    (yields_liftHalt fun levels hlevels => ⟨rfl, hlevels⟩) ?_
  intro levels _ hpost
  obtain ⟨rfl, hlevels⟩ := hpost
  refine (yields_addEndpoints controller _ _ hd).imp ?_
  intro _ after hpost
  obtain ⟨endpoints, met, hread, rfl, htour⟩ := hpost
  exact ⟨met, by simp [readGroup, hlevels, Except.toOption, hread], htour⟩

theorem yields_describeController (controller : JavaClass) (hd : d.followed = []) :
    Yields (survey.describeController controller) d fun _ after =>
      ∃ group met, survey.readGroup controller = some (group, met) ∧
        survey.Adds [group] met d after := by
  refine yields_bind (yields_describeGroup controller hd) ?_
  intro group between hpost
  obtain ⟨met, hread, htour⟩ := hpost
  have hadd : ∀ between, survey.Tours met d between →
      Yields (extend fun api => .ok (api.addGroup group)) between fun _ after =>
        ∃ group met, survey.readGroup controller = some (group, met) ∧
          survey.Adds [group] met d after := by
    refine fun between htour => yields_extend fun api hapi => ?_
    cases hapi
    refine ⟨group, met, hread, ?_⟩
    show survey.Adds [group] met d (between.withGroup group)
    simpa using htour.adds.trans (adds_withGroup between group)
  simp only
  split_ifs
  · exact yields_bind (yields_report _ _) fun _ after hreport =>
      hadd after (by simpa using htour.trans hreport)
  · exact hadd between htour

theorem yields_describeControllers {controllers : List JavaClass} (hd : d.followed = []) :
    Yields (controllers.forM survey.describeController) d fun _ after =>
      ∃ groups met, readEach survey.readGroup controllers = some (groups, met) ∧
        survey.Adds groups met d after := by
  induction controllers generalizing d with
  | nil => exact yields_pure ⟨[], [], rfl, (Tours.refl d).adds⟩
  | cons controller controllers ih =>
    show Yields (survey.describeController controller >>= fun _ =>
      controllers.forM survey.describeController) d _
    refine yields_bind (yields_describeController controller hd) ?_
    intro _ between hpost
    obtain ⟨group, met, hread, hadds⟩ := hpost
    refine (ih (hadds.followed.trans hd)).imp ?_
    intro _ after hpost
    obtain ⟨groups, more, hreads, hadds'⟩ := hpost
    exact ⟨group :: groups, met ++ more, by simp [readEach, hread, hreads], hadds.trans hadds'⟩

/-! ## Imports -/

theorem yields_describeImport (module : String) (types : List String) (d : Description) :
    Yields (describeImport module types) d fun _ after =>
      after = d.withImports (ApiDefinition.importsWith d.api.imports module types) := by
  refine .of_run_eq _ (run_bind_of_ok (run_api d) _) ?_
  refine yields_bind (P := fun _ after =>
    after = d.withImports (ApiDefinition.importsWith d.api.imports module types))
    (fun _ after hrun => ?_) fun _ _ hafter => yields_lift fun _ _ => hafter
  rw [run_modify, ApiDefinition.addImport_snd] at hrun
  cases hrun
  rfl

theorem yields_describeImports (imports : List (String × List String)) (d : Description) :
    Yields (imports.forM fun (module, types) => describeImport module types) d fun _ after =>
      after = d.withImports (imports.foldl (fun imports (module, types) =>
        ApiDefinition.importsWith imports module types) d.api.imports) := by
  induction imports generalizing d with
  | nil =>
    rintro _ _ ⟨⟩
    rfl
  | cons import_ imports ih =>
    obtain ⟨module, types⟩ := import_
    show Yields (describeImport module types >>= fun _ =>
      imports.forM fun (module, types) => describeImport module types) d _
    refine yields_bind (yields_describeImport module types d) ?_
    intro _ _ hafter
    subst hafter
    exact (ih _).imp fun _ after hafter => hafter

/-! ## The whole API -/

/-- A successful description of an API is a tour of the controllers and the roots, and matches the
registry that the tour ends with. -/
theorem exists_matches_of_api {api : ApiDefinition}
    (hrun : Describing.run survey.describeApi .empty = (.ok api, d)) :
    ∃ groups r, survey.ApiTour groups r ∧ api = d.api ∧ survey.Matches [] r d ∧
      api.endpointGroups = groups ∧ api.imports = survey.settings.importMap := by
  suffices Yields survey.describeApi .empty fun api d => ∃ groups r, survey.ApiTour groups r ∧
      api = d.api ∧ survey.Matches [] r d ∧ api.endpointGroups = groups ∧
      api.imports = survey.settings.importMap from this api d hrun
  refine yields_bind (yields_describeControllers rfl) ?_
  intro _ d₁ hpost
  obtain ⟨groups, met, hgroups, hadds⟩ := hpost
  refine yields_bind (yields_describeRoots (hadds.followed.trans rfl)) ?_
  intro _ d₂ hpost
  obtain ⟨types, more, hroots, htour⟩ := hpost
  have hall := hadds.trans htour.adds
  obtain ⟨r, hwalk, hmatch⟩ := hall.walks .empty matches_empty
  refine yields_bind (yields_describeImports survey.settings.imports.entries d₂) ?_
  intro _ d₃ hafter
  have himported : d₃.api.endpointGroups = groups ∧ d₃.api.imports = survey.settings.importMap ∧
      survey.Matches [] r d₃ := by
    have himports : d₂.api.imports = .empty := hall.imports
    subst hafter
    refine ⟨hall.groups.trans (by simp [Description.empty, ApiDefinition.empty]), ?_,
      hmatch.of_entries (fun _ => id) fun _ => rfl⟩
    show (survey.settings.imports.entries.foldl _ d₂.api.imports) = _
    rw [himports]
    rfl
  refine .of_run_eq _ (run_bind_of_ok (run_api _) _) ?_
  refine yields_bind (P := fun _ after =>
    after = { d₃ with events := d₃.events ++ apiEvents d₃.api }) (fun _ after hrun => ?_) ?_
  · exact (Prod.mk.inj ((run_forM_report _ _).symm.trans hrun)).2.symm
  intro _ _ hafter
  subst hafter
  exact yields_pure ⟨groups, r, ⟨met, types, more, hgroups, hroots, hwalk⟩, rfl,
    himported.2.2.of_entries (fun _ => id) fun _ => rfl, himported.1, himported.2.1⟩

/-- The registry of the tour tells what stands under each name of the API. -/
theorem exists_tour_of_api {api : ApiDefinition}
    (hrun : Describing.run survey.describeApi .empty = (.ok api, d)) :
    ∃ groups r, survey.ApiTour groups r ∧ api.endpointGroups = groups ∧
      api.imports = survey.settings.importMap ∧
      ∀ name, api.entry name = survey.entryIn r name := by
  obtain ⟨groups, r, htour, rfl, hmatch, hgroups, himports⟩ := exists_matches_of_api hrun
  exact ⟨groups, r, htour, hgroups, himports, fun name => hmatch.entry_eq name⟩

end Survey

end ApiSurface
