import ApiSurface.MetaAnnotations
import ApiSurface.TypeDescription
import ApiSurface.UriTemplate

/-!
# Controllers

A controller's methods that are mapped to requests are its endpoints. All of them together with
the types that they reach, the types asked for by the settings and the imports are the API.
-/

namespace ApiSurface

namespace Controllers

def restController : String := "org.springframework.web.bind.annotation.RestController"
def requestMapping : String := "org.springframework.web.bind.annotation.RequestMapping"
def requestBody : String := "org.springframework.web.bind.annotation.RequestBody"
def requestParam : String := "org.springframework.web.bind.annotation.RequestParam"
def pathVariable : String := "org.springframework.web.bind.annotation.PathVariable"

/-- Classes that only carry the response around. -/
def responseWrappers : List String :=
  ["org.springframework.http.HttpEntity", "org.springframework.http.ResponseEntity",
   "java.util.concurrent.Callable"]

end Controllers

open Controllers

namespace ClassCollection

/-- The argument of a type that wraps a response, else the type itself. -/
def payload (classes : ClassCollection) (type : JavaType) : JavaType :=
  match type with
  | .parameterized base [argument] =>
    if responseWrappers.any (classes.isInstance base) then argument else type
  | _ => type

/-- The path that a class or method is mapped to. One that is not empty begins with a slash. -/
def mappingPath (classes : ClassCollection) (annotations : List AnnotationUse) : String :=
  let path := do
    let mapping ← classes.resolve? annotations requestMapping
    mapping.string? classes "path" <|> mapping.string? classes "value"
  match path with
  | none => ""
  | some path => if path.isEmpty || path.startsWith "/" then path else "/" ++ path

/-- The first request method that a class or method is mapped to, by name. -/
def mappedMethod? (classes : ClassCollection) (annotations : List AnnotationUse) :
    Option String := do
  let mapping ← classes.resolve? annotations requestMapping
  let (_, constant) ← (mapping.enums classes "method").head?
  pure constant

/-- The name of a parameter in the request, by its annotation. -/
def declaredName? (classes : ClassCollection) (a : ResolvedUse) : Option String :=
  a.string? classes "name" <|> a.string? classes "value"

/-- The loaded controllers that the settings select, in the order of their names. -/
def controllers (classes : ClassCollection) (settings : Settings) : List JavaClass :=
  (classes.carriers restController settings.isController).filter (!·.isAnnotationType)

/-- The methods of a class that are mapped to requests. -/
def mappedMethods (classes : ClassCollection) (decl : JavaClass) : List JavaMethod :=
  decl.publicMethods.filter fun m =>
    !m.access.isStatic && classes.carries m.annotations requestMapping

end ClassCollection

namespace Survey

/-- The request method of a mapping, if it is known. -/
def requestMethod? (survey : Survey) (annotations : List AnnotationUse) :
    Describing (Option HttpMethod) := do
  match survey.classes.mappedMethod? annotations with
  | none => pure none
  | some name =>
    match HttpMethod.ofName? name with
    | some method => pure (some method)
    | none => do
      Describing.report (.ignoredRequestMethod (HttpMethod.unknownMessage name))
      pure none

/-- The request method of a method, else that of the class that declares it, else GET. -/
def requestMethod (survey : Survey) (method : JavaMethod) (owner : JavaClass) :
    Describing HttpMethod := do
  match ← survey.requestMethod? method.annotations with
  | some m => pure m
  | none => do pure ((← survey.requestMethod? owner.annotations).getD .get)

/-- Where a parameter is bound in the request, with its name there if one is given. A parameter
that is bound nowhere is no parameter of the endpoint. -/
inductive Binding where
  | body
  | query (declared : Option String)
  | path (declared : Option String)
  deriving DecidableEq, Repr

def parameterBinding? (survey : Survey) (parameter : JavaParameter) : Option Binding :=
  let classes := survey.classes
  let bound? (type : String) : Option ResolvedUse := classes.resolve? parameter.annotations type
  if (bound? requestBody).isSome then some .body
  else
    match bound? requestParam, bound? pathVariable with
    | some a, _ => some (.query (classes.declaredName? a))
    | none, some a => some (.path (classes.declaredName? a))
    | none, none => none

/-- A bound parameter under its own name, else under that in the request. -/
def boundParameter (parameter : JavaParameter) (missing : SurfaceError) :
    Binding → Except SurfaceError (ParameterSource × String)
  | .body =>
    match parameter.name with
    | some name => .ok (.requestBody, name)
    | none => .error missing
  | .query declared =>
    match parameter.name <|> declared with
    | some name => .ok (.requestParam (declared.getD name), name)
    | none => .error missing
  | .path declared =>
    match parameter.name <|> declared with
    | some name => .ok (.pathVariable (declared.getD name), name)
    | none => .error missing

def describeParameter (survey : Survey) (controller : JavaClass) (method : JavaMethod)
    (env : TypeEnvironment) (index : Nat) (parameter : JavaParameter) :
    Describing (Option EndpointParameter) := do
  match survey.parameterBinding? parameter with
  | none => pure none
  | some binding => do
    let missing := SurfaceError.missingParameterName controller.name method.name index
    let (source, name) ← Describing.lift (boundParameter parameter missing binding)
    let type ← survey.describe.element parameter.annotations parameter.type env
    pure (some ⟨source, name, type⟩)

def describeParameters (survey : Survey) (controller : JavaClass) (method : JavaMethod)
    (env : TypeEnvironment) : Nat → List JavaParameter → Describing (List EndpointParameter)
  | _, [] => pure []
  | index, parameter :: rest => do
    let described ← survey.describeParameter controller method env index parameter
    pure (described.toList ++ (← describeParameters survey controller method env (index + 1) rest))

/-- The URI of a controller's method, without constraints on its variables. -/
def uriTemplate (survey : Survey) (controller : JavaClass) (method : JavaMethod) :
    Except SurfaceError String :=
  let url := survey.classes.mappingPath controller.annotations ++
    survey.classes.mappingPath method.annotations
  UriTemplate.parse (survey.settings.normalizeUrl url)

/-- The type of the response body. A method that returns nothing has none. -/
def describeBody (survey : Survey) (method : JavaMethod) (env : TypeEnvironment) :
    Describing (Option ApiType) :=
  if method.returnType.isVoid then pure none
  else do
    let body ← survey.describe.element method.annotations
      (survey.classes.payload method.returnType) env
    pure (some body)

/-- The endpoint of a method that a controller declares or inherits. -/
def describeEndpoint (survey : Survey) (controller : JavaClass) (level : BoundClass)
    (method : JavaMethod) : Describing Endpoint := do
  let env := level.environment.merge (level.decl.methodEnvironment method)
  let responseBody ← survey.describeBody method env
  let parameters ← survey.describeParameters controller method env 0 method.parameters
  let uriTemplate ← Describing.lift (survey.uriTemplate controller method)
  let requestMethod ← survey.requestMethod method level.decl
  let generateUrlMethod := survey.settings.isUrlEndpoint controller.name method.name
  pure ⟨method.name, uriTemplate, requestMethod, responseBody, parameters, generateUrlMethod⟩

/-- The endpoints of a controller and of what stands above it. Of several of one name the most
derived stays. -/
def describeGroup (survey : Survey) (controller : JavaClass) : Describing EndpointGroup := do
  let levels ← Describing.liftHalt (survey.classes.hierarchy (.raw controller))
  let methods := levels.flatMap fun level =>
    (survey.classes.mappedMethods level.decl).map fun m => (level, m)
  methods.foldlM (fun group (level, method) => do
    pure (group.add (← survey.describeEndpoint controller level method)).2)
    (.empty (survey.settings.naming.groupName controller.name))

def describeController (survey : Survey) (controller : JavaClass) : Describing Unit := do
  let group ← survey.describeGroup controller
  if group.size = 0 then Describing.report (.emptyController controller.name)
  Describing.extend fun api => .ok (api.addGroup group)

/-- Describes a class that the settings ask for. -/
def describeRoot (survey : Survey) (root : String) : Describing Unit := do
  match ← survey.describe (.basic root) .empty with
  | .reference name =>
    unless (← Describing.api).defines name do Describing.report (.rootNotFound root)
  | _ => pure ()

/-- Adds the types of an imported module. -/
def describeImport (module : String) (types : List String) : Describing Unit := do
  let (result, api) := (← Describing.api).addImport module types
  modify fun d => { d with api }
  Describing.lift result

def apiEvents (api : ApiDefinition) : List Event :=
  let unknown := api.unknownReferences.keys
  .loadedApi api.endpointGroups.length api.endpointCount api.classes.size api.enums.size
      api.unions.size ::
    if unknown.isEmpty then [] else [.unknownTypes unknown]

def describeApi (survey : Survey) : Describing ApiDefinition := do
  (survey.classes.controllers survey.settings).forM survey.describeController
  survey.settings.roots.forM survey.describeRoot
  survey.settings.imports.entries.forM fun (module, types) => describeImport module types
  let api ← Describing.api
  (apiEvents api).forM Describing.report
  pure api

/-- The API of a survey, if it can be described, and what there is to tell. -/
def api (survey : Survey) : Except Halt ApiDefinition × List Event :=
  let (result, description) := survey.describeApi Description.empty
  (result, description.events)

end Survey

end ApiSurface
