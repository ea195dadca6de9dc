import ApiSurface.ApiType

/-!
# Endpoints

An endpoint is one operation that can be reached at a URI. Endpoints that belong together form a
group, in which the first endpoint of a name stays.
-/

namespace ApiSurface

inductive HttpMethod where
  | get
  | head
  | post
  | put
  | patch
  | delete
  | options
  | trace
  deriving DecidableEq, Repr

namespace HttpMethod

def name : HttpMethod → String
  | .get => "GET"
  | .head => "HEAD"
  | .post => "POST"
  | .put => "PUT"
  | .patch => "PATCH"
  | .delete => "DELETE"
  | .options => "OPTIONS"
  | .trace => "TRACE"

def all : List HttpMethod := [.get, .head, .post, .put, .patch, .delete, .options, .trace]

def ofName? (text : String) : Option HttpMethod := all.find? fun method => method.name == text

theorem ofName?_name (method : HttpMethod) : ofName? method.name = some method := by
  cases method <;> rfl

def unknownMessage (text : String) : String := "unknown HTTP method: " ++ text

end HttpMethod

/-- Where the value of a parameter stands in a request, with the name that it has there. -/
inductive ParameterSource where
  | requestBody
  | requestParam (queryParameter : String)
  | pathVariable (pathVariable : String)
  deriving DecidableEq, Repr

structure EndpointParameter where
  source : ParameterSource
  name : String
  type : ApiType
  deriving DecidableEq, Repr

namespace EndpointParameter

def isRequestBody (parameter : EndpointParameter) : Bool :=
  match parameter.source with
  | .requestBody => true
  | _ => false

def isRequestParam (parameter : EndpointParameter) : Bool :=
  match parameter.source with
  | .requestParam _ => true
  | _ => false

def isPathVariable (parameter : EndpointParameter) : Bool :=
  match parameter.source with
  | .pathVariable _ => true
  | _ => false

/-- The name in the request is shown where it differs from the parameter's own. -/
def render (parameter : EndpointParameter) : String :=
  let outside (external : String) : String :=
    if external = parameter.name then "" else "(\"" ++ external ++ "\")"
  let source := match parameter.source with
    | .requestBody => "@RequestBody"
    | .requestParam external => "@RequestParam" ++ outside external
    | .pathVariable external => "@PathVariable" ++ outside external
  source ++ " " ++ parameter.type.render ++ " " ++ parameter.name

end EndpointParameter

structure Endpoint where
  name : String
  uriTemplate : String
  method : HttpMethod
  responseBody : Option ApiType
  parameters : List EndpointParameter
  generateUrlMethod : Bool
  deriving DecidableEq, Repr

namespace Endpoint

def requestBody (endpoint : Endpoint) : Option EndpointParameter :=
  endpoint.parameters.find? (·.isRequestBody)

def pathVariables (endpoint : Endpoint) : List EndpointParameter :=
  endpoint.parameters.filter (·.isPathVariable)

def requestParameters (endpoint : Endpoint) : List EndpointParameter :=
  endpoint.parameters.filter (·.isRequestParam)

/-- The types of the response body and of the parameters. -/
def types (endpoint : Endpoint) : List ApiType :=
  endpoint.responseBody.toList ++ endpoint.parameters.map (·.type)

def render (endpoint : Endpoint) : String :=
  let body := (endpoint.responseBody.map ApiType.render).getD "void"
  let parameters := ", ".intercalate (endpoint.parameters.map EndpointParameter.render)
  body ++ " " ++ endpoint.name ++ "(" ++ parameters ++ "): " ++ endpoint.method.name ++ " " ++
    endpoint.uriTemplate

end Endpoint

structure EndpointGroup where
  name : String
  endpoints : NameMap Endpoint
  deriving DecidableEq, Repr

namespace EndpointGroup

def empty (name : String) : EndpointGroup := ⟨name, .empty⟩

/-- Whether the endpoint was added, and the group with it. -/
def add (group : EndpointGroup) (endpoint : Endpoint) : Bool × EndpointGroup :=
  if group.endpoints.contains endpoint.name then (false, group)
  else (true, { group with endpoints := group.endpoints.insert endpoint.name endpoint })

def endpoint? (group : EndpointGroup) (name : String) : Option Endpoint := group.endpoints.get? name

/-- Of the endpoints of one name the first stays. -/
theorem endpoint?_add (group : EndpointGroup) (endpoint : Endpoint) (name : String) :
    (group.add endpoint).2.endpoint? name =
      if name = endpoint.name then some ((group.endpoint? name).getD endpoint)
      else group.endpoint? name := by
  by_cases hn : name = endpoint.name
  · subst hn
    cases h : group.endpoints.get? endpoint.name <;>
      simp [add, endpoint?, NameMap.contains, h]
  · cases h : group.endpoints.contains endpoint.name <;> simp [add, endpoint?, h, hn]

def size (group : EndpointGroup) : Nat := group.endpoints.size

end EndpointGroup

end ApiSurface
