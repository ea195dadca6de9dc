import ApiSurface.ApiDefinition
import ApiSurface.Json

/-!
# The API as a document

The JSON form of an API, which generators of clients read.
-/

namespace ApiSurface

namespace ApiType

def toJson : ApiType → Json
  | .array element => .ofMembers [("array", element.toJson)]
  | .blackBox name => .ofMembers [("black_box", .ofString name)]
  | .reference name => .ofMembers [("class", .ofString name)]
  | .dictionary value => .ofMembers [("dictionary", value.toJson)]
  | .nullable inner => .ofMembers [("nullable", inner.toJson)]
  | .primitive type => .ofMembers [("primitive", .ofString type.name)]

end ApiType

namespace NameMap

def toJson {β : Type} (f : String → β → Json) (m : NameMap β) : Json :=
  .ofMembers (m.entries.map fun (name, value) => (name, f name value))

end NameMap

namespace EndpointParameter

def toJson (parameter : EndpointParameter) : Json :=
  let type := ("type", parameter.type.toJson)
  let members (kind : String) (external : List (String × Json)) : Json :=
    .ofMembers <|
      [("kind", .ofString kind), ("name", .ofString parameter.name)] ++ external ++ [type]
  match parameter.source with
  | .requestBody => members "request_body" []
  | .requestParam external => members "request_param" [("query_parameter", .ofString external)]
  | .pathVariable external => members "path_variable" [("path_variable", .ofString external)]

end EndpointParameter

namespace Endpoint

def toJson (endpoint : Endpoint) : Json := .ofMembers
  [("name", .ofString endpoint.name),
   ("uri_template", .ofString endpoint.uriTemplate),
   ("method", .ofString endpoint.method.name),
   ("response_body", .ofOption (endpoint.responseBody.map ApiType.toJson)),
   ("parameters", .array (endpoint.parameters.map EndpointParameter.toJson)),
   ("generate_url_method", .bool endpoint.generateUrlMethod)]

end Endpoint

namespace EndpointGroup

def toJson (group : EndpointGroup) : Json := .ofMembers
  [("name", .ofString group.name),
   ("endpoints", group.endpoints.toJson fun _ endpoint => endpoint.toJson)]

end EndpointGroup

namespace ClassDefinition

def toJson (definition : ClassDefinition) : Json := .ofMembers
  [("name", .ofString definition.name),
   ("properties", definition.properties.toJson fun name type =>
     .ofMembers [("name", .ofString name), ("type", type.toJson)])]

end ClassDefinition

namespace EnumDefinition

def toJson (definition : EnumDefinition) : Json := .ofMembers
  [("name", .ofString definition.name), ("constants", .ofStrings definition.constants)]

end EnumDefinition

namespace UnionDefinition

def toJson (union : UnionDefinition) : Json := .ofMembers
  [("name", .ofString union.name),
   ("discriminator", .ofString union.discriminator),
   ("types", union.cases.toJson fun _ definition => definition.toJson)]

end UnionDefinition

namespace ApiDefinition

def toJson (api : ApiDefinition) : Json := .ofMembers
  [("endpoint_groups", .array (api.endpointGroups.map EndpointGroup.toJson)),
   ("class_definitions", api.classes.toJson fun _ definition => definition.toJson),
   ("enum_definitions", api.enums.toJson fun _ definition => definition.toJson),
   ("discriminated_unions", api.unions.toJson fun _ union => union.toJson),
   ("black_boxes", .ofStrings api.blackBoxes.keys),
   ("type_aliases", api.aliases.toJson fun _ target => target.toJson),
   ("imports", api.imports.toJson fun module types =>
     .ofMembers [("module", .ofString module), ("types", .ofStrings types.keys)])]

end ApiDefinition

end ApiSurface
