import ApiSurface.Endpoint
import ApiSurface.SurfaceError

/-!
# The described API

Classes, enums and discriminated unions by display name, with the endpoints that use them, opaque
types, aliases and imports. A display name is defined at most once over all three kinds.

A class or union is registered before its members are known, so that references met meanwhile
find it: first a placeholder is added, then it is completed.
-/

namespace ApiSurface

structure ClassDefinition where
  name : String
  properties : NameMap ApiType
  deriving DecidableEq, Repr

namespace ClassDefinition

def empty (name : String) : ClassDefinition := ⟨name, .empty⟩

def has (definition : ClassDefinition) (property : String) : Bool :=
  definition.properties.contains property

def add (definition : ClassDefinition) (property : String) (type : ApiType) :
    Except SurfaceError ClassDefinition :=
  if definition.has property then .error (.duplicateProperty definition.name property)
  else .ok { definition with properties := definition.properties.insert property type }

@[simp] theorem has_empty (name property : String) : (empty name).has property = false := rfl

/-- A property can be added once, and nothing else changes. -/
theorem add_eq_ok_iff {definition after : ClassDefinition} {property : String} {type : ApiType} :
    definition.add property type = .ok after ↔
      definition.has property = false ∧
        after = { definition with properties := definition.properties.insert property type } := by
  cases h : definition.has property <;> simp [add, h, eq_comm]

end ClassDefinition

/-- The constants of an enum stay in the order of their declaration. -/
structure EnumDefinition where
  name : String
  constants : List String
  deriving DecidableEq, Repr

/-- A class for each value of the property that tells them apart. -/
structure UnionDefinition where
  name : String
  discriminator : String
  cases : NameMap ClassDefinition
  deriving DecidableEq, Repr

namespace UnionDefinition

def empty (name discriminator : String) : UnionDefinition := ⟨name, discriminator, .empty⟩

def add (union : UnionDefinition) (value : String) (definition : ClassDefinition) :
    Except SurfaceError UnionDefinition :=
  if union.cases.contains value then .error (.duplicateUnionCase union.name value)
  else .ok { union with cases := union.cases.insert value definition }

/-- A value selects one case, and nothing else changes when it is added. -/
theorem add_eq_ok_iff {union after : UnionDefinition} {value : String}
    {definition : ClassDefinition} :
    union.add value definition = .ok after ↔
      union.cases.contains value = false ∧
        after = { union with cases := union.cases.insert value definition } := by
  cases h : union.cases.contains value <;> simp [add, h, eq_comm]

end UnionDefinition

structure ApiDefinition where
  endpointGroups : List EndpointGroup
  classes : NameMap ClassDefinition
  enums : NameMap EnumDefinition
  unions : NameMap UnionDefinition
  blackBoxes : NameSet
  aliases : NameMap ApiType
  imports : NameMap NameSet
  deriving DecidableEq, Repr

namespace ApiDefinition

def empty : ApiDefinition := ⟨[], .empty, .empty, .empty, .empty, .empty, .empty⟩

/-- Whether a class, an enum or a union of the name is defined. -/
def defines (api : ApiDefinition) (name : String) : Bool :=
  api.classes.contains name || api.enums.contains name || api.unions.contains name

def addClass (api : ApiDefinition) (definition : ClassDefinition) :
    Except SurfaceError ApiDefinition :=
  if api.defines definition.name then .error (.duplicateDefinition definition.name)
  else .ok { api with classes := api.classes.insert definition.name definition }

def completeClass (api : ApiDefinition) (definition : ClassDefinition) :
    Except SurfaceError ApiDefinition :=
  if api.classes.contains definition.name then
    .ok { api with classes := api.classes.insert definition.name definition }
  else .error (.missingPlaceholder definition.name)

@[simp] theorem defines_empty (name : String) : empty.defines name = false := rfl

/-- A name is defined once. -/
theorem addClass_eq_ok_iff {api after : ApiDefinition} {definition : ClassDefinition} :
    api.addClass definition = .ok after ↔
      api.defines definition.name = false ∧
        after = { api with classes := api.classes.insert definition.name definition } := by
  cases h : api.defines definition.name <;> simp [addClass, h, eq_comm]

/-- Only a registered class is completed. -/
theorem completeClass_eq_ok_iff {api after : ApiDefinition} {definition : ClassDefinition} :
    api.completeClass definition = .ok after ↔
      api.classes.contains definition.name = true ∧
        after = { api with classes := api.classes.insert definition.name definition } := by
  cases h : api.classes.contains definition.name <;> simp [completeClass, h, eq_comm]

def addEnum (api : ApiDefinition) (definition : EnumDefinition) :
    Except SurfaceError ApiDefinition :=
  if api.defines definition.name then .error (.duplicateDefinition definition.name)
  else .ok { api with enums := api.enums.insert definition.name definition }

def addUnion (api : ApiDefinition) (definition : UnionDefinition) :
    Except SurfaceError ApiDefinition :=
  if api.defines definition.name then .error (.duplicateDefinition definition.name)
  else .ok { api with unions := api.unions.insert definition.name definition }

def completeUnion (api : ApiDefinition) (definition : UnionDefinition) :
    Except SurfaceError ApiDefinition :=
  if api.unions.contains definition.name then
    .ok { api with unions := api.unions.insert definition.name definition }
  else .error (.missingPlaceholder definition.name)

theorem addEnum_eq_ok_iff {api after : ApiDefinition} {definition : EnumDefinition} :
    api.addEnum definition = .ok after ↔
      api.defines definition.name = false ∧
        after = { api with enums := api.enums.insert definition.name definition } := by
  cases h : api.defines definition.name <;> simp [addEnum, h, eq_comm]

theorem addUnion_eq_ok_iff {api after : ApiDefinition} {definition : UnionDefinition} :
    api.addUnion definition = .ok after ↔
      api.defines definition.name = false ∧
        after = { api with unions := api.unions.insert definition.name definition } := by
  cases h : api.defines definition.name <;> simp [addUnion, h, eq_comm]

theorem completeUnion_eq_ok_iff {api after : ApiDefinition} {definition : UnionDefinition} :
    api.completeUnion definition = .ok after ↔
      api.unions.contains definition.name = true ∧
        after = { api with unions := api.unions.insert definition.name definition } := by
  cases h : api.unions.contains definition.name <;> simp [completeUnion, h, eq_comm]

def addBlackBox (api : ApiDefinition) (name : String) : ApiDefinition :=
  { api with blackBoxes := api.blackBoxes.add name }

/-- The first alias of a name stays. -/
def addAlias (api : ApiDefinition) (name : String) (target : ApiType) : ApiDefinition :=
  { api with aliases := api.aliases.insertNew name target }

def addGroup (api : ApiDefinition) (group : EndpointGroup) : ApiDefinition :=
  { api with endpointGroups := api.endpointGroups ++ [group] }

def isImported (api : ApiDefinition) (type : String) : Bool :=
  api.imports.values.any (·.contains type)

def importType (api : ApiDefinition) (module type : String) : ApiDefinition :=
  let types := (api.imports.get? module).getD .empty
  { api with imports := api.imports.insert module (types.add type) }

/-- Declares types of a module one after the other. The first that is imported already stops the
rest; those before it stay. -/
def addImport (api : ApiDefinition) (module : String) :
    List String → Except SurfaceError Unit × ApiDefinition
  | [] => (.ok (), api)
  | type :: types =>
    if api.isImported type then (.error (.duplicateImport type), api)
    else addImport (api.importType module type) module types

def group? (api : ApiDefinition) (name : String) : Option EndpointGroup :=
  api.endpointGroups.find? (·.name == name)

/-- Groups in the order of their names; those of one name in the order they were added. -/
def sortedGroups (api : ApiDefinition) : List EndpointGroup :=
  api.endpointGroups.mergeSort fun a b => decide (a.name ≤ b.name)

def endpointCount (api : ApiDefinition) : Nat :=
  (api.endpointGroups.map (·.size)).foldr (· + ·) 0

/-- Every type that stands somewhere in the API. -/
def types (api : ApiDefinition) : List ApiType :=
  let endpoints := api.endpointGroups.flatMap (·.endpoints.values)
  let members := api.unions.values.flatMap (·.cases.values)
  endpoints.flatMap Endpoint.types ++
    (api.classes.values ++ members).flatMap (·.properties.values) ++ api.aliases.values

/-- Names that are referred to, but have no definition, no alias and are not opaque. -/
def unknownReferences (api : ApiDefinition) : NameSet :=
  NameSet.addAll .empty <| (api.types.filterMap ApiType.reference?).filter fun name =>
    !api.defines name && !api.blackBoxes.contains name && !api.aliases.contains name

/-- Opaque types together with the unknown ones, which are opaque to a client too. -/
def allBlackBoxes (api : ApiDefinition) : NameSet :=
  NameSet.addAll api.blackBoxes api.unknownReferences.keys

end ApiDefinition

end ApiSurface
