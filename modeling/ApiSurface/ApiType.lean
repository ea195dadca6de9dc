import ApiSurface.NameMap

/-!
# Types of a described API

Types that every client language can express: primitives, arrays, maps from strings, types that
admit null, and references by display name to a definition or to an opaque type.
-/

namespace ApiSurface

abbrev NameSet := NameMap Unit

namespace NameSet

def add (names : NameSet) (name : String) : NameSet := names.insert name ()

def addAll (names : NameSet) (more : List String) : NameSet := more.foldl add names

@[simp] theorem contains_add (names : NameSet) (name other : String) :
    (names.add name).contains other = (decide (other = name) || names.contains other) :=
  NameMap.contains_insert names name other ()

@[simp] theorem contains_addAll (names : NameSet) (more : List String) (other : String) :
    (names.addAll more).contains other = (decide (other ∈ more) || names.contains other) := by
  induction more generalizing names with
  | nil => simp [addAll]
  | cons name more ih =>
    have step : names.addAll (name :: more) = (names.add name).addAll more := rfl
    rw [step, ih, contains_add]
    by_cases h : other = name <;> simp [h]

end NameSet

inductive PrimitiveType where
  | any
  | string
  | boolean
  | integer
  | float
  | void
  deriving DecidableEq, Repr

def PrimitiveType.name : PrimitiveType → String
  | .any => "any"
  | .string => "string"
  | .boolean => "boolean"
  | .integer => "integer"
  | .float => "float"
  | .void => "void"

inductive ApiType where
  | array (element : ApiType)
  | blackBox (name : String)
  | reference (name : String)
  | dictionary (value : ApiType)
  | nullable (inner : ApiType)
  | primitive (type : PrimitiveType)
  deriving DecidableEq, Repr

namespace ApiType

def any : ApiType := .primitive .any
def string : ApiType := .primitive .string
def boolean : ApiType := .primitive .boolean
def integer : ApiType := .primitive .integer
def float : ApiType := .primitive .float
def void : ApiType := .primitive .void

def isNullable : ApiType → Bool
  | .nullable _ => true
  | _ => false

/-- The type with null admitted; one that admits it already stays as it is. -/
def orNull : ApiType → ApiType
  | .nullable inner => .nullable inner
  | type => .nullable type

def withoutNull : ApiType → ApiType
  | .nullable inner => inner
  | type => type

@[simp] theorem isNullable_orNull (type : ApiType) : type.orNull.isNullable = true := by
  cases type <;> rfl

@[simp] theorem orNull_orNull (type : ApiType) : type.orNull.orNull = type.orNull := by
  cases type <;> rfl

/-- The name of the definition that a type refers to, if it refers to one. -/
def reference? : ApiType → Option String
  | .reference name => some name
  | .array inner | .dictionary inner | .nullable inner => inner.reference?
  | .blackBox _ | .primitive _ => none

def render : ApiType → String
  | .array element => element.render ++ "[]"
  | .blackBox name | .reference name => name
  | .dictionary value => "Dictionary<" ++ value.render ++ ">"
  | .nullable inner => inner.render ++ " | null"
  | .primitive type => type.name

end ApiType

end ApiSurface
