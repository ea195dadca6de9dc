import ApiSurface.Binary64
import ApiSurface.QuotedText
import ApiSurface.TypeEnvironment

/-!
# Annotations

Annotations as they are written on a class or a member: the annotation type and the attributes
given explicitly, in the order of the source. Defaults of the annotation type are not filled in.
-/

namespace ApiSurface

mutual
inductive AnnotationValue where
  | bool (value : Bool)
  | int (value : Int)
  | float (value : Binary64)
  | string (value : String)
  | classType (type : JavaType)
  | enum (type : JavaType) (constant : String)
  | nested (value : AnnotationUse)
  | array (values : List AnnotationValue)

inductive AnnotationUse where
  | mk (name : String) (attributes : List (String × AnnotationValue))
end

instance : Inhabited AnnotationValue := ⟨.bool false⟩
instance : Inhabited AnnotationUse := ⟨.mk "" []⟩

namespace AnnotationValue

/-- The value itself, or the one element of an array of one. -/
def scalar : AnnotationValue → Option AnnotationValue
  | .array [value] => some value
  | .array _ => none
  | value => some value

def asString (value : AnnotationValue) : Option String :=
  match value.scalar with
  | some (.string s) => some s
  | _ => none

def asBool (value : AnnotationValue) : Option Bool :=
  match value.scalar with
  | some (.bool b) => some b
  | _ => none

def asClass (value : AnnotationValue) : Option JavaType :=
  match value.scalar with
  | some (.classType type) => some type
  | _ => none

def asEnum (value : AnnotationValue) : Option (JavaType × String) :=
  match value.scalar with
  | some (.enum type constant) => some (type, constant)
  | _ => none

def asNested (value : AnnotationValue) : Option AnnotationUse :=
  match value.scalar with
  | some (.nested a) => some a
  | _ => none

/-- The elements of an array; any other value is its own only element. -/
def elements : AnnotationValue → List AnnotationValue
  | .array values => values
  | value => [value]

end AnnotationValue

namespace AnnotationUse

def name : AnnotationUse → String
  | .mk name _ => name

def attributes : AnnotationUse → List (String × AnnotationValue)
  | .mk _ attributes => attributes

/-- Gives an attribute a value; one given before keeps its place. -/
def setIn (key : String) (value : AnnotationValue) :
    List (String × AnnotationValue) → List (String × AnnotationValue)
  | [] => [(key, value)]
  | (name, old) :: rest =>
    if name = key then (name, value) :: rest
    else (name, old) :: setIn key value rest

def ofAttributes (name : String) (attributes : List (String × AnnotationValue)) : AnnotationUse :=
  .mk name (attributes.foldl (fun set a => setIn a.1 a.2 set) [])

def attribute? (a : AnnotationUse) (name : String) : Option AnnotationValue :=
  a.attributes.lookup name

def string? (a : AnnotationUse) (key : String) : Option String :=
  (a.attribute? key).bind AnnotationValue.asString

def bool? (a : AnnotationUse) (key : String) : Option Bool :=
  (a.attribute? key).bind AnnotationValue.asBool

def class? (a : AnnotationUse) (key : String) : Option JavaType :=
  (a.attribute? key).bind AnnotationValue.asClass

def enum? (a : AnnotationUse) (key : String) : Option (JavaType × String) :=
  (a.attribute? key).bind AnnotationValue.asEnum

def nested? (a : AnnotationUse) (key : String) : Option AnnotationUse :=
  (a.attribute? key).bind AnnotationValue.asNested

/-- The elements of an attribute, none if it is not given. -/
def elements (a : AnnotationUse) (key : String) : List AnnotationValue :=
  ((a.attribute? key).map AnnotationValue.elements).getD []

end AnnotationUse

mutual
def AnnotationValue.render : AnnotationValue → String
  | .bool value => if value then "true" else "false"
  | .int value => toString value
  | .float value => value.render
  | .string value => QuotedText.render value
  | .classType type => type.render ++ ".class"
  | .enum type constant => type.render ++ "." ++ constant
  | .nested value => value.render
  | .array values => "\x7b" ++ ", ".intercalate (AnnotationValue.renderAll values) ++ "\x7d"

def AnnotationValue.renderAll : List AnnotationValue → List String
  | [] => []
  | value :: values => value.render :: AnnotationValue.renderAll values

def AnnotationUse.render : AnnotationUse → String
  | .mk name [] => "@" ++ name
  | .mk name (a :: as) =>
    "@" ++ name ++ "(" ++ ", ".intercalate (AnnotationUse.renderAttributes (a :: as)) ++ ")"

def AnnotationUse.renderAttributes : List (String × AnnotationValue) → List String
  | [] => []
  | (name, value) :: rest => (name ++ "=" ++ value.render) :: AnnotationUse.renderAttributes rest
end

/-- The first annotation of a type among those of an element. -/
def AnnotationUse.find? (annotations : List AnnotationUse) (type : String) : Option AnnotationUse :=
  annotations.find? fun a => a.name == type

def AnnotationUse.anyOf (annotations : List AnnotationUse) (types : List String) : Bool :=
  annotations.any fun a => types.contains a.name

theorem AnnotationUse.find?_isSome_iff (annotations : List AnnotationUse) (type : String) :
    (find? annotations type).isSome = true ↔ ∃ a ∈ annotations, a.name = type := by
  simp [find?]

theorem AnnotationUse.anyOf_iff (annotations : List AnnotationUse) (types : List String) :
    anyOf annotations types = true ↔ ∃ a ∈ annotations, a.name ∈ types := by
  simp [anyOf]

end ApiSurface
