import ApiSurface.Annotations
import ApiSurface.PropertyName
import ApiSurface.TypeSchema

/-!
# Compiled classes

What is known about a compiled class: its supertypes, members and annotations.
-/

namespace ApiSurface

/-- Access flags of a class or a member. -/
structure Access where
  bits : UInt16
  deriving DecidableEq, Repr, Inhabited

namespace Access

def has (access : Access) (mask : UInt16) : Bool := access.bits &&& mask != 0

def isPublic (access : Access) : Bool := access.has 0x0001
def isStatic (access : Access) : Bool := access.has 0x0008
def isTransient (access : Access) : Bool := access.has 0x0080
def isInterface (access : Access) : Bool := access.has 0x0200
def isSynthetic (access : Access) : Bool := access.has 0x1000
def isAnnotationType (access : Access) : Bool := access.has 0x2000
def isEnum (access : Access) : Bool := access.has 0x4000

end Access

/-- A field; it may be declared nullable by the language it was written in, and may have an
initial value or a default in the constructor. -/
structure JavaField where
  name : String
  type : JavaType
  access : Access
  annotations : List AnnotationUse
  isNullable : Bool
  hasDefault : Bool

/-- Parameters have names only if the class was compiled with them. -/
structure JavaParameter where
  name : Option String
  type : JavaType
  annotations : List AnnotationUse

structure JavaMethod where
  name : String
  descriptor : String
  returnType : JavaType
  parameters : List JavaParameter
  access : Access
  schema : TypeSchema
  annotations : List AnnotationUse

namespace JavaMethod

def propertyName (method : JavaMethod) : Option String := propertyNameOfGetter method.name

/-- A method named like a getter that takes nothing and belongs to instances; one named `is`
must give a primitive boolean. -/
def isGetter (method : JavaMethod) : Bool :=
  !method.access.isStatic && method.parameters.isEmpty && method.propertyName.isSome &&
    (method.name.startsWith "get" || method.returnType.isBasic "boolean")

/-- The method is a public getter of the property. -/
structure Gets (method : JavaMethod) (property : String) : Prop where
  isPublic : method.access.isPublic = true
  ofInstance : method.access.isStatic = false
  takesNothing : method.parameters = []
  named : IsGetterName method.name property
  typed : method.name.startsWith "get" = true ∨ method.returnType = .basic "boolean"

theorem Gets.propertyName {method : JavaMethod} {property : String} (h : method.Gets property) :
    method.propertyName = some property :=
  propertyNameOfGetter_eq_some_iff.mpr h.named

def render (method : JavaMethod) : String :=
  let parameter (p : JavaParameter) : String :=
    p.type.render ++ ((p.name.map (" " ++ ·)).getD "")
  method.returnType.render ++ " " ++ method.name ++ "(" ++
    ", ".intercalate (method.parameters.map parameter) ++ ")"

end JavaMethod

structure RecordComponent where
  name : String
  type : JavaType
  annotations : List AnnotationUse

structure JavaClass where
  name : String
  access : Access
  schema : TypeSchema
  superclass : Option JavaType
  interfaces : List JavaType
  annotations : List AnnotationUse
  fields : List JavaField
  methods : List JavaMethod
  recordComponents : List RecordComponent
  permittedSubclasses : List String

namespace JavaClass

def type (c : JavaClass) : JavaType := .basic c.name

/-- The part of the name behind its last dot or dollar sign. -/
def simpleName (c : JavaClass) : String :=
  String.ofList (c.name.toList.reverse.takeWhile fun x => x != '.' && x != '$').reverse

def package (c : JavaClass) : String := packageOf c.name

def isInterface (c : JavaClass) : Bool := c.access.isInterface

def isAnnotationType (c : JavaClass) : Bool :=
  c.access.isAnnotationType ||
    (c.isInterface && c.interfaces.any (·.isBasic "java.lang.annotation.Annotation"))

def isEnum (c : JavaClass) : Bool := c.access.isEnum

def isRecord (c : JavaClass) : Bool := c.superclass.any (·.isBasic "java.lang.Record")

def isSealed (c : JavaClass) : Bool := !c.permittedSubclasses.isEmpty

/-- Names of the constants of an enum, in the order of their declaration. -/
def enumConstants (c : JavaClass) : List String :=
  if c.isEnum then (c.fields.filter (·.access.isEnum)).map (·.name) else []

def publicMethods (c : JavaClass) : List JavaMethod := c.methods.filter (·.access.isPublic)

def getters (c : JavaClass) : List JavaMethod := c.publicMethods.filter (·.isGetter)

def publicInstanceFields (c : JavaClass) : List JavaField :=
  c.fields.filter fun f => f.access.isPublic && !f.access.isStatic

def field? (c : JavaClass) (name : String) : Option JavaField := c.fields.find? (·.name == name)

def method? (c : JavaClass) (name : String) : Option JavaMethod := c.methods.find? (·.name == name)

def annotatedMethod? (c : JavaClass) (type : String) : Option JavaMethod :=
  c.methods.find? fun m => (AnnotationUse.find? m.annotations type).isSome

/-- The annotated method is the first that has an annotation of the type, whatever else it is. -/
theorem annotatedMethod?_eq_some_iff (c : JavaClass) {type : String} {method : JavaMethod} :
    c.annotatedMethod? type = some method ↔ ∃ front back, c.methods = front ++ method :: back ∧
      (∃ a ∈ method.annotations, a.name = type) ∧
        ∀ earlier ∈ front, ∀ a ∈ earlier.annotations, a.name ≠ type := by
  simp only [annotatedMethod?, List.find?_eq_some_iff_append, AnnotationUse.find?_isSome_iff,
    Bool.not_eq_true', ← Bool.not_eq_true]
  grind

/-- The direct supertypes, the superclass first. -/
def supertypes (c : JavaClass) : List JavaType := c.superclass.toList ++ c.interfaces

/-- The environment of a method's own declaration: variables stand for their bounds. -/
def methodEnvironment (c : JavaClass) (method : JavaMethod) : TypeEnvironment :=
  .ofSchemas c.schema method.schema

end JavaClass

end ApiSurface
