import ApiSurface.Description

/-!
# Serialized fields

Classes that are marked serializable are described by their fields. A sealed one is a union of
its permitted subclasses.
-/

namespace ApiSurface

namespace Serialization

def serializable : String := "kotlinx.serialization.Serializable"
def serialName : String := "kotlinx.serialization.SerialName"
def transient : String := "kotlinx.serialization.Transient"
def required : String := "kotlinx.serialization.Required"

def discriminator : String := "type"

def isMarked (annotations : List AnnotationUse) (type : String) : Bool :=
  (AnnotationUse.find? annotations type).isSome

def isSerializable (decl : JavaClass) : Bool := isMarked decl.annotations serializable

/-- The name given by an annotation. -/
def givenName (annotations : List AnnotationUse) : Option String :=
  (AnnotationUse.find? annotations serialName).bind fun a => a.string? "value"

def isSerialized (field : JavaField) : Bool :=
  !field.access.isStatic && !field.access.isSynthetic && !isMarked field.annotations transient

def fieldName (field : JavaField) : String := (givenName field.annotations).getD field.name

/-- A field that may be left out is null to the reader then. -/
def mayBeNull (field : JavaField) : Bool :=
  field.isNullable || (field.hasDefault && !isMarked field.annotations required)

/-- The value that selects a subclass: its given name, else its qualified name with dots only. -/
def caseValue (subclass : JavaClass) : String :=
  (givenName subclass.annotations).getD (subclass.name.map fun c => if c = '$' then '.' else c)

/-- The serialized fields of a hierarchy. Classes that are not marked take no part. -/
def fields (levels : List BoundClass) : List (TypeEnvironment × JavaField) :=
  (levels.filter fun level => isSerializable level.decl).flatMap fun level =>
    (level.decl.fields.filter isSerialized).map fun f => (level.environment, f)

end Serialization

namespace Survey

open Serialization

/-- Adds the property of a field, unless its name is taken. -/
def addField (describe : TypeDescriber) (definition : ClassDefinition) (env : TypeEnvironment)
    (field : JavaField) : Describing ClassDefinition := do
  let name := fieldName field
  if definition.has name then pure definition
  else
    let type ← describe.element field.annotations field.type env
    Describing.lift (definition.add name (if mayBeNull field then type.orNull else type))

/-- The definition of a class by its serialized fields. -/
def serializedDefinition (survey : Survey) (describe : TypeDescriber) (decl : JavaClass)
    (name : String) : Describing ClassDefinition := do
  let levels ← Describing.liftHalt (survey.classes.hierarchy (.raw decl))
  (fields levels).foldlM (fun definition (env, field) => addField describe definition env field)
    (.empty name)

/-- Adds the case of a permitted subclass, if it is loaded. -/
def addPermitted (survey : Survey) (describe : TypeDescriber) (decl : JavaClass)
    (union : UnionDefinition) (subclass : String) : Describing UnionDefinition :=
  match survey.classes.class? subclass with
  | none => do
    Describing.report (.permittedNotLoaded decl.name subclass)
    pure union
  | some subclass =>
    survey.addCase union (caseValue subclass) subclass (survey.serializedDefinition describe subclass)

/-- Registers a class as the union of its permitted subclasses. -/
def describeSealedUnion (survey : Survey) (describe : TypeDescriber) (decl : JavaClass)
    (name : String) : Describing Unit :=
  Describing.defineUnion (.empty name discriminator)
    (decl.permittedSubclasses.foldlM (survey.addPermitted describe decl))

end Survey

end ApiSurface
