import ApiSurface.BeanProperties

/-!
# Unions of beans

A class whose type information is written into a property is described as a union of its named
subtypes, told apart by that property.
-/

namespace ApiSurface

namespace BeanUnion

def typeInfo : String := "com.fasterxml.jackson.annotation.JsonTypeInfo"
def subTypes : String := "com.fasterxml.jackson.annotation.JsonSubTypes"
def typeName : String := "com.fasterxml.jackson.annotation.JsonTypeName"

/-- The property that tells the subtypes apart. Only names in a property can be described. -/
def discriminator (info : AnnotationUse) : Except UnionFault String := do
  match info.enum? "use" with
  | none => throw .idUseMissing
  | some (_, use) => if use ≠ "NAME" then throw (.idUse use)
  match info.enum? "include" with
  | none => pure ()
  | some (_, inclusion) => if inclusion ≠ "PROPERTY" then throw (.inclusion inclusion)
  match info.string? "property" with
  | none | some "" => throw .discriminatorMissing
  | some property => pure property

/-- A subtype with the value that selects it. -/
structure Subtype where
  value : String
  type : JavaType
  deriving DecidableEq, Repr

/-- The name that a subtype gives itself. -/
def ownName (classes : ClassCollection) (type : JavaType) : Option String := do
  let decl ← classes.classOf? type
  let a ← AnnotationUse.find? decl.annotations typeName
  (a.string? "value").filter (· != "")

/-- The subtype of an entry of a list of subtypes; an entry without a class is none. -/
def listed (classes : ClassCollection) (union : String) (entry : AnnotationUse) :
    Except SurfaceError (Option Subtype) :=
  match entry.class? "value" with
  | none => .ok none
  | some type =>
    match (entry.string? "name").filter (· != "") <|> ownName classes type with
    | some value => .ok (some ⟨value, type⟩)
    | none => .error (.missingSubtypeName union type.render)

def unlisted (classes : ClassCollection) (union : String) (subclass : JavaClass) :
    Except SurfaceError Subtype :=
  match ownName classes subclass.type with
  | some value => .ok ⟨value, subclass.type⟩
  | none => .error (.missingSubtypeName union subclass.name)

/-- The listed subtypes, or without a list the direct subclasses of the package. -/
def subtypes (classes : ClassCollection) (decl : JavaClass) : Except SurfaceError (List Subtype) :=
  match AnnotationUse.find? decl.annotations subTypes with
  | some list => do
    let entries := (list.elements "value").filterMap AnnotationValue.asNested
    pure ((← entries.mapM (listed classes decl.name)).filterMap id)
  | none => (classes.directSubclasses decl).mapM (unlisted classes decl.name)

end BeanUnion

namespace Survey

/-- Adds the case of a subtype, if it is loaded. -/
def addSubtype (survey : Survey) (describe : TypeDescriber) (decl : JavaClass)
    (union : UnionDefinition) (subtype : BeanUnion.Subtype) : Describing UnionDefinition :=
  match survey.classes.classOf? subtype.type with
  | none => do
    Describing.report (.subtypeNotLoaded decl.name subtype.type)
    pure union
  | some subclass =>
    survey.addCase union subtype.value subclass (survey.beanDefinition describe subclass)

/-- Registers a class as the union of its subtypes. -/
def describeBeanUnion (survey : Survey) (describe : TypeDescriber) (decl : JavaClass)
    (name : String) (info : AnnotationUse) : Describing Unit :=
  match BeanUnion.discriminator info with
  | .error fault => throw (.failed (.unsupportedUnion decl.name fault))
  | .ok discriminator =>
    Describing.defineUnion (.empty name discriminator) fun union => do
      let subtypes ← Describing.lift (BeanUnion.subtypes survey.classes decl)
      subtypes.foldlM (survey.addSubtype describe decl) union

end Survey

end ApiSurface
