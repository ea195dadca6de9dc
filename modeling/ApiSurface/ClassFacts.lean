import ApiSurface.ClassRecord
import ApiSurface.JavaClass
import ApiSurface.Signature

/-!
# From records to classes

A record's descriptors and signatures are read into types. Generic signatures are preferred where
a record has them.
-/

namespace ApiSurface

open Signature

/-- The class that an annotation's descriptor names. -/
def annotationTypeName (descriptor : String) : Except SurfaceError String := do
  match ← parseTypeDescriptor descriptor with
  | .basic name => pure name
  | other => throw (.malformedSignature descriptor 0 (.classDescriptorExpected other))

mutual
def ValueRecord.toValue : ValueRecord → Except SurfaceError AnnotationValue
  | .bool value => pure (.bool value)
  | .int value => pure (.int value)
  | .float value => pure (.float value)
  | .string value => pure (.string value)
  | .classType descriptor => do pure (.classType (← parseTypeDescriptor descriptor))
  | .enum descriptor constant => do pure (.enum (← parseTypeDescriptor descriptor) constant)
  | .nested value => do pure (.nested (← value.toUse))
  | .array values => do pure (.array (← ValueRecord.toValues values))

def ValueRecord.toValues : List ValueRecord → Except SurfaceError (List AnnotationValue)
  | [] => pure []
  | value :: values => do pure ((← value.toValue) :: (← ValueRecord.toValues values))

def AnnotationRecord.toUse : AnnotationRecord → Except SurfaceError AnnotationUse
  | .mk descriptor attributes => do
    let name ← annotationTypeName descriptor
    pure (.ofAttributes name (← AnnotationRecord.toAttributes attributes))

def AnnotationRecord.toAttributes :
    List (String × ValueRecord) → Except SurfaceError (List (String × AnnotationValue))
  | [] => pure []
  | (key, value) :: rest => do
    pure ((key, ← value.toValue) :: (← AnnotationRecord.toAttributes rest))
end

def AnnotationRecord.toAnnotations (records : List AnnotationRecord) :
    Except SurfaceError (List AnnotationUse) :=
  records.mapM AnnotationRecord.toUse

namespace FieldRecord

def toField (record : FieldRecord) : Except SurfaceError JavaField := do
  let type ← parseFieldType record.descriptor record.signature
  let annotations ← AnnotationRecord.toAnnotations record.annotations
  pure ⟨record.name, type, ⟨record.access⟩, annotations, record.nullable, record.hasDefault⟩

end FieldRecord

namespace ParameterRecord

def empty : ParameterRecord := ⟨none, []⟩

def toParameter (record : ParameterRecord) (type : JavaType) :
    Except SurfaceError JavaParameter := do
  pure ⟨record.name, type, ← AnnotationRecord.toAnnotations record.annotations⟩

/-- One parameter for each type; the records may be fewer. -/
def toParameters : List JavaType → List ParameterRecord →
    Except SurfaceError (List JavaParameter)
  | [], _ => pure []
  | type :: types, [] => do pure ((← empty.toParameter type) :: (← toParameters types []))
  | type :: types, record :: records => do
    pure ((← record.toParameter type) :: (← toParameters types records))

end ParameterRecord

namespace MethodRecord

def toMethod (className : String) (record : MethodRecord) : Except SurfaceError JavaMethod := do
  let signature ← parseMethodSignature record.descriptor record.signature
  let listed := record.parameters.length
  if signature.argumentCount < listed then
    throw (.tooManyParameters className record.name listed signature.argumentCount)
  let parameters ← ParameterRecord.toParameters signature.parameterTypes record.parameters
  let annotations ← AnnotationRecord.toAnnotations record.annotations
  pure {
    name := record.name
    descriptor := record.descriptor
    returnType := signature.returnType
    parameters
    access := ⟨record.access⟩
    schema := signature.schema
    annotations }

end MethodRecord

namespace ComponentRecord

def toComponent (record : ComponentRecord) : Except SurfaceError RecordComponent := do
  let type ← parseFieldType record.descriptor record.signature
  pure ⟨record.name, type, ← AnnotationRecord.toAnnotations record.annotations⟩

end ComponentRecord

namespace ClassRecord

/-- Type parameters and direct supertypes. A generic signature replaces the plain names. -/
def declaration (record : ClassRecord) :
    Except SurfaceError (TypeSchema × Option JavaType × List JavaType) :=
  match record.signature with
  | some signature => do
    let s ← parseClassSignature signature
    pure (s.schema, some s.superclass, s.interfaces)
  | none =>
    pure (.empty, record.superclass.map parseObjectType, record.interfaces.map parseObjectType)

def toClass (record : ClassRecord) : Except SurfaceError JavaClass := do
  let name := dotted record.name
  let (schema, superclass, interfaces) ← record.declaration
  let annotations ← AnnotationRecord.toAnnotations record.annotations
  let fields ← record.fields.mapM FieldRecord.toField
  let methods ← record.methods.mapM (MethodRecord.toMethod name)
  let recordComponents ← record.recordComponents.mapM ComponentRecord.toComponent
  pure {
    name
    access := ⟨record.access⟩
    schema
    superclass
    interfaces
    annotations
    fields
    methods
    recordComponents
    permittedSubclasses := record.permittedSubclasses.map dotted }

end ClassRecord

end ApiSurface
