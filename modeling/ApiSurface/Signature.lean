import ApiSurface.SignatureReader

/-!
# Signatures of fields, classes and methods

Public readers of whole texts. Each gives a value, or says at which byte of the text it failed.
-/

namespace ApiSurface

structure ClassSignature where
  schema : TypeSchema
  superclass : JavaType
  interfaces : List JavaType
  deriving DecidableEq, Repr

structure MethodSignature where
  returnType : JavaType
  parameterTypes : List JavaType
  schema : TypeSchema
  deriving DecidableEq, Repr

def MethodSignature.argumentCount (signature : MethodSignature) : Nat :=
  signature.parameterTypes.length

namespace Signature

/-- Number of bytes of the UTF-8 encoding. -/
def byteLength (text : List Char) : Nat := (text.map Char.utf8Size).foldr (· + ·) 0

/-- A fault that names the whole text and the offset at which reading stopped. -/
def Fault.toError (fault : Fault) (text : String) : SurfaceError :=
  .malformedSignature text (byteLength text.toList - byteLength fault.rest) fault.cause

def run {α : Type} (reader : Nat → Reader α) (text : String) : Except SurfaceError (α × Arena) :=
  match reader (fuelFor text.toList) ⟨text.toList, .empty⟩ with
  | .ok (value, cursor) => .ok (value, cursor.arena)
  | .error fault => .error (fault.toError text)

def wholeType (fuel : Nat) : Reader NodeId := do
  let type ← javaType fuel
  Reader.finish
  pure type

/-- Reads a generic type, such as the signature of a field. -/
def parseType (text : String) : Except SurfaceError JavaType := do
  let (type, arena) ← run wholeType text
  pure (arena.materialize type)

def isGeneric : JavaType → Bool
  | .basic _ => false
  | .array element => isGeneric element
  | _ => true

/-- Reads a descriptor of a type, which has no generic parts. -/
def parseTypeDescriptor (text : String) : Except SurfaceError JavaType := do
  let type ← parseType text
  if isGeneric type then throw (.malformedSignature text 0 .genericDescriptor)
  pure type

/-- The class of an internal name. Names of array classes are descriptors. -/
def parseObjectType (internalName : String) : JavaType :=
  if internalName.startsWith "[" then
    match parseTypeDescriptor internalName with
    | .ok type => type
    | .error _ => .basic (dotted internalName)
  else
    .basic (dotted internalName)

/-- The generic signature where there is one, else the descriptor. -/
def parseFieldType (descriptor : String) (signature : Option String) :
    Except SurfaceError JavaType :=
  match signature with
  | some signature => parseType signature
  | none => parseTypeDescriptor descriptor

def wholeClass (fuel : Nat) : Reader (PendingSchema × NodeId × List NodeId) := do
  let parameters ← typeParameters fuel
  let superclass ← referenceType fuel
  let interfaces ← interfaceTypes fuel fuel
  pure (parameters, superclass, interfaces)

def parseClassSignature (text : String) : Except SurfaceError ClassSignature := do
  let ((parameters, superclass, interfaces), arena) ← run wholeClass text
  let schema ← parameters.build arena
  pure ⟨schema, arena.materialize superclass, interfaces.map arena.materialize⟩

def wholeMethod (fuel : Nat) : Reader (PendingSchema × List NodeId × NodeId) := do
  let typeParameters ← typeParameters fuel
  Reader.expect '('
  let parameters ← parameterTypes fuel fuel
  Reader.expect ')'
  let returnType ← javaType fuel
  thrownTypes fuel fuel
  Reader.finish
  pure (typeParameters, parameters, returnType)

def parseGenericMethodSignature (text : String) : Except SurfaceError MethodSignature := do
  let ((typeParameters, parameters, returnType), arena) ← run wholeMethod text
  let schema ← typeParameters.build arena
  pure ⟨arena.materialize returnType, parameters.map arena.materialize, schema⟩

/-- Reads a method descriptor, which declares no type parameters. -/
def parseMethodDescriptor (text : String) : Except SurfaceError MethodSignature := do
  let signature ← parseGenericMethodSignature text
  if !signature.schema.isEmpty then
    throw (.malformedSignature text 0 .parametersInDescriptor)
  pure signature

/-- The types of a method, from the generic signature where there is one. A signature may leave
out the first argument of its descriptor, an enclosing instance that only the compiler knows;
the argument is then taken from the descriptor. -/
def parseMethodSignature (descriptor : String) (signature : Option String) :
    Except SurfaceError MethodSignature := do
  let plain ← parseMethodDescriptor descriptor
  match signature with
  | none => pure plain
  | some signature =>
    let generic ← parseGenericMethodSignature signature
    if plain.argumentCount = generic.argumentCount + 1 then
      pure { generic with
        parameterTypes := plain.parameterTypes.take 1 ++ generic.parameterTypes }
    else if plain.argumentCount ≠ generic.argumentCount then
      throw (.malformedSignature signature 0
        (.argumentCount generic.argumentCount descriptor plain.argumentCount))
    else
      pure generic

end Signature

end ApiSurface
