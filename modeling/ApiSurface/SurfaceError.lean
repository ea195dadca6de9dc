import ApiSurface.TypeEnvironment

/-!
# What can go wrong

Every failure ends the operation that meets it. `message` is the text shown to a user, and
`isModeling` says whether the described classes are at fault, and not a file or a setting.
-/

namespace ApiSurface

/-- What a signature has in place of what its grammar asks for. A found character is shown as
the character with the code of its first byte. -/
inductive SignatureFault where
  | endOfText
  | expected (wanted found : Char)
  | identifierExpected
  | trailingText
  | noTypeParameters
  | noTypeArguments
  | unknownTypeCode (found : Char)
  | referenceTypeExpected (found : Char)
  | genericDescriptor
  | parametersInDescriptor
  | classDescriptorExpected (found : JavaType)
  | argumentCount (signatureCount : Nat) (descriptor : String) (descriptorCount : Nat)
  deriving DecidableEq, Repr

namespace SignatureFault

def message : SignatureFault → String
  | .endOfText => "unexpected end of signature"
  | .expected wanted found =>
    "expected '" ++ wanted.toString ++ "', found '" ++ found.toString ++ "'"
  | .identifierExpected => "expected identifier"
  | .trailingText => "trailing characters"
  | .noTypeParameters => "empty type parameter list"
  | .noTypeArguments => "empty type argument list"
  | .unknownTypeCode found => "unknown type code '" ++ found.toString ++ "'"
  | .referenceTypeExpected found => "expected reference type, found '" ++ found.toString ++ "'"
  | .genericDescriptor => "descriptor contains generic information"
  | .parametersInDescriptor => "descriptor declares type parameters"
  | .classDescriptorExpected found => "expected class descriptor, got " ++ found.render
  | .argumentCount signatureCount descriptor descriptorCount =>
    s!"signature has {signatureCount} arguments but descriptor {descriptor} has {descriptorCount}"

end SignatureFault

/-- Why a union declaration cannot be described. -/
inductive UnionFault where
  | idUse (constant : String)
  | idUseMissing
  | inclusion (constant : String)
  | discriminatorMissing
  deriving DecidableEq, Repr

namespace UnionFault

def message : UnionFault → String
  | .idUse constant => s!"type id use {constant} is not NAME"
  | .idUseMissing => "type id use is not specified"
  | .inclusion constant => s!"type id inclusion {constant} is not PROPERTY"
  | .discriminatorMissing => "discriminator property is not specified"

end UnionFault

/-- Why a file could not be read or written. -/
inductive FileFault where
  | notFound
  | isADirectory
  | notADirectory
  | invalidName
  | nameTooLong
  | other
  deriving DecidableEq, Repr

namespace FileFault

def message : FileFault → String
  | .notFound => "No such file or directory"
  | .isADirectory => "Is a directory"
  | .notADirectory => "Not a directory"
  | .invalidName => "Invalid file name"
  | .nameTooLong => "File name too long"
  | .other => "Input or output failed"

end FileFault

inductive SurfaceError where
  | duplicateClassName (displayName first second : String)
  | selfReferentialBinding (name : String) (environment : TypeEnvironment)
  | unsupportedType (type : JavaType)
  | unsupportedUnion (className : String) (fault : UnionFault)
  | missingSubtypeName (union subtype : String)
  | missingParameterName (className method : String) (index : Nat)
  | malformedSignature (signature : String) (offset : Nat) (fault : SignatureFault)
  | duplicateTypeVariable (name : String)
  | unknownTypeVariable (name : String)
  | schemaArity (expected found : Nat)
  | duplicateDefinition (name : String)
  | missingPlaceholder (name : String)
  | duplicateProperty (className property : String)
  | duplicateUnionCase (union value : String)
  | duplicateImport (name : String)
  | malformedUriTemplate (template : String)
  | invalidPattern (pattern : String)
  | tooManyParameters (className method : String) (listed declared : Nat)
  | config
  | configWrite
  | file (fault : FileFault)
  | json
  deriving DecidableEq, Repr

namespace SurfaceError

def message : SurfaceError → String
  | .duplicateClassName displayName first second =>
    s!"type name '{displayName}' is produced by both '{first}' and '{second}'; " ++
      "register a name override for one of them"
  | .selfReferentialBinding name environment =>
    "looking up type variable " ++ name ++ " returned itself in " ++ environment.render
  | .unsupportedType type => "translating inner class types is not supported: " ++ type.render
  | .unsupportedUnion className fault =>
    "unsupported union declaration on " ++ className ++ ": " ++ fault.message
  | .missingSubtypeName union subtype =>
    s!"no discriminator name defined for subtype {subtype} of {union}"
  | .missingParameterName className method index =>
    s!"parameter {index} of {className}.{method} has no name and no explicit name attribute"
  | .malformedSignature signature offset fault =>
    s!"malformed signature '{signature}' at offset {offset}: " ++ fault.message
  | .duplicateTypeVariable name => s!"tried to add duplicate type variable: {name}"
  | .unknownTypeVariable name => s!"unknown type variable {name}"
  | .schemaArity expected found => s!"expected {expected} type arguments, but got {found}"
  | .duplicateDefinition name => s!"tried to add type-definition twice: {name}"
  | .missingPlaceholder name => s!"no placeholder registered for {name}"
  | .duplicateProperty className property => s!"duplicate property '{property}' in {className}"
  | .duplicateUnionCase union value =>
    s!"duplicate case '{value}' in discriminated union {union}"
  | .duplicateImport name => s!"type {name} is already imported"
  | .malformedUriTemplate template => s!"malformed URI template: {template}"
  | .invalidPattern pattern => s!"invalid pattern '{pattern}'"
  | .tooManyParameters className method listed declared =>
    s!"invalid class record for {className}: " ++
      s!"method {method} lists {listed} parameters but its descriptor has {declared}"
  | .config => "failed to parse configuration"
  | .configWrite => "failed to serialize configuration"
  | .file fault => fault.message
  | .json => "malformed class records"

/-- Files, settings and record texts are the reader's input; all else is said by the classes. -/
def isModeling : SurfaceError → Bool
  | .config | .configWrite | .file _ | .json | .invalidPattern _ => false
  | _ => true

end SurfaceError

/-- Why a computation over classes gives no value: it fails, or it follows links between classes
that never end. -/
inductive Halt where
  | failed (error : SurfaceError)
  | endless
  deriving DecidableEq, Repr

def Halt.lift {α : Type} : Except SurfaceError α → Except Halt α
  | .ok value => .ok value
  | .error e => .error (.failed e)

end ApiSurface
