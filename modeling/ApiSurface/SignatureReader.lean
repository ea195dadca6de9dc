import ApiSurface.SignatureArena

/-!
# Reading signatures

The grammar of type descriptors and generic signatures, one reader per production. A reader
takes the text that is left and the nodes made so far. A fault keeps the text from which on
reading failed, which tells the offset.
-/

namespace ApiSurface.Signature

structure Fault where
  rest : List Char
  cause : SignatureFault
  deriving DecidableEq, Repr

structure Cursor where
  rest : List Char
  arena : Arena
  deriving DecidableEq, Repr

abbrev Reader := StateT Cursor (Except Fault)

/-- The first byte of a character's encoding, shown as the character of that code. -/
def firstByte (c : Char) : Char :=
  let n := c.toNat
  if n < 0x80 then c
  else if n < 0x800 then Char.ofNat (0xC0 + n / 0x40)
  else if n < 0x10000 then Char.ofNat (0xE0 + n / 0x1000)
  else Char.ofNat (0xF0 + n / 0x40000)

namespace Reader

def fail {α : Type} (cause : SignatureFault) : Reader α := fun cursor => .error ⟨cursor.rest, cause⟩

def peek : Reader (Option Char) := fun cursor => .ok (cursor.rest.head?, cursor)

/-- Steps over one character; at the end of the text nothing moves. -/
def skip : Reader Unit := fun cursor => .ok ((), { cursor with rest := cursor.rest.tail })

def alloc (node : Node) : Reader NodeId := fun cursor =>
  let (id, arena) := cursor.arena.alloc node
  .ok (id, { cursor with arena })

def expect (wanted : Char) : Reader Unit := do
  match ← peek with
  | none => fail .endOfText
  | some c => if c = wanted then skip else fail (.expected wanted (firstByte c))

/-- The text up to the first of the terminators, which may not stand here at once. -/
def identifier (terminators : List Char) : Reader String := fun cursor =>
  match cursor.rest.span (fun c => !terminators.contains c) with
  | ([], _) => .error ⟨cursor.rest, .identifierExpected⟩
  | (name, rest) => .ok (String.ofList name, { cursor with rest })

def finish : Reader Unit := do
  if (← peek).isSome then fail .trailingText

end Reader

open Reader

def primitiveName : Char → Option String
  | 'B' => some "byte"
  | 'C' => some "char"
  | 'D' => some "double"
  | 'F' => some "float"
  | 'I' => some "int"
  | 'J' => some "long"
  | 'S' => some "short"
  | 'Z' => some "boolean"
  | 'V' => some "void"
  | _ => none

/-- Class names are written with slashes between their packages. -/
def dotted (internalName : String) : String :=
  internalName.map fun c => if c = '/' then '.' else c

mutual
def javaType : Nat → Reader NodeId
  | 0 => fail .endOfText
  | fuel + 1 => do
    match ← peek with
    | none => fail .endOfText
    | some c =>
      if c = 'L' ∨ c = 'T' ∨ c = '[' then referenceType fuel
      else match primitiveName c with
        | none => fail (.unknownTypeCode (firstByte c))
        | some name => do
          skip
          alloc (.basic name)

def referenceType : Nat → Reader NodeId
  | 0 => fail .endOfText
  | fuel + 1 => do
    match ← peek with
    | none => fail .endOfText
    | some 'L' => do
      skip
      classType fuel
    | some 'T' => do
      skip
      let name ← identifier [';']
      expect ';'
      alloc (.var name)
    | some '[' => do
      skip
      let element ← javaType fuel
      alloc (.array element)
    | some c => fail (.referenceTypeExpected (firstByte c))

/-- What follows the leading `L` of a class type, through the closing semicolon. -/
def classType : Nat → Reader NodeId
  | 0 => fail .endOfText
  | fuel + 1 => do
    let name ← identifier ['<', '.', ';']
    let base ← alloc (.basic (dotted name))
    let outer ← withTypeArguments fuel base
    let type ← memberClasses fuel outer
    expect ';'
    pure type

def memberClasses : Nat → NodeId → Reader NodeId
  | 0, _ => fail .endOfText
  | fuel + 1, outer => do
    if (← peek) = some '.' then
      skip
      let name ← identifier ['<', '.', ';']
      let member ← alloc (.inner outer name)
      let outer ← withTypeArguments fuel member
      memberClasses fuel outer
    else
      pure outer

def withTypeArguments : Nat → NodeId → Reader NodeId
  | 0, _ => fail .endOfText
  | fuel + 1, base => do
    if (← peek) = some '<' then
      skip
      let arguments ← typeArguments fuel
      expect '>'
      if arguments.isEmpty then fail .noTypeArguments
      else alloc (.parameterized base arguments)
    else
      pure base

def typeArguments : Nat → Reader (List NodeId)
  | 0 => fail .endOfText
  | fuel + 1 => do
    if (← peek) = some '>' then
      pure []
    else
      let argument ← typeArgument fuel
      let arguments ← typeArguments fuel
      pure (argument :: arguments)

def typeArgument : Nat → Reader NodeId
  | 0 => fail .endOfText
  | fuel + 1 => do
    match ← peek with
    | some '*' => do
      skip
      alloc (.wildcard none none)
    | some '+' => do
      skip
      let bound ← referenceType fuel
      alloc (.wildcard (some bound) none)
    | some '-' => do
      skip
      let bound ← referenceType fuel
      alloc (.wildcard none (some bound))
    | _ => referenceType fuel
end

/-- Every production either takes a character or hands over to one that does, so twice the length
of a text suffices to read it. -/
def fuelFor (text : List Char) : Nat := 2 * text.length + 4

/-- Interface bounds, each after a colon. -/
def interfaceBounds (fuel : Nat) : Nat → Reader (List NodeId)
  | 0 => fail .endOfText
  | steps + 1 => do
    if (← peek) = some ':' then
      skip
      let bound ← referenceType fuel
      let bounds ← interfaceBounds fuel steps
      pure (bound :: bounds)
    else
      pure []

/-- A name with its bounds; the class bound may be left out, an interface bound may not. -/
def typeParameter (fuel : Nat) : Reader (String × List NodeId) := do
  let name ← identifier [':']
  expect ':'
  let next ← peek
  if next = some ':' ∨ next = some '>' then
    let bounds ← interfaceBounds fuel fuel
    pure (name, bounds)
  else
    let classBound ← referenceType fuel
    let bounds ← interfaceBounds fuel fuel
    pure (name, classBound :: bounds)

def typeParameterList (fuel : Nat) : Nat → Reader PendingSchema
  | 0 => fail .endOfText
  | steps + 1 => do
    if (← peek) = some '>' then
      pure []
    else
      let parameter ← typeParameter fuel
      let parameters ← typeParameterList fuel steps
      pure (parameter :: parameters)

def typeParameters (fuel : Nat) : Reader PendingSchema := do
  if (← peek) = some '<' then
    skip
    let parameters ← typeParameterList fuel fuel
    expect '>'
    if parameters.isEmpty then fail .noTypeParameters
    else pure parameters
  else
    pure []

/-- Reference types up to the end of the text. -/
def interfaceTypes (fuel : Nat) : Nat → Reader (List NodeId)
  | 0 => fail .endOfText
  | steps + 1 => do
    if (← peek).isNone then
      pure []
    else
      let type ← referenceType fuel
      let types ← interfaceTypes fuel steps
      pure (type :: types)

/-- Parameter types up to the closing parenthesis. -/
def parameterTypes (fuel : Nat) : Nat → Reader (List NodeId)
  | 0 => fail .endOfText
  | steps + 1 => do
    if (← peek) = some ')' then
      pure []
    else
      let type ← javaType fuel
      let types ← parameterTypes fuel steps
      pure (type :: types)

/-- Thrown types say nothing about the result, but must be well-formed. -/
def thrownTypes (fuel : Nat) : Nat → Reader Unit
  | 0 => fail .endOfText
  | steps + 1 => do
    if (← peek) = some '^' then
      skip
      let _ ← referenceType fuel
      thrownTypes fuel steps

end ApiSurface.Signature
