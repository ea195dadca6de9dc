/-!
# JSON values

A number keeps the text it was written with, since how it is to be read depends on what it is
read as. Objects keep their members in order, repeated names included.
-/

namespace ApiSurface

/-- A string literal may hold half of a surrogate pair; it then has no text, and is `none`. -/
inductive Json where
  | null
  | bool (value : Bool)
  | number (lexeme : String)
  | string (text : Option String)
  | array (elements : List Json)
  | object (members : List (Option String × Json))
  deriving Repr, Inhabited

namespace Json

def ofString (text : String) : Json := .string (some text)

def ofNat (n : Nat) : Json := .number (toString n)

def ofMembers (members : List (String × Json)) : Json :=
  .object (members.map fun m => (some m.1, m.2))

def ofStrings (texts : List String) : Json := .array (texts.map ofString)

def ofOption : Option Json → Json
  | none => .null
  | some value => value

def ofOptionString (text : Option String) : Json := ofOption (text.map ofString)

/-- The first member of a name. -/
def member? (value : Json) (name : String) : Option Json :=
  match value with
  | .object members => members.lookup (some name)
  | _ => none

/-! ## Printing -/

def hexDigit (n : Nat) : Char := (Nat.digitChar (n % 16))

def escapeChar (c : Char) : List Char :=
  if c = '"' then ['\\', '"']
  else if c = '\\' then ['\\', '\\']
  else if c = '\n' then ['\\', 'n']
  else if c = '\r' then ['\\', 'r']
  else if c = '\t' then ['\\', 't']
  else if c.toNat = 8 then ['\\', 'b']
  else if c.toNat = 12 then ['\\', 'f']
  else if c.toNat < 0x20 then ['\\', 'u', '0', '0', hexDigit (c.toNat / 16), hexDigit c.toNat]
  else [c]

def quote (text : String) : String :=
  String.ofList (['"'] ++ text.toList.flatMap escapeChar ++ ['"'])

def quoteKey (key : Option String) : String := quote (key.getD "")

mutual
def compress : Json → String
  | .null => "null"
  | .bool value => if value then "true" else "false"
  | .number lexeme => lexeme
  | .string text => quoteKey text
  | .array elements => "[" ++ ",".intercalate (compressAll elements) ++ "]"
  | .object members => "\x7b" ++ ",".intercalate (compressMembers members) ++ "\x7d"

def compressAll : List Json → List String
  | [] => []
  | v :: vs => compress v :: compressAll vs

def compressMembers : List (Option String × Json) → List String
  | [] => []
  | (key, v) :: vs => (quoteKey key ++ ":" ++ compress v) :: compressMembers vs
end

def indentation (depth : Nat) : String := String.ofList (List.replicate (2 * depth) ' ')

/-- Items on lines of their own between brackets; nothing between the brackets of no items. -/
def block (opening closing : String) (depth : Nat) (items : List String) : String :=
  if items.isEmpty then opening ++ closing
  else
    let lines := items.map fun item => "\n" ++ indentation (depth + 1) ++ item
    opening ++ ",".intercalate lines ++ "\n" ++ indentation depth ++ closing

mutual
/-- The value on several lines, each level two blanks further in. -/
def pretty (depth : Nat) : Json → String
  | .null => "null"
  | .bool value => if value then "true" else "false"
  | .number lexeme => lexeme
  | .string text => quoteKey text
  | .array elements => block "[" "]" depth (prettyAll (depth + 1) elements)
  | .object members => block "\x7b" "\x7d" depth (prettyMembers (depth + 1) members)

def prettyAll (depth : Nat) : List Json → List String
  | [] => []
  | v :: vs => pretty depth v :: prettyAll depth vs

def prettyMembers (depth : Nat) : List (Option String × Json) → List String
  | [] => []
  | (key, v) :: vs => (quoteKey key ++ ": " ++ pretty depth v) :: prettyMembers depth vs
end

end Json

end ApiSurface
