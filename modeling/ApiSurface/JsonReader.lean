import ApiSurface.Json

/-!
# Reading JSON text

The grammar of JSON, with one value to a text. Numbers are taken as they are written, without a
bound on their size.
-/

namespace ApiSurface.Json.Reader

def isBlank (c : Char) : Bool := c = ' ' || c = '\t' || c = '\n' || c = '\r'

def skipBlanks (cs : List Char) : List Char := cs.dropWhile isBlank

def hexValue (c : Char) : Option Nat :=
  if '0' ≤ c ∧ c ≤ '9' then some (c.toNat - '0'.toNat)
  else if 'a' ≤ c ∧ c ≤ 'f' then some (c.toNat - 'a'.toNat + 10)
  else if 'A' ≤ c ∧ c ≤ 'F' then some (c.toNat - 'A'.toNat + 10)
  else none

def codeUnit (a b c d : Char) : Option Nat := do
  pure ((((← hexValue a) * 16 + (← hexValue b)) * 16 + (← hexValue c)) * 16 + (← hexValue d))

def isHighSurrogate (n : Nat) : Bool := 0xD800 ≤ n && n < 0xDC00

def isLowSurrogate (n : Nat) : Bool := 0xDC00 ≤ n && n < 0xE000

def simpleEscape : Char → Option Char
  | '"' => some '"'
  | '\\' => some '\\'
  | '/' => some '/'
  | 'b' => some (Char.ofNat 8)
  | 'f' => some (Char.ofNat 12)
  | 'n' => some '\n'
  | 'r' => some '\r'
  | 't' => some '\t'
  | _ => none

/-- The text of a literal as far as it is read: its characters in reverse, or nothing once half of
a surrogate pair stood alone; and the first half of a pair whose second half is awaited. -/
structure Literal where
  reversed : Option (List Char)
  high : Option Nat

namespace Literal

def push (read : Literal) (c : Char) : Literal :=
  if read.high.isSome then ⟨none, none⟩ else ⟨read.reversed.map (c :: ·), none⟩

def pushUnit (read : Literal) (n : Nat) : Literal :=
  match read.high with
  | some high =>
    if isLowSurrogate n then
      let code := 0x10000 + (high - 0xD800) * 0x400 + (n - 0xDC00)
      ⟨read.reversed.map (Char.ofNat code :: ·), none⟩
    else ⟨none, none⟩
  | none =>
    if isHighSurrogate n then ⟨read.reversed, some n⟩
    else if isLowSurrogate n then ⟨none, none⟩
    else read.push (Char.ofNat n)

def text (read : Literal) : Option String :=
  if read.high.isSome then none else read.reversed.map fun cs => String.ofList cs.reverse

end Literal

/-- What follows the opening quote, through the closing one. -/
def stringBody : List Char → Literal → Option (Option String × List Char)
  | [], _ => none
  | '"' :: rest, read => some (read.text, rest)
  | '\\' :: 'u' :: a :: b :: c :: d :: rest, read =>
    match codeUnit a b c d with
    | none => none
    | some n => stringBody rest (read.pushUnit n)
  | '\\' :: c :: rest, read =>
    match simpleEscape c with
    | none => none
    | some e => stringBody rest (read.push e)
  | c :: rest, read =>
    if c.toNat < 0x20 ∨ c = '\\' then none else stringBody rest (read.push c)

def stringLiteral (cs : List Char) : Option (Option String × List Char) :=
  stringBody cs ⟨some [], none⟩

def digits (cs : List Char) : List Char × List Char := cs.span Char.isDigit

/-- A sign, an integer without leading zeros, and what may follow it. -/
def number (cs : List Char) : Option (String × List Char) := do
  let (sign, cs) := match cs with
    | '-' :: rest => (['-'], rest)
    | _ => ([], cs)
  let (whole, cs) ← match cs with
    | '0' :: rest => some (['0'], rest)
    | _ =>
      match digits cs with
      | ([], _) => none
      | (ds, rest) => some (ds, rest)
  let (fraction, cs) ← match cs with
    | '.' :: rest =>
      match digits rest with
      | ([], _) => none
      | (ds, rest) => some ('.' :: ds, rest)
    | _ => some ([], cs)
  let (exponent, cs) ← match cs with
    | e :: rest =>
      if e = 'e' ∨ e = 'E' then
        let (sign, rest) := match rest with
          | '+' :: rest => (['+'], rest)
          | '-' :: rest => (['-'], rest)
          | _ => ([], rest)
        match digits rest with
        | ([], _) => none
        | (ds, rest) => some (e :: sign ++ ds, rest)
      else some ([], cs)
    | [] => some ([], cs)
  pure (String.ofList (sign ++ whole ++ fraction ++ exponent), cs)

def stripPrefix? (lead : List Char) (cs : List Char) : Option (List Char) :=
  if lead.isPrefixOf cs then some (cs.drop lead.length) else none

def word (text : String) (value : Json) (cs : List Char) : Option (Json × List Char) :=
  (stripPrefix? text.toList cs).map fun rest => (value, rest)

mutual
/-- A value with the blanks before it. -/
def value : Nat → List Char → Option (Json × List Char)
  | 0, _ => none
  | fuel + 1, cs =>
    match skipBlanks cs with
    | '\x7b' :: rest =>
      match skipBlanks rest with
      | '\x7d' :: rest => some (.object [], rest)
      | rest => members fuel rest []
    | '[' :: rest =>
      match skipBlanks rest with
      | ']' :: rest => some (.array [], rest)
      | rest => elements fuel rest []
    | '"' :: rest => (stringLiteral rest).map fun (text, rest) => (.string text, rest)
    | 't' :: rest => word "true" (.bool true) ('t' :: rest)
    | 'f' :: rest => word "false" (.bool false) ('f' :: rest)
    | 'n' :: rest => word "null" .null ('n' :: rest)
    | rest => (number rest).map fun (lexeme, rest) => (.number lexeme, rest)

def elements : Nat → List Char → List Json → Option (Json × List Char)
  | 0, _, _ => none
  | fuel + 1, cs, read => do
    let (element, rest) ← value fuel cs
    match skipBlanks rest with
    | ',' :: rest => elements fuel rest (element :: read)
    | ']' :: rest => some (.array (element :: read).reverse, rest)
    | _ => none

def members : Nat → List Char → List (Option String × Json) → Option (Json × List Char)
  | 0, _, _ => none
  | fuel + 1, cs, read =>
    match skipBlanks cs with
    | '"' :: rest => do
      let (key, rest) ← stringLiteral rest
      match skipBlanks rest with
      | ':' :: rest => do
        let (member, rest) ← value fuel rest
        match skipBlanks rest with
        | ',' :: rest => members fuel rest ((key, member) :: read)
        | '\x7d' :: rest => some (.object ((key, member) :: read).reverse, rest)
        | _ => none
      | _ => none
    | _ => none
end

end ApiSurface.Json.Reader

namespace ApiSurface.Json

/-- The one value of a text. -/
def parse? (text : String) : Option Json := do
  let cs := text.toList
  let (value, rest) ← Reader.value (2 * cs.length + 2) cs
  if (Reader.skipBlanks rest).isEmpty then some value else none

end ApiSurface.Json
