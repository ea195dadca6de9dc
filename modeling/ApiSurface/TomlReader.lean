import ApiSurface.Toml

/-!
# Reading TOML

The grammar of TOML 1.0. Statements are read one after the other into the tables that they name.
A table may be opened by a header once, tables made by dotted keys belong to the table they were
made in, and inline values are closed.
-/

namespace ApiSurface.TomlReader

/-! ## Tables under construction -/

/-- How a table came to be: by a header of its own, on the way to another header, or by dotted
keys. -/
inductive Origin where
  | header
  | implied
  | dotted
  deriving DecidableEq, Repr

/-- The tables of an array come last first. -/
inductive Item where
  | value (value : Toml)
  | table (origin : Origin) (entries : List (String × Item))
  | tables (elements : List Item)
  deriving Inhabited

namespace Item

def emptyTable : Item := .table .header []

mutual
def toToml : Item → Toml
  | .value v => v
  | .table _ entries => .table (entriesToToml entries)
  | .tables elements => .array (elementsToToml elements).reverse

def entriesToToml : List (String × Item) → List (String × Toml)
  | [] => []
  | (key, item) :: rest => (key, toToml item) :: entriesToToml rest

def elementsToToml : List Item → List Toml
  | [] => []
  | item :: rest => toToml item :: elementsToToml rest
end

def set (key : String) (item : Item) : List (String × Item) → List (String × Item)
  | [] => [(key, item)]
  | (k, i) :: rest => if k = key then (k, item) :: rest else (k, i) :: set key item rest

/-- Changes the table at the end of a path and makes the tables that are missing on the way. In an
array of tables the path goes on in the last one. Dotted keys do not lead into tables that have a
header. -/
def modifyAt (dotted : Bool) : List String → (Item → Option Item) → Item → Option Item
  | [], change, item => change item
  | key :: path, change, .table origin entries => do
    let changed ← match entries.lookup key with
      | none => modifyAt dotted path change (.table (if dotted then .dotted else .implied) [])
      | some (.value _) => none
      | some (.tables []) => none
      | some (.tables (last :: earlier)) => do
        pure (.tables ((← modifyAt dotted path change last) :: earlier))
      | some (.table origin entries) =>
        if dotted ∧ origin = .header then none
        else modifyAt dotted path change (.table origin entries)
    pure (.table origin (set key changed entries))
  | _ :: _, _, _ => none

/-- Adds a value under a new key. Tables made by dotted keys are added to by dotted keys only. -/
def addValue (path : List String) (key : String) (value : Toml) : Item → Option Item :=
  modifyAt true path fun
    | .table origin entries =>
      if (origin = .dotted) = path.isEmpty ∨ (entries.lookup key).isSome then none
      else some (.table origin (set key (.value value) entries))
    | _ => none

/-- Opens the table of a header. -/
def openTable (path : List String) (key : String) : Item → Option Item :=
  modifyAt false path fun
    | .table origin entries =>
      match entries.lookup key with
      | none => some (.table origin (set key emptyTable entries))
      | some (.table .implied inner) => some (.table origin (set key (.table .header inner) entries))
      | some _ => none
    | _ => none

/-- Opens another table of an array of tables. -/
def openElement (path : List String) (key : String) : Item → Option Item :=
  modifyAt false path fun
    | .table origin entries =>
      match entries.lookup key with
      | none => some (.table origin (set key (.tables [emptyTable]) entries))
      | some (.tables elements) =>
        some (.table origin (set key (.tables (emptyTable :: elements)) entries))
      | some _ => none
    | _ => none

end Item

/-! ## Characters -/

abbrev Reader := StateT (List Char) Option

def refuse {α : Type} : Reader α := fun _ => none

/-- Reads by a function on the text that is left. -/
def reading {α : Type} (read : List Char → Option (α × List Char)) : Reader α := read

def isBlank (c : Char) : Bool := c = ' ' || c = '\t'

/-- Characters that may stand in a comment and, apart from quotes and escapes, in a string. -/
def isPlain (c : Char) : Bool := c = '\t' || (0x20 ≤ c.toNat && c.toNat ≠ 0x7F)

def isBare (c : Char) : Bool := c.isAlphanum || c = '_' || c = '-'

def blanks : Reader Unit := modify (·.dropWhile isBlank)

def peek : Reader (Option Char) := do pure (← get).head?

def takeIf (lead : String) : Reader Bool := do
  let cs ← get
  if lead.toList.isPrefixOf cs then
    set (cs.drop lead.length)
    pure true
  else pure false

def expect (lead : String) : Reader Unit := do
  unless ← takeIf lead do refuse

/-- The text behind a line end, if there is one here. -/
def lineEnd? : List Char → Option (List Char)
  | '\n' :: rest => some rest
  | '\r' :: '\n' :: rest => some rest
  | _ => none

/-- Skips a comment, if one stands here. -/
def comment : Reader Unit := modify fun
  | '#' :: rest => rest.dropWhile isPlain
  | cs => cs

/-- The end of a statement: blanks and a comment, and then the end of the line or of the text. -/
def endOfLine : Reader Unit := do
  blanks
  comment
  match ← get with
  | [] => pure ()
  | cs =>
    match lineEnd? cs with
    | some rest => set rest
    | none => refuse

/-- Blanks, comments and line ends, with a comment only in front of a line end. -/
def skipLines : Nat → List Char → Option (List Char)
  | 0, _ => none
  | steps + 1, cs =>
    let cs := cs.dropWhile isBlank
    match cs with
    | '#' :: rest => (lineEnd? (rest.dropWhile isPlain)).bind (skipLines steps)
    | _ =>
      match lineEnd? cs with
      | some rest => skipLines steps rest
      | none => if cs.head? = some '\r' then none else some cs

def blankLines : Reader Unit := fun cs => (skipLines (cs.length + 1) cs).map fun rest => ((), rest)

/-! ## Strings -/

def hexValue? (c : Char) : Option Nat :=
  if '0' ≤ c ∧ c ≤ '9' then some (c.toNat - '0'.toNat)
  else if 'a' ≤ c ∧ c ≤ 'f' then some (c.toNat - 'a'.toNat + 10)
  else if 'A' ≤ c ∧ c ≤ 'F' then some (c.toNat - 'A'.toNat + 10)
  else none

/-- A character by the digits of its code. -/
def codeEscape (count : Nat) (cs : List Char) : Option (Char × List Char) := do
  let digits := cs.take count
  if digits.length ≠ count then none
  else
    let code ← digits.foldlM (fun n c => (hexValue? c).map (n * 16 + ·)) 0
    if code.isValidChar then some (Char.ofNat code, cs.drop count) else none

/-- What stands behind a backslash. -/
def escape : List Char → Option (Char × List Char)
  | 'b' :: rest => some (Char.ofNat 8, rest)
  | 't' :: rest => some ('\t', rest)
  | 'n' :: rest => some ('\n', rest)
  | 'f' :: rest => some (Char.ofNat 12, rest)
  | 'r' :: rest => some ('\r', rest)
  | '"' :: rest => some ('"', rest)
  | '\\' :: rest => some ('\\', rest)
  | 'u' :: rest => codeEscape 4 rest
  | 'U' :: rest => codeEscape 8 rest
  | _ => none

/-- A string of one line, through its closing quote. -/
def lineBody (quote : Char) (escapes : Bool) :
    Nat → List Char → List Char → Option (String × List Char)
  | 0, _, _ => none
  | _ + 1, _, [] => none
  | steps + 1, read, c :: rest =>
    if c = quote then some (String.ofList read.reverse, rest)
    else if escapes ∧ c = '\\' then do
      let (e, rest) ← escape rest
      lineBody quote escapes steps (e :: read) rest
    else if isPlain c then lineBody quote escapes steps (c :: read) rest
    else none

/-- Skips blanks and line ends. -/
def skipBlankLines : Nat → List Char → List Char
  | 0, cs => cs
  | steps + 1, cs =>
    let cs := cs.dropWhile isBlank
    match lineEnd? cs with
    | some rest => skipBlankLines steps rest
    | none => cs

/-- Behind a backslash: the line end that it takes away, with all blanks and line ends after it. -/
def foldedLine? (cs : List Char) : Option (List Char) :=
  (lineEnd? (cs.dropWhile isBlank)).map (skipBlankLines cs.length)

/-- A string of several lines, through its three closing quotes. Up to two more quotes in front of
these belong to the string. -/
def linesBody (quote : Char) (escapes : Bool) :
    Nat → List Char → List Char → Option (String × List Char)
  | 0, _, _ => none
  | _ + 1, _, [] => none
  | steps + 1, read, c :: rest =>
    if c = quote then
      let quotes := min 5 (1 + (rest.takeWhile (· = quote)).length)
      if quotes < 3 then
        linesBody quote escapes steps (List.replicate quotes quote ++ read)
          (rest.drop (quotes - 1))
      else
        let read := List.replicate (quotes - 3) quote ++ read
        some (String.ofList read.reverse, rest.drop (quotes - 1))
    else if escapes ∧ c = '\\' then
      match foldedLine? rest with
      | some rest => linesBody quote escapes steps read rest
      | none => do
        let (e, rest) ← escape rest
        linesBody quote escapes steps (e :: read) rest
    else
      match lineEnd? (c :: rest) with
      | some rest => linesBody quote escapes steps ('\n' :: read) rest
      | none => if isPlain c then linesBody quote escapes steps (c :: read) rest else none

/-- A line end right behind the opening quotes does not belong to the string. -/
def multiline (quote : Char) (escapes : Bool) : Reader String := reading fun cs =>
  let cs := (lineEnd? cs).getD cs
  linesBody quote escapes (cs.length + 1) [] cs

def oneLine (quote : Char) (escapes : Bool) : Reader String := reading fun cs =>
  lineBody quote escapes (cs.length + 1) [] cs

/-- A string, whose quotes decide whether it has escapes and several lines. -/
def string : Reader String := do
  if ← takeIf "\"\"\"" then multiline '"' true
  else if ← takeIf "\"" then oneLine '"' true
  else if ← takeIf "'''" then multiline '\'' false
  else if ← takeIf "'" then oneLine '\'' false
  else refuse

/-! ## Keys -/

def simpleKey : Reader String := do
  match ← peek with
  | some '"' => do
    expect "\""
    oneLine '"' true
  | some '\'' => do
    expect "'"
    oneLine '\'' false
  | _ => do
    let cs ← get
    let bare := cs.takeWhile isBare
    set (cs.drop bare.length)
    if bare.isEmpty then refuse else pure (String.ofList bare)

def keyParts : Nat → Reader (List String)
  | 0 => refuse
  | steps + 1 => do
    blanks
    let part ← simpleKey
    blanks
    if ← takeIf "." then pure (part :: (← keyParts steps)) else pure [part]

def greatestDepth : Nat := 79

/-- A key: the way to a table and the name in it. -/
def key : Reader (List String × String) := do
  let parts ← keyParts greatestDepth
  match parts.getLast? with
  | some last => pure (parts.dropLast, last)
  | none => refuse

/-! ## Numbers and times -/

def isHex (c : Char) : Bool := (hexValue? c).isSome

/-- Digits with single underscores between them. -/
def digitRun (isDigit : Char → Bool) : List Char → Option (List Char × List Char)
  | [] => none
  | c :: rest =>
    if !isDigit c then none
    else
      let (more, behind) := tail rest
      some (c :: more, behind)
where
  tail : List Char → List Char × List Char
    | '_' :: d :: rest =>
      if isDigit d then
        let (more, behind) := tail rest
        (d :: more, behind)
      else ([], '_' :: d :: rest)
    | c :: rest =>
      if isDigit c then
        let (more, behind) := tail rest
        (c :: more, behind)
      else ([], c :: rest)
    | [] => ([], [])

def digitValue (base : Nat) (digits : List Char) : Nat :=
  digits.foldl (fun n c => n * base + (hexValue? c).getD 0) 0

def sign : List Char → Bool × List Char
  | '-' :: rest => (true, rest)
  | '+' :: rest => (false, rest)
  | cs => (false, cs)

/-- Decimal digits, a zero only if it is the only one. -/
def wholeDigits (cs : List Char) : Option (List Char × List Char) :=
  match cs with
  | '0' :: rest => some (['0'], rest)
  | _ => digitRun Char.isDigit cs

/-- A whole number in a base that its first two characters tell. -/
def basedInteger? (lead : String) (base : Nat) (isDigit : Char → Bool) (cs : List Char) :
    Option (Toml × List Char) := do
  if !lead.toList.isPrefixOf cs then none
  else
    let (digits, rest) ← digitRun isDigit (cs.drop 2)
    if digitValue base digits < Nat.pow 2 63 then some (.integer, rest) else none

/-- A whole number that fits 64 bits. -/
def integer? (cs : List Char) : Option (Toml × List Char) :=
  let decimal : Option (Toml × List Char) := do
    let (negative, cs) := sign cs
    let (digits, rest) ← wholeDigits cs
    if digitValue 10 digits < Nat.pow 2 63 + (if negative then 1 else 0) then
      some (.integer, rest)
    else none
  if "0x".toList.isPrefixOf cs then basedInteger? "0x" 16 isHex cs
  else if "0o".toList.isPrefixOf cs then basedInteger? "0o" 8 (fun c => '0' ≤ c && c ≤ '7') cs
  else if "0b".toList.isPrefixOf cs then basedInteger? "0b" 2 (fun c => c = '0' || c = '1') cs
  else decimal

/-- Whether a decimal rounds to a floating-point number that is not infinite. -/
def isFinite (digits : Nat) (power : Int) : Bool :=
  let places := if digits = 0 then 0 else (Nat.toDigits 10 digits).length
  if digits = 0 ∨ (places : Int) + power ≤ 308 then true
  else if 310 < (places : Int) + power then false
  else
    let bound := Nat.pow 2 1024 - Nat.pow 2 970
    if 0 ≤ power then digits * Nat.pow 10 power.toNat < bound
    else digits < bound * Nat.pow 10 (-power).toNat

/-- The part of a number behind its exponent mark. -/
def exponent? : List Char → Option (Int × List Char)
  | c :: rest =>
    if c = 'e' ∨ c = 'E' then do
      let (negative, rest) := sign rest
      let (digits, rest) ← digitRun Char.isDigit rest
      let n := digitValue 10 digits
      some (if negative then -(n : Int) else n, rest)
    else none
  | [] => none

/-- A decimal with a fraction or an exponent. One too great is refused, unless it is negative. -/
def decimal? (cs : List Char) : Option (Toml × List Char) := do
  let (negative, cs) := sign cs
  let (whole, rest) ← wholeDigits cs
  let (fraction, power, rest) ← match rest with
    | '.' :: rest => do
      let (fraction, rest) ← digitRun Char.isDigit rest
      match exponent? rest with
      | some (power, rest) => some (fraction, power, rest)
      | none => some (fraction, 0, rest)
    | _ => do
      let (power, rest) ← exponent? rest
      some ([], power, rest)
  if negative ∨ isFinite (digitValue 10 (whole ++ fraction)) (power - fraction.length) then
    some (.float, rest)
  else none

/-- Infinity, or what is no number. -/
def specialFloat? (cs : List Char) : Option (Toml × List Char) :=
  let (_, rest) := sign cs
  if "inf".toList.isPrefixOf rest ∨ "nan".toList.isPrefixOf rest then some (.float, rest.drop 3)
  else none

/-- A fixed number of digits, whose value must lie between two bounds. -/
def fixedDigits? (count least most : Nat) (cs : List Char) : Option (List Char × List Char) :=
  let digits := cs.take count
  let n := digitValue 10 digits
  if digits.length = count ∧ digits.all Char.isDigit ∧ least ≤ n ∧ n ≤ most then
    some (digits, cs.drop count)
  else none

def mark? (c : Char) (cs : List Char) : Option (List Char) :=
  if cs.head? = some c then some cs.tail else none

def daysOf (year month : Nat) : Nat :=
  if month = 2 then
    if year % 4 = 0 ∧ (year % 100 ≠ 0 ∨ year % 400 = 0) then 29 else 28
  else if [4, 6, 9, 11].contains month then 30
  else 31

def date? (cs : List Char) : Option (List Char × List Char) := do
  let (year, cs) ← fixedDigits? 4 0 9999 cs
  let (month, cs) ← fixedDigits? 2 1 12 (← mark? '-' cs)
  let (day, cs) ← fixedDigits? 2 1 (daysOf (digitValue 10 year) (digitValue 10 month))
    (← mark? '-' cs)
  some (year ++ ['-'] ++ month ++ ['-'] ++ day, cs)

/-- A fraction of a second, of which nine places are kept, without zeros at the end. -/
def fraction (digits : List Char) : List Char :=
  match ((digits.take 9).reverse.dropWhile (· = '0')).reverse with
  | [] => []
  | ds => '.' :: ds

def time? (cs : List Char) : Option (List Char × List Char) := do
  let (hour, cs) ← fixedDigits? 2 0 23 cs
  let (minute, cs) ← fixedDigits? 2 0 59 (← mark? ':' cs)
  let (second, cs) ← fixedDigits? 2 0 60 (← mark? ':' cs)
  let time := hour ++ [':'] ++ minute ++ [':'] ++ second
  match cs with
  | '.' :: rest =>
    let digits := rest.takeWhile Char.isDigit
    if digits.isEmpty then some (time, cs) else some (time ++ fraction digits, rest.drop digits.length)
  | _ => some (time, cs)

/-- An offset from universal time. There is no negative zero. -/
def offset? : List Char → Option (List Char × List Char)
  | c :: cs =>
    if c = 'Z' ∨ c = 'z' then some (['Z'], cs)
    else if c = '+' ∨ c = '-' then do
      let (hour, cs) ← fixedDigits? 2 0 23 cs
      let (minute, cs) ← fixedDigits? 2 0 59 (← mark? ':' cs)
      let sign := if digitValue 10 (hour ++ minute) = 0 then '+' else c
      some (sign :: hour ++ [':'] ++ minute, cs)
    else none
  | [] => none

/-- A date, a time, or both, which then may have an offset. -/
def datetime? (cs : List Char) : Option (Toml × List Char) :=
  let moment (text rest : List Char) : Toml × List Char := (.datetime (String.ofList text), rest)
  match date? cs with
  | none => (time? cs).map fun (time, rest) => moment time rest
  | some (date, rest) =>
    let onlyDate := some (moment date rest)
    match rest with
    | c :: behind =>
      if c = 'T' ∨ c = 't' ∨ c = ' ' then
        match time? behind with
        | none => onlyDate
        | some (time, behind) =>
          match offset? behind with
          | some (offset, behind) => some (moment (date ++ ['T'] ++ time ++ offset) behind)
          | none => some (moment (date ++ ['T'] ++ time) behind)
      else onlyDate
    | [] => onlyDate

def number : Reader Toml := reading fun cs =>
  datetime? cs <|> decimal? cs <|> specialFloat? cs <|> integer? cs

/-! ## Values and statements -/

/-- Items with commas between them and line ends around them; a comma may end them. -/
def elements {α : Type} (item : Reader α) : Nat → Reader (List α)
  | 0 => refuse
  | steps + 1 => do
    blankLines
    if (← peek) = some ']' then pure []
    else
      let first ← item
      blankLines
      if ← takeIf "," then pure (first :: (← elements item steps)) else pure [first]

/-- Keys with values and commas between them, all of it on one line. -/
def inlineEntries (value : Reader Toml) : Nat → Item → Reader Item
  | 0, _ => refuse
  | steps + 1, table => do
    let (path, name) ← key
    expect "="
    blanks
    let v ← value
    blanks
    match table.addValue path name v with
    | none => refuse
    | some table => if ← takeIf "," then inlineEntries value steps table else pure table

/-- A value that holds no other values. -/
def scalar : Reader Toml := do
  match ← peek with
  | some '"' | some '\'' => .string <$> string
  | some 't' => do
    expect "true"
    pure (.boolean true)
  | some 'f' => do
    expect "false"
    pure (.boolean false)
  | _ => number

/-- A value in which arrays and inline tables nest up to a depth. -/
def value : Nat → Reader Toml
  | 0 => scalar
  | depth + 1 => do
    if ← takeIf "[" then
      let items ← elements (value depth) ((← get).length + 1)
      expect "]"
      pure (.array items)
    else if ← takeIf "\x7b" then
      blanks
      let table ←
        if (← peek) = some '\x7d' then pure .emptyTable
        else inlineEntries (value depth) ((← get).length + 1) .emptyTable
      expect "\x7d"
      pure table.toToml
    else scalar

/-- The way to the table that statements are read into. -/
abbrev Place := List String

/-- Reads a header and opens its table. -/
def header (root : Item) : Reader (Place × Item) := do
  let element ← takeIf "[["
  unless element do expect "["
  let (path, name) ← key
  expect (if element then "]]" else "]")
  endOfLine
  match (if element then Item.openElement else Item.openTable) path name root with
  | none => refuse
  | some root => pure (path ++ [name], root)

def keyValue (place : Place) (root : Item) : Reader Item := do
  let (path, name) ← key
  expect "="
  blanks
  let v ← value greatestDepth
  endOfLine
  match root.modifyAt false place (Item.addValue path name v) with
  | none => refuse
  | some root => pure root

/-- The statements of a document, one on each line. -/
def statements : Nat → Place → Item → Reader Item
  | 0, _, _ => refuse
  | steps + 1, place, root => do
    blanks
    match ← get with
    | [] => pure root
    | '[' :: _ => do
      let (place, root) ← header root
      statements steps place root
    | c :: _ =>
      if c = '#' ∨ c = '\n' ∨ c = '\r' then do
        endOfLine
        statements steps place root
      else do
        let root ← keyValue place root
        statements steps place root

end ApiSurface.TomlReader

namespace ApiSurface.Toml

open TomlReader in
/-- The document of a text, which may begin with a byte order mark. -/
def parse? (text : String) : Option Toml := do
  let cs := text.toList
  let cs := if cs.head? = some (Char.ofNat 0xFEFF) then cs.tail else cs
  let (root, _) ← (statements (cs.length + 1) [] .emptyTable).run cs
  some root.toToml

end ApiSurface.Toml
