import ApiSurface.CaseFold
import ApiSurface.Pattern

/-!
# Reading patterns

The grammar of patterns: alternatives, groups, repetitions, classes with ranges and set
operations, escapes, and flags that change how what follows is read. There is no look-around and
no reference to a group. Whatever does not follow the grammar is refused.
-/

namespace ApiSurface.PatternReader

structure Flags where
  caseless : Bool
  multiline : Bool
  dotAll : Bool
  unicode : Bool
  anyLineEnd : Bool
  extended : Bool
  deriving Repr

def Flags.initial : Flags := ⟨false, false, false, true, false, false⟩

structure State where
  rest : List Char
  flags : Flags
  groupNames : List String

abbrev Reader := StateT State Option

/-- A part of a pattern, with the depth to which its parts nest. A repetition repeats the part
before it, unless that is nothing but flags. -/
structure Part where
  pattern : Pattern
  depth : Nat
  repeatable : Bool
  deriving Inhabited

def depthLimit : Nat := 250

def refuse {α : Type} : Reader α := fun _ => none

def peek : Reader (Option Char) := do pure (← get).rest.head?

def advance : Reader Unit := modify fun s => { s with rest := s.rest.tail }

def flags : Reader Flags := do pure (← get).flags

/-- The fuel for a loop that takes a character in every round. -/
def fuel : Reader Nat := do pure ((← get).rest.length + 1)

/-! ## Blanks -/

def isSpace (c : Char) : Bool := CharProperty.whiteSpace.mem c

/-- Blanks, and comments from a number sign to the end of the line. -/
def skipBlanks : List Char → List Char
  | [] => []
  | c :: rest =>
    if isSpace c then skipBlanks rest
    else if c = '#' then skipComment rest
    else c :: rest
where
  skipComment : List Char → List Char
    | [] => []
    | c :: rest => if c = '\n' then skipBlanks rest else skipComment rest

/-- Skips blanks and comments where the flags allow them. -/
def blanks : Reader Unit := modify fun s =>
  if s.flags.extended then { s with rest := skipBlanks s.rest } else s

/-- Takes a character and the blanks behind it; refuses the end of the pattern there. -/
def advanceInside : Reader Char := do
  advance
  blanks
  match ← peek with
  | none => refuse
  | some c => pure c

def takeIf (lead : String) : Reader Bool := do
  let s ← get
  if lead.toList.isPrefixOf s.rest then
    set { s with rest := s.rest.drop lead.length }
    pure true
  else pure false

/-- Takes an expected character. -/
def expect (wanted : Char) : Reader Unit := do
  if (← peek) = some wanted then advance else refuse

/-- Takes characters as long as they satisfy a condition, with the blanks behind each. -/
def takeAll (condition : Char → Bool) : Nat → Reader (List Char)
  | 0 => pure []
  | n + 1 => do
    match ← peek with
    | none => pure []
    | some c =>
      if condition c then do
        advance
        blanks
        pure (c :: (← takeAll condition n))
      else pure []

/-! ## Sets of characters -/

def codeLimit (unicode : Bool) : CharSet :=
  .range 0 (if unicode then CharSet.maxCode else 0xFF)

def negate (flags : Flags) (set : CharSet) : CharSet :=
  set.complement.inter (codeLimit flags.unicode)

def fold (flags : Flags) (set : CharSet) : CharSet :=
  if !flags.caseless then set
  else if flags.unicode then CaseFold.close set
  else CaseFold.closeAscii set

def foldNegate (flags : Flags) (negated : Bool) (set : CharSet) : CharSet :=
  if negated then negate flags (fold flags set) else fold flags set

/-- Without Unicode a set must not hold parts of longer characters. -/
def checkSet (flags : Flags) (set : CharSet) : Reader CharSet :=
  if flags.unicode || set.ranges.all fun r => r.2 < 0x80 then pure set else refuse

def wordSet (flags : Flags) : CharSet :=
  if flags.unicode then CharProperty.word else CharProperty.asciiWord

/-- The set of a class with a name of one letter: digits, blanks and characters of words. -/
def letterSet (flags : Flags) (letter : Char) : CharSet :=
  let set : CharSet := match letter.toLower with
    | 'd' => if flags.unicode then GeneralCategory.decimalNumber else CharProperty.asciiDigit
    | 's' => if flags.unicode then CharProperty.whiteSpace else CharProperty.asciiSpace
    | _ => wordSet flags
  if letter.isUpper then negate flags set else set

def asciiClass? (name : String) : Option CharSet :=
  match name with
  | "alnum" => some (.ofTexts ["30-39 41-5A 61-7A"])
  | "alpha" => some (.ofTexts ["41-5A 61-7A"])
  | "ascii" => some (.ofTexts ["0-7F"])
  | "blank" => some (.ofTexts ["9 20"])
  | "cntrl" => some (.ofTexts ["0-1F 7F"])
  | "digit" => some (.ofTexts ["30-39"])
  | "graph" => some (.ofTexts ["21-7E"])
  | "lower" => some (.ofTexts ["61-7A"])
  | "print" => some (.ofTexts ["20-7E"])
  | "punct" => some (.ofTexts ["21-2F 3A-40 5B-60 7B-7E"])
  | "space" => some (.ofTexts ["9-D 20"])
  | "upper" => some (.ofTexts ["41-5A"])
  | "word" => some (.ofTexts ["30-39 41-5A 5F 61-7A"])
  | "xdigit" => some (.ofTexts ["30-39 41-46 61-66"])
  | _ => none

/-! ## Escapes -/

inductive Escape where
  | literal (c : Char)
  | set (set : CharSet)
  | at (place : Assertion)

def isMeta (c : Char) : Bool := "\\.+*?()|[]\x7b\x7d^$#&-~".toList.contains c

def isEscapable (c : Char) : Bool :=
  isMeta c || (c.toNat < 0x80 && !c.isAlphanum && c != '<' && c != '>')

def hexValue? (c : Char) : Option Nat :=
  if '0' ≤ c ∧ c ≤ '9' then some (c.toNat - '0'.toNat)
  else if 'a' ≤ c ∧ c ≤ 'f' then some (c.toNat - 'a'.toNat + 10)
  else if 'A' ≤ c ∧ c ≤ 'F' then some (c.toNat - 'A'.toNat + 10)
  else none

def hexNumber (digits : List Char) : Nat :=
  digits.foldl (fun n c => n * 16 + (hexValue? c).getD 0) 0

def charOfCode (n : Nat) : Reader Char :=
  if n.isValidChar then pure (Char.ofNat n) else refuse

def hexDigits : Nat → Reader (List Char)
  | 0 => pure []
  | n + 1 => do
    match ← peek with
    | none => refuse
    | some c =>
      if (hexValue? c).isSome then do
        advance
        blanks
        pure (c :: (← hexDigits n))
      else refuse

/-- A character by its code: a fixed number of digits, or any number of them in braces. -/
def hexEscape (digits : Nat) : Reader Char := do
  if (← advanceInside) = '\x7b' then
    advance
    blanks
    let ds ← takeAll (fun c => (hexValue? c).isSome) (← fuel)
    expect '\x7d'
    blanks
    if ds.isEmpty then refuse else charOfCode (hexNumber ds)
  else
    let n := hexNumber (← hexDigits digits)
    if !(← flags).unicode && digits = 2 && 0x80 ≤ n then refuse else charOfCode n

/-- The text before and behind the first unequal sign. -/
def splitUnequal : List Char → Option (List Char × List Char)
  | [] => none
  | '!' :: '=' :: value => some ([], value)
  | c :: rest => (splitUnequal rest).map fun (name, value) => (c :: name, value)

/-- The set that a text in braces names, and whether its complement is meant. A value is split
from its property by the first unequal sign, else the first colon, else the first equal sign. -/
def propertySet? (text : List Char) : Option (Bool × CharSet) :=
  let valueSet (name value : List Char) : Option CharSet :=
    CharProperty.valueSet? (String.ofList name) (String.ofList value)
  let at? (mark : Char) : Option (Bool × CharSet) :=
    (valueSet (text.takeWhile (· != mark)) (text.dropWhile (· != mark)).tail).map (false, ·)
  match splitUnequal text with
  | some (name, value) => (valueSet name value).map (true, ·)
  | none =>
    if text.contains ':' then at? ':'
    else if text.contains '=' then at? '='
    else (CharProperty.set? (String.ofList text)).map (false, ·)

def propertyEscape (negated : Bool) : Reader CharSet := do
  let c ← advanceInside
  let name ←
    if c = '\x7b' then do
      advance
      blanks
      let name ← takeAll (· != '\x7d') (← fuel)
      expect '\x7d'
      pure name
    else if c = '\\' then refuse
    else do
      advance
      blanks
      pure [c]
  let flags ← flags
  match propertySet? name with
  | some (complement, named) =>
    if flags.unicode then pure (foldNegate flags (negated != complement) named) else refuse
  | none => refuse

/-- What may stand in braces behind a word boundary; anything that is not a name is left to be
read as a repetition. -/
def boundaryKind (word : CharSet) : Reader Assertion := do
  let before ← get
  let isNameChar (c : Char) : Bool := c.isAlpha || c == '-'
  if (← peek) = some '\x7b' then
    if isNameChar (← advanceInside) then
      let name ← takeAll isNameChar (← fuel)
      expect '\x7d'
      match String.ofList name with
      | "start" => pure (.wordStart word)
      | "end" => pure (.wordEnd word)
      | "start-half" => pure (.wordStartHalf word)
      | "end-half" => pure (.wordEndHalf word)
      | _ => refuse
    else
      set before
      pure (.wordBoundary word)
  else pure (.wordBoundary word)

/-- What stands behind a backslash that has been taken. -/
def escape : Reader Escape := do
  let flags ← flags
  match ← peek with
  | none => refuse
  | some c =>
    if c = 'x' then do pure (.literal (← hexEscape 2))
    else if c = 'u' then do pure (.literal (← hexEscape 4))
    else if c = 'U' then do pure (.literal (← hexEscape 8))
    else if c = 'p' ∨ c = 'P' then do pure (.set (← propertyEscape (c = 'P')))
    else do
      advance
      if "dswDSW".toList.contains c then pure (.set (letterSet flags c))
      else if isEscapable c then pure (.literal c)
      else match c with
        | 'a' => pure (.literal (Char.ofNat 7))
        | 'f' => pure (.literal (Char.ofNat 12))
        | 't' => pure (.literal '\t')
        | 'n' => pure (.literal '\n')
        | 'r' => pure (.literal '\r')
        | 'v' => pure (.literal (Char.ofNat 11))
        | 'A' => pure (.at .textStart)
        | 'z' => pure (.at .textEnd)
        | 'b' => do pure (.at (← boundaryKind (wordSet flags)))
        | 'B' => pure (.at (.noWordBoundary (wordSet flags)))
        | '<' => pure (.at (.wordStart (wordSet flags)))
        | '>' => pure (.at (.wordEnd (wordSet flags)))
        | _ => refuse

/-! ## Classes -/

inductive SetOperation where
  | inter
  | diff
  | symmDiff

def SetOperation.apply : SetOperation → CharSet → CharSet → CharSet
  | .inter, a, b => a.inter b
  | .diff, a, b => a.diff b
  | .symmDiff, a, b => a.symmDiff b

/-- An open class: what stands on the left of the last operation, the items since, their number,
and how deep they nest. -/
structure ClassState where
  negated : Bool
  left : Option (SetOperation × CharSet)
  items : CharSet
  count : Nat
  depth : Nat

namespace ClassState

def push (s : ClassState) (set : CharSet) (depth : Nat) : ClassState :=
  { s with items := s.items.union set, count := s.count + 1, depth := max s.depth depth }

def combined (flags : Flags) (s : ClassState) : CharSet :=
  match s.left with
  | none => s.items
  | some (operation, left) => operation.apply (fold flags left) (fold flags s.items)

def unionDepth (s : ClassState) : Nat := if 1 < s.count then s.depth + 1 else s.depth

/-- The items so far become the left side of another operation. -/
def operate (flags : Flags) (operation : SetOperation) (s : ClassState) : ClassState :=
  { s with
    left := some (operation, combined flags s), items := .empty, count := 0,
    depth := s.unionDepth + 1 }

end ClassState

/-- A class with a name between colons, if one stands here. -/
def asciiClass : Reader (Option (Bool × CharSet)) := do
  let before ← get
  let (negated, lead) ←
    if ← takeIf "[:^" then pure (true, true)
    else if ← takeIf "[:" then pure (false, true)
    else pure (false, false)
  let name := (← get).rest.takeWhile (· != ':')
  modify fun s => { s with rest := s.rest.drop name.length }
  let closed ← takeIf ":]"
  match asciiClass? (String.ofList name), lead && closed with
  | some named, true => pure (some (negated, named))
  | _, _ => do
    set before
    pure none

def classItem : Reader Escape := do
  match ← peek with
  | none => refuse
  | some '\\' => do
    advance
    escape
  | some c => do
    advance
    pure (.literal c)

def checkLiteral (flags : Flags) (c : Char) : Reader Char :=
  if flags.unicode || c.toNat < 0x80 then pure c else refuse

/-- A character, a range of characters, or a set by an escape. -/
def classRange : Reader CharSet := do
  let flags ← flags
  let first ← classItem
  blanks
  let rest := (← get).rest
  let next := if flags.extended then skipBlanks rest.tail else rest.tail
  if rest.isEmpty then refuse
  else if rest.head? ≠ some '-' ∨ next.head? = some ']' ∨ next.head? = some '-' then
    match first with
    | .literal c => do pure (.single (← checkLiteral flags c))
    | .set set => pure set
    | .at _ => refuse
  else
    let _ ← advanceInside
    match first, ← classItem with
    | .literal a, .literal b => do
      let a ← checkLiteral flags a
      let b ← checkLiteral flags b
      if a ≤ b then pure (.range a.toNat b.toNat) else refuse
    | _, _ => refuse

/-- Dashes at the front of a class are characters of it. -/
def leadingDashes : Nat → ClassState → Reader ClassState
  | 0, s => pure s
  | n + 1, s => do
    if (← peek) = some '-' then
      let _ ← advanceInside
      leadingDashes n (s.push (.single '-') 0)
    else pure s

/-- The front of a class, through a bracket that stands first and is a character of it. -/
def openClass : Reader ClassState := do
  let c ← advanceInside
  let negated := c == '^'
  if negated then
    let _ ← advanceInside
  let s ← leadingDashes (← fuel) ⟨negated, none, .empty, 0, 0⟩
  if s.count = 0 ∧ (← peek) = some ']' then
    let _ ← advanceInside
    pure (s.push (.single ']') 0)
  else pure s

/-- The class whose items are being read, through its closing bracket. The classes around it are
kept in a list, the innermost first. -/
def classItems : Nat → ClassState → List ClassState → Reader (CharSet × Nat)
  | 0, _, _ => refuse
  | n + 1, s, outer => do
    blanks
    let flags ← flags
    match ← peek with
    | none => refuse
    | some '[' => do
      match ← asciiClass with
      | some (negated, set) => classItems n (s.push (foldNegate flags negated set) 0) outer
      | none => do
        let inner ← openClass
        classItems n inner (s :: outer)
    | some ']' => do
      advance
      let set := foldNegate flags s.negated (s.combined flags)
      match outer with
      | [] => pure (set, s.unionDepth + 1)
      | o :: outer => classItems n (o.push set (s.unionDepth + 1)) outer
    | some _ => do
      if ← takeIf "&&" then classItems n (s.operate flags .inter) outer
      else if ← takeIf "--" then classItems n (s.operate flags .diff) outer
      else if ← takeIf "~~" then classItems n (s.operate flags .symmDiff) outer
      else do
        let set ← classRange
        classItems n (s.push set 0) outer

def charClass : Reader Part := do
  let n ← fuel
  let s ← openClass
  let (set, depth) ← classItems n s []
  pure ⟨.char (← checkSet (← flags) set), depth, true⟩

/-! ## Repetitions -/

def greatestCount : Nat := Nat.pow 2 32 - 1

/-- A count between blanks, if there is one. -/
def count : Reader (Option Nat) := do
  let skipSpaces : Reader Unit := modify fun s => { s with rest := s.rest.dropWhile isSpace }
  skipSpaces
  let digits ← takeAll Char.isDigit (← fuel)
  let n := hexlessNumber digits
  skipSpaces
  blanks
  if digits.isEmpty then pure none
  else if n ≤ greatestCount then pure (some n)
  else refuse
where
  hexlessNumber (digits : List Char) : Nat :=
    digits.foldl (fun n c => n * 10 + (c.toNat - '0'.toNat)) 0

/-- The least and the greatest number of a repetition in braces. -/
def counts : Reader (Nat × Option Nat) := do
  let _ ← advanceInside
  let least ← count
  match ← peek with
  | none => refuse
  | some ',' => do
    let c ← advanceInside
    match least with
    | none => refuse
    | some least =>
      if c = '\x7d' then pure (least, none)
      else match ← count with
        | none => refuse
        | some most => if least ≤ most then pure (least, some most) else refuse
  | some _ =>
    match least with
    | none => refuse
    | some n => pure (n, some n)

/-- Repeats the last part of a sequence, which is kept in reverse. -/
def repeatLast (least : Nat) (most : Option Nat) : List Part → Reader (List Part)
  | part :: parts =>
    if part.repeatable then
      pure (⟨.repetition least most part.pattern, part.depth + 1, true⟩ :: parts)
    else refuse
  | [] => refuse

/-- A question mark behind a repetition only says which match is preferred. -/
def skipLazy : Reader Unit := do
  if (← peek) = some '?' then advance

/-! ## Groups and sequences -/

def isNameChar (first : Bool) (c : Char) : Bool :=
  c = '_' || (if first then CharProperty.alphabetic.mem c
    else c = '.' || c = '[' || c = ']' || CharProperty.alphanumeric.mem c)

/-- The name of a group, through the bracket behind it. No name may come twice. -/
def groupName : Reader Unit := do
  let rest := (← get).rest
  let name := rest.takeWhile (· != '>')
  let text := String.ofList name
  let valid := match name with
    | [] => false
    | c :: cs => isNameChar true c && cs.all (isNameChar false)
  if valid && name.length < rest.length && !(← get).groupNames.contains text then
    modify fun s => { s with
      rest := rest.drop (name.length + 1), groupNames := text :: s.groupNames }
  else refuse

def setFlag (flag : Char) (value : Bool) (flags : Flags) : Option Flags :=
  match flag with
  | 'i' => some { flags with caseless := value }
  | 'm' => some { flags with multiline := value }
  | 's' => some { flags with dotAll := value }
  | 'u' => some { flags with unicode := value }
  | 'R' => some { flags with anyLineEnd := value }
  | 'x' => some { flags with extended := value }
  | 'U' => some flags
  | _ => none

/-- Flags up to a colon or a closing parenthesis; a dash switches those behind it off. No flag
may come twice, and something must follow the dash. -/
def readFlags : Nat → List Char → Flags → Reader (List Char × Flags)
  | 0, _, _ => refuse
  | n + 1, seen, flags => do
    match ← peek with
    | none => refuse
    | some c =>
      if c = ':' ∨ c = ')' then
        if seen.head? = some '-' then refuse else pure (seen, flags)
      else if seen.contains c then refuse
      else do
        advance
        if c = '-' then readFlags n (c :: seen) flags
        else match setFlag c (!seen.contains '-') flags with
          | none => refuse
          | some flags => readFlags n (c :: seen) flags

def lineAssertion (flags : Flags) (start : Bool) : Assertion :=
  match flags.multiline, flags.anyLineEnd, start with
  | false, _, true => .textStart
  | false, _, false => .textEnd
  | true, false, true => .lineStart
  | true, false, false => .lineEnd
  | true, true, true => .lineStartAny
  | true, true, false => .lineEndAny

/-- Any character, apart from the ends of lines unless the flags include them. -/
def dot (flags : Flags) : CharSet :=
  if flags.dotAll then CharProperty.any
  else if flags.anyLineEnd then (CharSet.union (.single '\n') (.single '\r')).complement
  else (CharSet.single '\n').complement

def literal (flags : Flags) (c : Char) : Part := ⟨.char (fold flags (.single c)), 0, true⟩

/-- A part of one character or one escape. -/
def primitive (c : Char) : Reader Part := do
  let flags ← flags
  advance
  if c = '\\' then
    match ← escape with
    | .literal c => pure (literal flags c)
    | .set set => do pure ⟨.char (← checkSet flags set), 0, true⟩
    | .at place => pure ⟨.at place, 0, true⟩
  else if c = '.' then
    if flags.unicode then pure ⟨.char (dot flags), 0, true⟩ else refuse
  else if c = '^' then pure ⟨.at (lineAssertion flags true), 0, true⟩
  else if c = '$' then pure ⟨.at (lineAssertion flags false), 0, true⟩
  else pure (literal flags c)

/-- The parts of a sequence, which are kept in reverse, as one. -/
def joinParts (reversed : List Part) : Part :=
  match reversed with
  | [] => ⟨.empty, 0, false⟩
  | [part] => part
  | last :: before =>
    let pattern := before.foldl (fun p part => .sequence part.pattern p) last.pattern
    ⟨pattern, (reversed.map (·.depth)).foldl max 0 + 1, true⟩

def joinChoices (reversed : List Part) : Part :=
  match reversed with
  | [] => ⟨.empty, 0, false⟩
  | [part] => part
  | last :: before =>
    let pattern := before.foldl (fun p part => .choice part.pattern p) last.pattern
    ⟨pattern, (reversed.map (·.depth)).foldl max 0 + 1, true⟩

/-- What a parenthesis opens: a group, whose flags have been set, or flags alone. -/
inductive Opening where
  | group
  | flagsOnly

def openGroup : Reader Opening := do
  advance
  blanks
  let rest := (← get).rest
  if ["?=", "?!", "?<=", "?<!"].any fun lead => lead.toList.isPrefixOf rest then refuse
  else if ← takeIf "?P<" then do
    groupName
    pure .group
  else if ← takeIf "?<" then do
    groupName
    pure .group
  else if ← takeIf "?" then do
    let (seen, flags) ← readFlags (← fuel) [] (← flags)
    modify fun s => { s with flags }
    if (← peek) = some ')' then
      if seen.isEmpty then refuse
      else do
        advance
        pure .flagsOnly
    else do
      advance
      pure .group
  else pure .group

/-- Sequences and alternatives up to a closing parenthesis or the end. Of the list of enclosing
groups every member keeps its parts, its alternatives and its flags. -/
def body : Nat → List Part → List Part → List (List Part × List Part × Flags) → Reader Part
  | 0, _, _, _ => refuse
  | n + 1, parts, choices, outer => do
    blanks
    match ← peek with
    | none =>
      match outer with
      | [] => pure (joinChoices (joinParts parts :: choices))
      | _ :: _ => refuse
    | some '(' => do
      let before ← flags
      match ← openGroup with
      | .flagsOnly => body n (⟨.empty, 0, false⟩ :: parts) choices outer
      | .group => body n [] [] ((parts, choices, before) :: outer)
    | some ')' =>
      match outer with
      | [] => refuse
      | (before, beforeChoices, flags) :: outer => do
        advance
        modify fun s => { s with flags }
        let group := joinChoices (joinParts parts :: choices)
        body n (⟨group.pattern, group.depth + 1, true⟩ :: before) beforeChoices outer
    | some '|' => do
      advance
      body n [] (joinParts parts :: choices) outer
    | some '[' => do
      let part ← charClass
      body n (part :: parts) choices outer
    | some '?' => do
      let parts ← repeatLast 0 (some 1) parts
      advance
      skipLazy
      body n parts choices outer
    | some '*' => do
      let parts ← repeatLast 0 none parts
      advance
      skipLazy
      body n parts choices outer
    | some '+' => do
      let parts ← repeatLast 1 none parts
      advance
      skipLazy
      body n parts choices outer
    | some '\x7b' => do
      let (least, most) ← counts
      let parts ← repeatLast least most parts
      expect '\x7d'
      blanks
      skipLazy
      body n parts choices outer
    | some c => do
      let part ← primitive c
      body n (part :: parts) choices outer

end ApiSurface.PatternReader

namespace ApiSurface.Pattern

open PatternReader in
/-- The pattern of a text, unless it is malformed, nests too deep or grows too large. -/
def parse? (text : String) : Option Pattern := do
  let start : State := ⟨text.toList, .initial, []⟩
  let (part, _) ← (body (text.length + 1) [] [] []).run start
  if part.depth ≤ depthLimit ∧ part.pattern.size ≤ greatestSize then some part.pattern else none

end ApiSurface.Pattern
