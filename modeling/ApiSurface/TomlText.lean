/-!
# Writing TOML

Strings, keys and arrays as a TOML document shows them. A string is written in the first form that
shows it without escapes: in double quotes, in single quotes, or in three of either. If there is
none, double quotes and escapes are used.
-/

namespace ApiSurface.TomlText

/-- The greatest number of a character in a row. -/
def longestRun (c : Char) : Nat → List Char → Nat
  | run, [] => run
  | run, d :: rest => if d = c then longestRun c (run + 1) rest else max run (longestRun c 0 rest)

def isControl (c : Char) : Bool := c.toNat < 0x20 || c.toNat = 0x7F

/-- Controls that only escapes can show in any form of string. -/
def needsEscape (c : Char) : Bool := isControl c && c ≠ '\t' && c ≠ '\n'

def hexCode (c : Char) : List Char :=
  let digits := (Nat.toDigits 16 c.toNat).map Char.toUpper
  List.replicate (4 - digits.length) '0' ++ digits

def escape (multiline : Bool) (c : Char) : List Char :=
  if c = '\\' then ['\\', '\\']
  else if c = '\t' then ['\\', 't']
  else if c = '\n' then if multiline then ['\n'] else ['\\', 'n']
  else if c = '\r' then ['\\', 'r']
  else if c.toNat = 8 then ['\\', 'b']
  else if c.toNat = 12 then ['\\', 'f']
  else if isControl c then ['\\', 'u'] ++ hexCode c
  else [c]

/-- The inside of double quotes. In a string of several lines two quotes in a row need no escape;
the count of them starts again behind an escape. -/
def escapeAll (multiline : Bool) : Nat → List Char → List Char
  | _, [] => []
  | run, c :: rest =>
    if c = '"' then
      if run < (if multiline then 2 else 0) then c :: escapeAll multiline (run + 1) rest
      else '\\' :: c :: escapeAll multiline 0 rest
    else escape multiline c ++ escapeAll multiline 0 rest

def basic (cs : List Char) : List Char := ['"'] ++ escapeAll false 0 cs ++ ['"']

def literal (cs : List Char) : List Char := ['\''] ++ cs ++ ['\'']

/-- Several lines begin on a line of their own. -/
def multiline (quote : Char) (cs shown : List Char) : List Char :=
  let quotes := List.replicate 3 quote
  quotes ++ (if cs.contains '\n' then ['\n'] else []) ++ shown ++ quotes

def multilineBasic (cs : List Char) : List Char := multiline '"' cs (escapeAll true 0 cs)

def multilineLiteral (cs : List Char) : List Char := multiline '\'' cs cs

def string (text : String) : String :=
  let cs := text.toList
  let controls := cs.any needsEscape
  let plain := !controls && !cs.contains '\\'
  let lines := cs.contains '\n'
  let singles := longestRun '\'' 0 cs
  let doubles := longestRun '"' 0 cs
  String.ofList <|
    if plain && doubles = 0 && !lines then basic cs
    else if !controls && singles = 0 && !lines then literal cs
    else if plain && doubles ≤ 2 then multilineBasic cs
    else if !controls && singles ≤ 2 then multilineLiteral cs
    else if lines then multilineBasic cs
    else basic cs

def isBare (c : Char) : Bool := c.isAlphanum || c = '_' || c = '-'

/-- A key is shown without quotes if it can be. -/
def key (text : String) : String :=
  let cs := text.toList
  let controls := cs.any fun c => isControl c && c ≠ '\t'
  String.ofList <|
    if !cs.isEmpty && cs.all isBare then cs
    else if !controls && !cs.contains '\\' && !cs.contains '"' then basic cs
    else if !controls && !cs.contains '\'' then literal cs
    else basic cs

/-- An array, with each element on a line of its own if there are several. -/
def strings (texts : List String) : String :=
  match texts with
  | [] => "[]"
  | [text] => "[" ++ string text ++ "]"
  | _ => "[" ++ String.join (texts.map fun text => "\n    " ++ string text ++ ",") ++ "\n]"

def statement (name value : String) : String := key name ++ " = " ++ value ++ "\n"

/-- A table with its header, without a blank line in front of it. -/
def table (header : String) (statements : List String) : String :=
  header ++ "\n" ++ String.join statements

end ApiSurface.TomlText
