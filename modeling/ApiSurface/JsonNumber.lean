import ApiSurface.Binary64
import ApiSurface.Json

/-!
# Numbers of JSON texts

A number is an integer if it is written without a fraction and an exponent and fits 64 bits.
Otherwise it is a floating-point number, of which as many digits count as fit 64 bits.
-/

namespace ApiSurface.Json.Number

def digitValue (c : Char) : Nat := c.toNat - '0'.toNat

def natural (digits : List Char) : Nat := digits.foldl (fun n c => n * 10 + digitValue c) 0

def greatestWord : Nat := Nat.pow 2 64 - 1

/-- Takes the leading digits that fit a word; the rest is returned. -/
def leading : Nat → List Char → Nat × List Char
  | n, [] => (n, [])
  | n, c :: cs =>
    let m := n * 10 + digitValue c
    if m ≤ greatestWord then leading m cs else (n, c :: cs)

/-- Sign, digits of the integer, digits of the fraction, and exponent. -/
def parts (lexeme : String) : Bool × List Char × List Char × Int :=
  let (negative, cs) := match lexeme.toList with
    | '-' :: rest => (true, rest)
    | cs => (false, cs)
  let (whole, cs) := cs.span Char.isDigit
  let (fraction, cs) := match cs with
    | '.' :: rest => rest.span Char.isDigit
    | _ => ([], cs)
  let exponent : Int := match cs with
    | _ :: '-' :: ds => -(natural ds : Int)
    | _ :: '+' :: ds => natural ds
    | _ :: ds => natural ds
    | [] => 0
  (negative, whole, fraction, exponent)

/-- The floating-point number of a text; nothing if it is too great. -/
def binary64? (lexeme : String) : Option Binary64 :=
  let (negative, whole, fraction, exponent) := parts lexeme
  let (n, dropped) := leading 0 whole
  let (digits, unread) := leading n fraction
  let read := fraction.length - unread.length
  Binary64.ofDecimal? negative digits (exponent + dropped.length - read)

/-- The integer of a text, if it is one; minus zero is none. -/
def integer? (lexeme : String) : Option Int :=
  match lexeme.toList with
  | '-' :: digits =>
    let n := natural digits
    if digits.all Char.isDigit ∧ n ≠ 0 ∧ n ≤ Nat.pow 2 63 then some (-(n : Int)) else none
  | digits =>
    let n := natural digits
    if digits.all Char.isDigit ∧ n ≤ greatestWord then some n else none

end ApiSurface.Json.Number
