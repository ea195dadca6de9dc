/-!
# Sets of characters

A set is a list of ranges in ascending order, none of which touches the next. Both ends of a range
belong to it.
-/

namespace ApiSurface

structure CharSet where
  ranges : List (Nat × Nat)
  deriving DecidableEq, Repr, Inhabited

namespace CharSet

def maxCode : Nat := 0x10FFFF

def empty : CharSet := ⟨[]⟩

def single (c : Char) : CharSet := ⟨[(c.toNat, c.toNat)]⟩

def range (first last : Nat) : CharSet := if first ≤ last then ⟨[(first, last)]⟩ else empty

/-- Whether a code lies in a range; the ranges ascend, so the search ends early. -/
def memCode (n : Nat) : List (Nat × Nat) → Bool
  | [] => false
  | (first, last) :: rest => if n < first then false else n ≤ last || memCode n rest

def mem (set : CharSet) (c : Char) : Bool := memCode c.toNat set.ranges

/-- Merges each range into the next where they touch; the first ends ascend. -/
def joinTouching : Nat × Nat → List (Nat × Nat) → List (Nat × Nat)
  | current, [] => [current]
  | (first, last), (first', last') :: rest =>
    if first' ≤ last + 1 then joinTouching (first, max last last') rest
    else (first, last) :: joinTouching (first', last') rest

def ofRanges (ranges : List (Nat × Nat)) : CharSet :=
  match ranges.mergeSort fun a b => a.1 ≤ b.1 with
  | [] => empty
  | r :: rs => ⟨joinTouching r rs⟩

def union (a b : CharSet) : CharSet := ofRanges (a.ranges ++ b.ranges)

def unionAll (sets : List CharSet) : CharSet := ofRanges (sets.flatMap ranges)

/-- The gaps between ranges, from a code on. -/
def gaps (start : Nat) : List (Nat × Nat) → List (Nat × Nat)
  | [] => if start ≤ maxCode then [(start, maxCode)] else []
  | (first, last) :: rest =>
    if start < first then (start, first - 1) :: gaps (last + 1) rest else gaps (last + 1) rest

def complement (a : CharSet) : CharSet := ⟨gaps 0 a.ranges⟩

def inter (a b : CharSet) : CharSet := (union a.complement b.complement).complement

def diff (a b : CharSet) : CharSet := inter a b.complement

def symmDiff (a b : CharSet) : CharSet := union (diff a b) (diff b a)

def hexDigit (c : Char) : Nat :=
  if '0' ≤ c ∧ c ≤ '9' then c.toNat - '0'.toNat else c.toNat - 'A'.toNat + 10

def hexNumber (digits : List Char) : Nat := digits.foldl (fun n c => n * 16 + hexDigit c) 0

/-- A range of a table, as in 41-5A or 5F. -/
def rangeOfText (text : List Char) : Nat × Nat :=
  match text.span (· != '-') with
  | (first, []) => (hexNumber first, hexNumber first)
  | (first, _ :: last) => (hexNumber first, hexNumber last)

/-- Ranges in hexadecimal, separated by blanks, on any number of lines. -/
def ofTexts (lines : List String) : CharSet :=
  ofRanges (lines.flatMap fun line => (line.toList.splitOn ' ').map rangeOfText)

end CharSet

end ApiSurface
