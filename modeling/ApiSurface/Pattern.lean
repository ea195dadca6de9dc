import ApiSurface.CharProperty

/-!
# Text patterns

Regular expressions over characters. A pattern takes a set of places in a text to the set of
places at which a match that starts at one of the first can end; a text matches if the set is not
empty. Which of several matches is preferred plays no part.
-/

namespace ApiSurface

/-- A condition on the characters before and behind a place. -/
inductive Assertion where
  | textStart
  | textEnd
  | lineStart
  | lineEnd
  | lineStartAny
  | lineEndAny
  | wordBoundary (word : CharSet)
  | noWordBoundary (word : CharSet)
  | wordStart (word : CharSet)
  | wordEnd (word : CharSet)
  | wordStartHalf (word : CharSet)
  | wordEndHalf (word : CharSet)
  deriving DecidableEq, Repr

namespace Assertion

/-- Whether the condition holds between two characters, which are absent at the ends. Lines end
with a line feed; in the variants for any line end, also with a carriage return. -/
def holds (before after : Option Char) : Assertion → Bool
  | .textStart => before.isNone
  | .textEnd => after.isNone
  | .lineStart => before.all (· == '\n')
  | .lineEnd => after.all (· == '\n')
  | .lineStartAny => before.all fun b => b == '\n' || (b == '\r' && after != some '\n')
  | .lineEndAny => after.all fun a => a == '\r' || (a == '\n' && before != some '\r')
  | .wordBoundary word => before.any word.mem != after.any word.mem
  | .noWordBoundary word => before.any word.mem == after.any word.mem
  | .wordStart word => !before.any word.mem && after.any word.mem
  | .wordEnd word => before.any word.mem && !after.any word.mem
  | .wordStartHalf word => !before.any word.mem
  | .wordEndHalf word => !after.any word.mem

end Assertion

inductive Pattern where
  | empty
  | char (set : CharSet)
  | at (place : Assertion)
  | sequence (first second : Pattern)
  | choice (first second : Pattern)
  | repetition (least : Nat) (most : Option Nat) (body : Pattern)
  deriving Repr, Inhabited

namespace Pattern

/-- Places in ascending order, each once. -/
def mergePlaces : List Nat → List Nat → List Nat
  | [], bs => bs
  | as, [] => as
  | a :: as, b :: bs =>
    if a < b then a :: mergePlaces as (b :: bs)
    else if b < a then b :: mergePlaces (a :: as) bs
    else a :: mergePlaces as bs
termination_by as bs => as.length + bs.length

theorem mem_mergePlaces {i : Nat} {as bs : List Nat} :
    i ∈ mergePlaces as bs ↔ i ∈ as ∨ i ∈ bs := by
  fun_induction mergePlaces as bs with
  | case1 => simp
  | case2 => simp
  | case3 a as b bs hlt ih =>
    simp only [List.mem_cons, ih]
    grind
  | case4 a as b bs hge hlt ih =>
    simp only [List.mem_cons, ih]
    grind
  | case5 a as b bs hge hle ih =>
    have hab : a = b := by omega
    subst hab
    simp only [List.mem_cons, ih]
    grind

/-- Applies a step a number of times, which ends early once no place is left. -/
def times (step : List Nat → List Nat) : Nat → List Nat → List Nat
  | 0, places => places
  | n + 1, places => if places.isEmpty then [] else times step n (step places)

/-- Applies a step up to a number of times and keeps every place met. It ends early once a step
leads to no new place. -/
def upTo (step : List Nat → List Nat) : Nat → List Nat → List Nat
  | 0, places => places
  | n + 1, places =>
    let more := mergePlaces places (step places)
    if more.length = places.length then places else upTo step n more

/-- Where matches that start at the given places can end. -/
def ends (text : Array Char) : Pattern → List Nat → List Nat
  | .empty, places => places
  | .char set, places => (places.filter fun i => text[i]?.any set.mem).map (· + 1)
  | .at place, places => places.filter fun i =>
      place.holds (if i = 0 then none else text[i - 1]?) text[i]?
  | .sequence first second, places => ends text second (ends text first places)
  | .choice first second, places => mergePlaces (ends text first places) (ends text second places)
  | .repetition least most body, places =>
    let more := match most with
      | some most => most - least
      | none => text.size + 1
    upTo (ends text body) more (times (ends text body) least places)

/-- Whether some part of the text matches. -/
def matchesIn (p : Pattern) (text : String) : Bool :=
  let cs := text.toList.toArray
  !(ends cs p (List.range (cs.size + 1))).isEmpty

/-! ## Size -/

/-- Roughly the bytes that an automaton needs for a set of characters. -/
def setSize (set : CharSet) : Nat :=
  match set.ranges with
  | [(_, last)] => if last < 0x80 then 24 else 96
  | ranges => 64 * ranges.length

/-- Roughly the bytes of an automaton that repeats bodies as often as they are counted. -/
def size : Pattern → Nat
  | .empty | .at _ => 24
  | .char set => setSize set
  | .sequence first second => size first + size second
  | .choice first second => size first + size second + 24
  | .repetition least none body => max least 1 * size body + 24
  | .repetition _ (some most) body => most * (size body + 24)

def greatestSize : Nat := 10 * Nat.pow 2 20

end Pattern

end ApiSurface
