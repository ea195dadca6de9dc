/-!
# Floating-point numbers

Finite binary numbers of double precision, as a sign, a significand and a power of two. Rounding
is exact integer arithmetic. `render` gives the fewest digits that read back as the same number.
-/

namespace ApiSurface

/-- The number `significand * 2 ^ exponent`, with its sign. The significand has at most 53 bits,
and has all of them unless the exponent is the least one. -/
structure Binary64 where
  negative : Bool
  significand : Nat
  exponent : Int
  deriving DecidableEq, Repr, Inhabited

namespace Binary64

def leastExponent : Int := -1074

def greatestExponent : Int := 971

def zero (negative : Bool) : Binary64 := ⟨negative, 0, leastExponent⟩

/-- The two sides of a fraction, multiplied by a power of two. -/
def scale (num den : Nat) (power : Int) : Nat × Nat :=
  if 0 ≤ power then (num * Nat.pow 2 power.toNat, den)
  else (num, den * Nat.pow 2 (-power).toNat)

/-- The nearest integer, the even one of two. -/
def roundHalfEven (num den : Nat) : Nat :=
  let quotient := num / den
  let rest := 2 * (num % den)
  if den < rest ∨ (rest = den ∧ quotient % 2 = 1) then quotient + 1 else quotient

/-- The nearest number to a fraction; nothing beyond the greatest number. -/
def ofFraction? (negative : Bool) (num den : Nat) : Option Binary64 :=
  if num = 0 then some (zero negative)
  else
    let guess : Int := (num.log2 : Int) - den.log2 - 52
    let (n, d) := scale num den (-guess)
    let exponent := max leastExponent (if n / d < Nat.pow 2 52 then guess - 1 else guess)
    let (n, d) := scale num den (-exponent)
    let significand := roundHalfEven n d
    let (significand, exponent) :=
      if significand = Nat.pow 2 53 then (Nat.pow 2 52, exponent + 1) else (significand, exponent)
    if greatestExponent < exponent then none else some ⟨negative, significand, exponent⟩

/-- The absolute value as a fraction. -/
def magnitude (x : Binary64) : Nat × Nat := scale x.significand 1 x.exponent

/-- The nearest number to a power of ten. -/
def powerOfTen (n : Nat) : Nat × Nat :=
  ((ofFraction? false (Nat.pow 10 n) 1).map magnitude).getD (0, 1)

def greatestTenPower : Nat := 308

/-- The quotient by the nearest number to a power of ten, rounded. -/
def divideTen (x : Binary64) (n : Nat) : Binary64 :=
  let (num, den) := x.magnitude
  let (p, q) := powerOfTen n
  (ofFraction? x.negative (num * q) (den * p)).getD (zero x.negative)

def multiplyTen? (x : Binary64) (n : Nat) : Option Binary64 :=
  let (num, den) := x.magnitude
  let (p, q) := powerOfTen n
  ofFraction? x.negative (num * p) (den * q)

/-- Divides by the greatest power of ten as long as more than that is asked for. -/
def shrink : Nat → Binary64 → Nat → Binary64
  | 0, x, _ => zero x.negative
  | steps + 1, x, n =>
    if n ≤ greatestTenPower then x.divideTen n
    else if x.significand = 0 then x
    else shrink steps (x.divideTen greatestTenPower) (n - greatestTenPower)

/-- A decimal `digits * 10 ^ power`: the digits are rounded first, and then their product with the
power. Nothing if it is too great. -/
def ofDecimal? (negative : Bool) (digits : Nat) (power : Int) : Option Binary64 := do
  let x ← ofFraction? negative digits 1
  if 0 ≤ power then
    if power.toNat ≤ greatestTenPower then x.multiplyTen? power.toNat
    else if x.significand = 0 then some x
    else none
  else some (shrink 4 x (-power).toNat)

/-! ## Shortest digits -/

/-- Whether a decimal reads back: it lies between the halfway points to the neighbours, or on one
of them if the significand is even. -/
def readsBack (x : Binary64) (num den : Nat) : Bool :=
  let (below, exponentBelow) :=
    if x.significand = Nat.pow 2 52 ∧ leastExponent < x.exponent then
      (4 * x.significand - 1, x.exponent - 2)
    else (2 * x.significand - 1, x.exponent - 1)
  let (ln, ld) := scale below 1 exponentBelow
  let (un, ud) := scale (2 * x.significand + 1) 1 (x.exponent - 1)
  if x.significand % 2 = 0 then ln * den ≤ num * ld && num * ud ≤ un * den
  else ln * den < num * ld && num * ud < un * den

/-- The number of places of the integer part, or how many zeros follow the point. -/
def tenExponent (num den : Nat) : Int :=
  if den ≤ num then (Nat.toDigits 10 (num / den)).length
  else
    let zeros := ((List.range 400).find? fun j => den ≤ num * Nat.pow 10 (j + 1)).getD 0
    0 - (zeros : Int)

/-- The nearest of the decimals with the given last place that read back. -/
def decimalAt? (x : Binary64) (place : Int) : Option (Nat × Int) :=
  let (num, den) := x.magnitude
  let (n, d) :=
    if 0 ≤ place then (num, den * Nat.pow 10 place.toNat)
    else (num * Nat.pow 10 (-place).toNat, den)
  let lower := n / d
  let hit (c : Nat) : Bool :=
    if 0 ≤ place then x.readsBack (c * Nat.pow 10 place.toNat) 1
    else x.readsBack c (Nat.pow 10 (-place).toNat)
  match hit lower, hit (lower + 1) with
  | false, false => none
  | true, false => some (lower, place)
  | false, true => some (lower + 1, place)
  | true, true => some (roundHalfEven n d, place)

/-- The fewest digits that read back, and the power of ten of the last of them. -/
def shortest (x : Binary64) : Nat × Int :=
  let (num, den) := x.magnitude
  let places := tenExponent num den
  ((List.range 17).findSome? fun (n : Nat) => x.decimalAt? (places - (n : Int) - 1)).getD (x.significand, 0)

/-- Digits in front of a power of ten, written without an exponent. -/
def positional (digits : Nat) (power : Int) : String :=
  let ds := Nat.toDigits 10 digits
  if 0 ≤ power then String.ofList (ds ++ List.replicate power.toNat '0')
  else
    let behind := (-power).toNat
    let ds := List.replicate (behind + 1 - ds.length) '0' ++ ds
    let whole := ds.length - behind
    String.ofList (ds.take whole ++ ['.'] ++ ds.drop whole)

/-- Digits without zeros at their end, which move into the power. -/
def trimZeros : Nat → Nat → Int → Nat × Int
  | 0, digits, power => (digits, power)
  | steps + 1, digits, power =>
    if digits % 10 = 0 ∧ digits ≠ 0 then trimZeros steps (digits / 10) (power + 1)
    else (digits, power)

def render (x : Binary64) : String :=
  let sign := if x.negative then "-" else ""
  if x.significand = 0 then sign ++ "0"
  else
    let (digits, power) := x.shortest
    let (digits, power) := trimZeros 20 digits power
    sign ++ positional digits power

end Binary64

end ApiSurface
