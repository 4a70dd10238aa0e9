import RelationAtlas.Json.Reader

/-!
# What numerals stand for

A numeral without a point and without an exponent stands for an integer.  Every other numeral stands
for the nearest of the numbers that have fifty-three binary digits and an exponent within bounds;
when two are equally near, the one with an even last digit is taken.  A numeral that is too large has
no such number, and neither have the names of the numbers that are not finite.

All of this is exact arithmetic on natural numbers.
-/

namespace RelationAtlas.Json

open Text

/-! ## Rounding -/

/-- The quotient of two numbers, rounded to the nearest integer, and to the even one of two that are
equally near. -/
def roundedQuotient (n d : Nat) : Nat :=
  if 2 * (n % d) < d ∨ (2 * (n % d) = d ∧ n / d % 2 = 0) then n / d else n / d + 1

/-- A rounded quotient is off by no more than a half. -/
theorem roundedQuotient_near (n : Nat) {d : Nat} (hd : 0 < d) :
    2 * n ≤ 2 * (d * roundedQuotient n d) + d ∧ 2 * (d * roundedQuotient n d) ≤ 2 * n + d := by
  have hsplit := Nat.div_add_mod n d
  have hlt := Nat.mod_lt n hd
  unfold roundedQuotient
  split
  · omega
  · rw [Nat.mul_add, Nat.mul_one]
    omega

/-- Two to a power. -/
def twoTo (e : Nat) : Nat := Nat.pow 2 e

/-- The exponent of the leading binary digit of the quotient of two positive numbers. -/
def leadingExponent (n d : Nat) : Int :=
  let e : Int := n.log2 - d.log2
  if d * twoTo e.toNat ≤ n * twoTo (-e).toNat then e else e - 1

/-- The number nearest to the quotient of two positive numbers, as a multiple of a power of two, if
the quotient is not too large. -/
def nearest? (n d : Nat) : Option (Nat × Int) :=
  let e := max (leadingExponent n d - 52) (-1074)
  let m := roundedQuotient (n * twoTo (-e).toNat) (d * twoTo e.toNat)
  if m * twoTo e.toNat < twoTo 1024 then some (m, e) else none

/-- The integer that a multiple of a power of two is, if it is one. -/
def whole? (m : Nat) (e : Int) : Option Nat :=
  let d := twoTo (-e).toNat
  if m % d = 0 then some (m / d * twoTo e.toNat) else none

/-! ## Numerals -/

/-- What a numeral stands for: an integer that is written as one, a rounded number that is an integer,
a rounded number with a fraction, or nothing that is finite. -/
inductive Number where
  | integer (n : Int)
  | whole (n : Int)
  | fractional
  | notFinite
  deriving DecidableEq, Repr

/-- The number with its sign turned. -/
def Number.neg : Number → Number
  | integer n => integer (-n)
  | whole n => whole (-n)
  | n => n

/-- Decimal exponents beyond this bound leave no doubt about what a numeral is rounded to. -/
def decimalBound : Int := 400

/-- What a number of the form `m * 10 ^ e` is rounded to. -/
def rounded (m : Nat) (e : Int) : Number :=
  let size : Int := (Text.ofNat m).length + e
  if m = 0 ∨ size < -decimalBound then .whole 0
  else if decimalBound < size then .notFinite
  else match nearest? (m * Nat.pow 10 e.toNat) (Nat.pow 10 (-e).toNat) with
    | none => .notFinite
    | some (m, e) =>
      match whole? m e with
      | some n => .whole n
      | none => .fractional

/-- The exponent that is written behind a number. -/
def exponentValue (t : Text) : Int :=
  let (sign, ds) := exponentSign (t.drop 1)
  if sign = ['-'] then -(plainValue ds : Int) else plainValue ds

/-- What a numeral without sign stands for. -/
def magnitude (t : Text) : Number :=
  match wholePart? t with
  | none => .notFinite
  | some (whole, t) =>
    let (fraction, t) := fractionPart t
    if fraction = [] ∧ t = [] then .integer (plainValue whole)
    else
      let places := fraction.drop 1
      rounded (plainValue (whole ++ places)) (exponentValue t - places.length)

/-- What a numeral stands for. -/
def Number.ofLiteral : Text → Number
  | '-' :: t => (magnitude t).neg
  | t => magnitude t

end RelationAtlas.Json
