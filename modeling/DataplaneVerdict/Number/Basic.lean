/-!
# `Number.Basic` — binary floating-point numbers as exact values

A `Number` is an IEEE 754 binary64 value. A finite one carries the rational number it stands for, so
arithmetic is exact rational arithmetic followed by one rounding step, and comparisons are comparisons
of rationals.

## Contents
- **Values.** `Number`, with the two infinities, the not-a-number value and the negative zero apart.
- **Rounding.** `Number.round`: the nearest binary64 value, ties to the even significand.
- **Arithmetic and order.** `sub`, `mul`, `floor`, `atLeastZero`, and the order tests `lt`, `le`, `eq`.
-/

namespace DataplaneVerdict

/-- A binary64 value. `finite r` stands for the rational `r`; its zero is the positive one. -/
inductive Number where
  | nan
  | infinity (negative : Bool)
  | negativeZero
  | finite (value : Rat)
deriving DecidableEq, Inhabited

namespace Number

/-! ## Rounding -/

/-- The quotient `num / den` rounded to the nearest natural number, a half going to the even one. -/
def nearestEven (num den : Nat) : Nat :=
  let q := num / den
  let twice := 2 * (num % den)
  if twice < den then q
  else if den < twice then q + 1
  else if q % 2 = 0 then q else q + 1

/-- The greatest `k` with `2 ^ k ≤ num / den`, for positive `num` and `den`. -/
def floorLog2 (num den : Nat) : Int :=
  let k : Int := (num.log2 : Int) - (den.log2 : Int)
  let reached := if 0 ≤ k then den * Nat.pow 2 k.toNat ≤ num else den ≤ num * Nat.pow 2 (-k).toNat
  if reached then k else k - 1

/-- The exponent of the last place of the binary64 values around `num / den`. -/
def lastPlace (num den : Nat) : Int :=
  max (floorLog2 num den - 52) (-1074)

/-- `n * 2 ^ e` as a rational. -/
def scale (n : Nat) (e : Int) : Rat :=
  if 0 ≤ e then ((n * Nat.pow 2 e.toNat : Nat) : Rat) else mkRat n (Nat.pow 2 (-e).toNat)

/-- The magnitude nearest to `num / den`, `none` when it exceeds every finite value. -/
def roundMagnitude (num den : Nat) : Option Rat :=
  let e := lastPlace num den
  let n := if 0 ≤ e then nearestEven num (den * Nat.pow 2 e.toNat) else nearestEven (num * Nat.pow 2 (-e).toNat) den
  let v := scale n e
  if v < ((Nat.pow 2 1024 : Nat) : Rat) then some v else none

/-- The binary64 value nearest to `r`. Whole numbers of at most 53 bits are exact. A negative number too
small for any other value becomes the negative zero. -/
def round (r : Rat) : Number :=
  if r.den = 1 ∧ r.num.natAbs ≤ Nat.pow 2 53 then finite r
  else
    match roundMagnitude r.num.natAbs r.den with
    | none => infinity (r.num < 0)
    | some v =>
      if v.num = 0 then (if r.num < 0 then negativeZero else finite 0)
      else if r.num < 0 then finite (-v) else finite v

def ofNat (n : Nat) : Number := round (n : Rat)

def ofInt (n : Int) : Number := round (n : Rat)

instance (n : Nat) : OfNat Number n := ⟨ofNat n⟩

/-- Whole numbers of at most 53 bits are their own nearest value. -/
theorem round_intCast {n : Int} (h : n.natAbs ≤ Nat.pow 2 53) : round (n : Rat) = finite (n : Rat) :=
  if_pos ⟨Rat.den_intCast n, by rwa [Rat.num_intCast]⟩

/-! ## Sign and value -/

def toRat? : Number → Option Rat
  | finite r => some r
  | negativeZero => some 0
  | nan => none
  | infinity _ => none

/-- Whether the sign bit is set. -/
def isNegative : Number → Bool
  | nan => false
  | infinity s => s
  | negativeZero => true
  | finite r => r.num < 0

/-- The same magnitude with the other sign. -/
def neg : Number → Number
  | nan => nan
  | infinity s => infinity (!s)
  | negativeZero => finite 0
  | finite r => if r.num = 0 then negativeZero else finite (-r)

/-- Whether the number is a whole number; infinities and `nan` are not. -/
def isInteger : Number → Bool
  | finite r => r.den = 1
  | negativeZero => true
  | nan => false
  | infinity _ => false

/-! ## Order -/

/-- `a < b`; false whenever one of them is `nan`. -/
def lt : Number → Number → Bool
  | nan, _ => false
  | _, nan => false
  | infinity s, infinity t => s && !t
  | infinity s, _ => s
  | _, infinity t => !t
  | negativeZero, negativeZero => false
  | negativeZero, finite r => 0 < r
  | finite r, negativeZero => r < 0
  | finite r, finite s => r < s

/-- Equality of values: the two zeros are equal and `nan` differs from everything. -/
def eq : Number → Number → Bool
  | nan, _ => false
  | _, nan => false
  | infinity s, infinity t => s == t
  | infinity _, _ => false
  | _, infinity _ => false
  | negativeZero, negativeZero => true
  | negativeZero, finite r => r.num = 0
  | finite r, negativeZero => r.num = 0
  | finite r, finite s => r = s

/-- `a ≤ b`; false whenever one of them is `nan`. -/
def le (a b : Number) : Bool := lt a b || eq a b

/-! ## Arithmetic -/

/-- The sum, rounded once. Opposite infinities have none. -/
def add : Number → Number → Number
  | nan, _ => nan
  | _, nan => nan
  | infinity s, infinity t => if s = t then infinity s else nan
  | infinity s, _ => infinity s
  | _, infinity t => infinity t
  | negativeZero, negativeZero => negativeZero
  | negativeZero, finite r => finite r
  | finite r, negativeZero => finite r
  | finite r, finite s => round (r + s)

def sub (a b : Number) : Number := add a b.neg

/-- The product, rounded once. A zero times an infinity has none. -/
def mul (a b : Number) : Number :=
  let negative := a.isNegative != b.isNegative
  match a, b with
  | nan, _ => nan
  | _, nan => nan
  | infinity _, infinity _ => infinity negative
  | infinity _, x => if eq x (finite 0) then nan else infinity negative
  | x, infinity _ => if eq x (finite 0) then nan else infinity negative
  | negativeZero, _ => if negative then negativeZero else finite 0
  | _, negativeZero => if negative then negativeZero else finite 0
  | finite r, finite s =>
    if r.num = 0 ∨ s.num = 0 then (if negative then negativeZero else finite 0) else round (r * s)

/-- The greatest whole number not above the argument. -/
def floor : Number → Number
  | finite r => round (r.floor : Rat)
  | x => x

/-- The argument, but never below zero: negative numbers become zero and `nan` stays. -/
def atLeastZero : Number → Number
  | nan => nan
  | x => if lt (finite 0) x then x else finite 0

end Number

end DataplaneVerdict
