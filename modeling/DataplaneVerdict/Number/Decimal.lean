import DataplaneVerdict.Number.Basic
import DataplaneVerdict.Text.Blank

/-!
# `Number.Decimal` — numbers as decimal text

## Contents
- **Reading.** `Number.ofDecimal` rounds a decimal significand and exponent once; `Number.ofText` reads a whole
  text as a numeral: blanks around it are dropped, the empty text is zero, `0x`, `0o` and `0b` select
  another base, and anything that is no numeral is `nan`.
- **Writing.** `Number.shortest` finds the fewest digits that read back as the number; `Number.text` lays
  them out, positionally up to 21 integer digits and down to six leading zeros, else with an exponent.
-/

namespace DataplaneVerdict.Number

open DataplaneVerdict.Text

/-! ## Reading -/

/-- The value of a digit in bases up to 16. -/
def digitValue (c : Char) : Option Nat :=
  if '0' ≤ c ∧ c ≤ '9' then some (c.toNat - '0'.toNat)
  else if 'a' ≤ c ∧ c ≤ 'f' then some (c.toNat - 'a'.toNat + 10)
  else if 'A' ≤ c ∧ c ≤ 'F' then some (c.toNat - 'A'.toNat + 10)
  else none

def isDigit (c : Char) : Bool := '0' ≤ c && c ≤ '9'

/-- The natural number that a list of decimal digits denotes. -/
def digitsToNat (cs : List Char) : Nat :=
  cs.foldl (fun n c => n * 10 + (c.toNat - '0'.toNat)) 0

/-- The natural number that digits of some base denote, `none` if there is no digit or a wrong one. -/
def natOfBase (base : Nat) (cs : List Char) : Option Nat :=
  if cs.isEmpty then none
  else
    cs.foldl (fun n c =>
      match n, digitValue c with
      | some n, some d => if d < base then some (n * base + d) else none
      | _, _ => none) (some 0)

/-- `digits * 10 ^ exponent`, rounded once. Exponents far outside the format's range are answered directly. -/
def ofDecimal (negative : Bool) (digits : Nat) (exponent : Int) : Number :=
  let magnitude : Number :=
    if digits = 0 then finite 0
    else if 400 < exponent then infinity false
    else if exponent < -(digits.log2 : Int) - 400 then finite 0
    else if 0 ≤ exponent then ofNat (digits * Nat.pow 10 exponent.toNat)
    else round (mkRat digits (Nat.pow 10 (-exponent).toNat))
  if negative then magnitude.neg else magnitude

/-- Splits off the decimal digits at the front. -/
def spanDigits (cs : List Char) : List Char × List Char := (cs.takeWhile isDigit, cs.dropWhile isDigit)

/-- An exponent part: nothing, or `e` with an optional sign and at least one digit. -/
def readExponent : List Char → Option Int
  | [] => some 0
  | c :: rest =>
    if c = 'e' ∨ c = 'E' then
      let (negative, digits) :=
        match rest with
        | '-' :: r => (true, r)
        | '+' :: r => (false, r)
        | r => (false, r)
      if digits.isEmpty || !digits.all isDigit then none
      else
        let n : Int := (digitsToNat digits : Int)
        some (if negative then -n else n)
    else none

/-- An unsigned decimal numeral: digits with an optional fraction and exponent, at least one digit in all. -/
def readUnsigned (negative : Bool) (cs : List Char) : Option Number :=
  let (whole, rest) := spanDigits cs
  let (fraction, rest) :=
    match rest with
    | '.' :: r => spanDigits r
    | r => ([], r)
  if whole.isEmpty && fraction.isEmpty then none
  else
    (readExponent rest).map fun e =>
      ofDecimal negative (digitsToNat (whole ++ fraction)) (e - (fraction.length : Int))

/-- A signed decimal numeral or infinity. -/
def readSigned (negative : Bool) (cs : List Char) : Option Number :=
  if cs = "Infinity".toList then some (infinity negative) else readUnsigned negative cs

/-- The number that a list of characters without surrounding blanks denotes. -/
def readNumeral : List Char → Option Number
  | [] => some (finite 0)
  | '0' :: 'x' :: r => (natOfBase 16 r).map ofNat
  | '0' :: 'X' :: r => (natOfBase 16 r).map ofNat
  | '0' :: 'o' :: r => (natOfBase 8 r).map ofNat
  | '0' :: 'O' :: r => (natOfBase 8 r).map ofNat
  | '0' :: 'b' :: r => (natOfBase 2 r).map ofNat
  | '0' :: 'B' :: r => (natOfBase 2 r).map ofNat
  | '-' :: r => readSigned true r
  | '+' :: r => readSigned false r
  | cs => readSigned false cs

/-- The number that a text denotes, `nan` if it is no numeral. -/
def ofText (s : String) : Number := (readNumeral (trimList s.toList)).getD nan

/-! ## Writing -/

def natText (n : Nat) : String := String.ofList (Nat.toDigits 10 n)

/-- Digits `d` and exponent `k` of the value `d * 10 ^ k`. -/
structure Decimal where
  digits : Nat
  exponent : Int
deriving DecidableEq

def Decimal.value (d : Decimal) : Rat :=
  if 0 ≤ d.exponent then ((d.digits * Nat.pow 10 d.exponent.toNat : Nat) : Rat)
  else mkRat d.digits (Nat.pow 10 (-d.exponent).toNat)

/-- The least `j` with `1 ≤ r * 10 ^ j`, searched upwards. -/
def leadingZeros (num den : Nat) : Nat → Nat → Nat
  | 0, j => j
  | fuel + 1, j => if den ≤ num * Nat.pow 10 j then j else leadingZeros num den fuel (j + 1)

/-- The greatest `k` with `10 ^ k ≤ num / den`, for a positive quotient in the format's range. -/
def floorLog10 (num den : Nat) : Int :=
  if den ≤ num then ((Nat.toDigits 10 (num / den)).length : Int) - 1
  else -(leadingZeros num den 400 1 : Int)

/-- The quotient `num / den` divided by `10 ^ k`, rounded down. -/
def gridFloor (num den : Nat) (k : Int) : Nat :=
  if 0 ≤ k then num / (den * Nat.pow 10 k.toNat) else num * Nat.pow 10 (-k).toNat / den

/-- The neighbour of `r` with `count` digits that reads back as `r`, the nearer one if both do. -/
def readBack? (r : Rat) (count : Nat) : Option Decimal :=
  let num := r.num.natAbs
  let k := floorLog10 num r.den + 1 - (count : Int)
  let low : Decimal := ⟨gridFloor num r.den k, k⟩
  let high : Decimal := ⟨low.digits + 1, k⟩
  let back (d : Decimal) : Bool := round d.value = finite r
  match back low, back high with
  | true, true =>
    let below := r - low.value
    let above := high.value - r
    if below < above then some low
    else if above < below then some high
    else if low.digits % 2 = 0 then some low else some high
  | true, false => some low
  | false, true => some high
  | false, false => none

/-- The first decimal found among those with `count`, `count + 1`, … digits. -/
def searchShortest (r : Rat) : Nat → Nat → Option Decimal
  | 0, _ => none
  | fuel + 1, count => (readBack? r count).orElse fun _ => searchShortest r fuel (count + 1)

/-- A decimal with the fewest digits that reads back as the positive number `r`. -/
def shortest (r : Rat) : Decimal :=
  (searchShortest r 17 1).getD ⟨r.num.natAbs * Nat.pow 5 r.den.log2, -(r.den.log2 : Int)⟩

def dropFinalZeros (ds : List Char) : List Char := (ds.reverse.dropWhile (· == '0')).reverse

/-- Lays out a positive decimal. -/
def layout (d : Decimal) : String :=
  let all := Nat.toDigits 10 d.digits
  let digits := dropFinalZeros all
  let n : Int := digits.length
  -- the value is `0.digits * 10 ^ point`
  let point : Int := (all.length : Int) + d.exponent
  if n ≤ point ∧ point ≤ 21 then
    String.ofList (digits ++ List.replicate (point - n).toNat '0')
  else if 0 < point ∧ point ≤ 21 then
    String.ofList (digits.take point.toNat ++ '.' :: digits.drop point.toNat)
  else if -6 < point ∧ point ≤ 0 then
    String.ofList ('0' :: '.' :: (List.replicate (-point).toNat '0' ++ digits))
  else
    let e := point - 1
    let exponent := (if e < 0 then "e-" else "e+") ++ natText e.natAbs
    match digits with
    | [] => "0"
    | [c] => String.ofList [c] ++ exponent
    | c :: rest => String.ofList (c :: '.' :: rest) ++ exponent

/-- The text of a positive finite number. Whole numbers of at most 53 bits are written in full. -/
def positiveText (r : Rat) : String :=
  if r.den = 1 ∧ r.num.natAbs < Nat.pow 2 53 then natText r.num.natAbs else layout (shortest r)

/-- The text of a number; both zeros are `0`. -/
def text : Number → String
  | nan => "NaN"
  | infinity false => "Infinity"
  | infinity true => "-Infinity"
  | negativeZero => "0"
  | finite r =>
    if r.num = 0 then "0"
    else if r.num < 0 then "-" ++ positiveText (-r)
    else positiveText r

end DataplaneVerdict.Number
