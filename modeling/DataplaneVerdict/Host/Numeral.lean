/-!
# `Host.Numeral` — numbers as the tools of a host write them

A number with a fraction is written from its exact value: with fixed places, with an exponent, or in whichever of the
two is shorter. Of two nearest decimals the even one is taken.
-/

namespace DataplaneVerdict.Host

namespace Numeral

/-! ## Values -/

/-- A magnitude as a whole number times a power of two. -/
structure Exact where
  mantissa : Nat
  exponent : Int
deriving Inhabited

def isNegative (x : Float) : Bool := (x.toBits >>> 63) ≠ 0

def exponentField (x : Float) : Nat := ((x.toBits >>> 52) &&& 0x7FF).toNat

def fractionField (x : Float) : Nat := (x.toBits &&& 0xFFFFFFFFFFFFF).toNat

/-- The magnitude of a finite number. -/
def exactValue? (x : Float) : Option Exact :=
  let e := exponentField x
  let f := fractionField x
  if e = 2047 then none
  else if e = 0 then some ⟨f, -1074⟩
  else some ⟨f + 4503599627370496, (e : Int) - 1075⟩

/-- A magnitude as a fraction. -/
def Exact.fraction (v : Exact) : Nat × Nat :=
  if 0 ≤ v.exponent then (v.mantissa * Nat.pow 2 v.exponent.toNat, 1) else (v.mantissa, Nat.pow 2 (-v.exponent).toNat)

/-- The nearest whole number to a fraction, the even one of two. -/
def nearest (numerator denominator : Nat) : Nat :=
  let q := numerator / denominator
  let r := numerator % denominator
  if 2 * r < denominator then q
  else if denominator < 2 * r then q + 1
  else if q % 2 = 0 then q else q + 1

/-! ## Writing -/

def digits (n : Nat) : List Char := (Nat.toDigits 10 n)

def zeros (n : Nat) : List Char := List.replicate n '0'

def padded (width : Nat) (ds : List Char) : List Char := zeros (width - ds.length) ++ ds

/-- Digits with a point in front of the last places. -/
def withPoint (places : Nat) (alternate : Bool) (ds : List Char) : List Char :=
  let ds := padded (places + 1) ds
  let whole := ds.take (ds.length - places)
  let part := ds.drop (ds.length - places)
  if part.isEmpty then (if alternate then whole ++ ['.'] else whole) else whole ++ '.' :: part

/-- A number with so many places. -/
def fixed (v : Exact) (places : Nat) (alternate : Bool) : List Char :=
  let (n, d) := v.fraction
  withPoint places alternate (digits (nearest (n * Nat.pow 10 places) d))

/-- The power of ten of the first digit. -/
def magnitude (n d : Nat) : Int :=
  let guess : Int := (digits n).length - (digits d).length
  let atLeast (k : Int) : Bool := if 0 ≤ k then d * Nat.pow 10 k.toNat ≤ n else d ≤ n * Nat.pow 10 (-k).toNat
  if atLeast guess then guess else guess - 1

/-- So many digits and one, and the power of ten of the first. -/
def rounded (v : Exact) (places : Nat) : List Char × Int :=
  let (n, d) := v.fraction
  if n = 0 then (zeros (places + 1), 0)
  else
    let k := magnitude n d
    let shift : Int := places - k
    let scaled := if 0 ≤ shift then nearest (n * Nat.pow 10 shift.toNat) d
      else nearest n (d * Nat.pow 10 (-shift).toNat)
    let ds := digits scaled
    if places + 1 < ds.length then (ds.take (places + 1), k + 1) else (ds, k)

def exponentText (mark : Char) (k : Int) : List Char :=
  mark :: (if k < 0 then '-' else '+') :: padded 2 (digits k.natAbs)

/-- A number with an exponent. -/
def scientific (v : Exact) (places : Nat) (alternate : Bool) : List Char :=
  let (ds, k) := rounded v places
  withPoint places alternate ds ++ exponentText 'e' k

def stripZeros (cs : List Char) : List Char :=
  if cs.contains '.' then
    let cs := (cs.reverse.dropWhile (· == '0')).reverse
    if cs.getLast? = some '.' then cs.dropLast else cs
  else cs

/-- A number in the shorter notation, without zeros at its end. -/
def general (v : Exact) (precision : Nat) (alternate : Bool) : List Char :=
  let p := if precision = 0 then 1 else precision
  let (ds, k) := rounded v (p - 1)
  let strip (cs : List Char) : List Char := if alternate then cs else stripZeros cs
  if -4 ≤ k && k < p then strip (fixed v ((p : Int) - 1 - k).toNat alternate)
  else strip (withPoint (p - 1) alternate ds) ++ exponentText 'e' k

/-! ## Reading -/

/-- A number that was read, and the text behind it. -/
structure Scanned where
  value : Float
  rest : List Char
  outOfRange : Bool

def startsWithWord (word : List Char) (cs : List Char) : Bool :=
  word.isPrefixOf ((cs.take word.length).map Char.toLower)

def hexValue (c : Char) : Option Nat :=
  if c.isDigit then some (c.toNat - 48)
  else if 'a' ≤ c && c ≤ 'f' then some (c.toNat - 87)
  else if 'A' ≤ c && c ≤ 'F' then some (c.toNat - 55)
  else none

def scanExponent (cs : List Char) : Option (Int × List Char) :=
  let (negative, ds) := match cs with
    | '-' :: rest => (true, rest)
    | '+' :: rest => (false, rest)
    | rest => (false, rest)
  let found := ds.takeWhile Char.isDigit
  if found.isEmpty then none
  else
    let n : Nat := found.foldl (fun n c => min (n * 10 + (c.toNat - 48)) 1000000) 0
    some (if negative then -(n : Int) else n, ds.drop found.length)

/-- Reads a decimal number. -/
def scanDecimal (cs : List Char) : Option Scanned :=
  let whole := cs.takeWhile Char.isDigit
  let after := cs.drop whole.length
  let (part, after) := match after with
    | '.' :: rest =>
      let p := rest.takeWhile Char.isDigit
      if whole.isEmpty && p.isEmpty then ([], after) else (p, rest.drop p.length)
    | _ => ([], after)
  if whole.isEmpty && part.isEmpty then none
  else
    let (power, rest) : Int × List Char := match after with
      | c :: tail =>
        if c = 'e' || c = 'E' then (scanExponent tail).getD (0, after) else (0, after)
      | [] => (0, [])
    let mantissa := (whole ++ part).foldl (fun n c => n * 10 + (c.toNat - 48)) 0
    let power := power - part.length
    let size : Int := (digits mantissa).length + power
    let value : Float :=
      if mantissa = 0 then 0
      else if size < -400 then 0
      else if 400 < size then Float.ofScientific 1 false 400
      else Float.ofScientific mantissa (power < 0) power.natAbs
    let outOfRange := mantissa ≠ 0 && (value.isInf || exponentField value = 0)
    some ⟨value, rest, outOfRange⟩

/-- Reads a number, also one of the words for what is no number. -/
def scan (cs : List Char) : Option Scanned :=
  let start := cs.dropWhile fun c => c = ' ' || (9 ≤ c.toNat && c.toNat ≤ 13)
  let (negative, body) := match start with
    | '-' :: rest => (true, rest)
    | '+' :: rest => (false, rest)
    | rest => (false, rest)
  let found : Option Scanned :=
    if startsWithWord "infinity".toList body then some ⟨1.0 / 0.0, body.drop 8, false⟩
    else if startsWithWord "inf".toList body then some ⟨1.0 / 0.0, body.drop 3, false⟩
    else if startsWithWord "nan".toList body then some ⟨0.0 / 0.0, body.drop 3, false⟩
    else scanDecimal body
  found.map fun s =>
    { s with value := if s.value.isNaN then (if negative then Float.ofBits 0xFFF8000000000000 else
        Float.ofBits 0x7FF8000000000000) else if negative then -s.value else s.value }

end Numeral

end DataplaneVerdict.Host
