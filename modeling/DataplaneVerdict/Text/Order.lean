/-!
# `Text.Order` — texts by 16-bit units

File names and other sorted lists are ordered by their UTF-16 code units: a character outside the basic
plane counts as its two surrogates, so it comes before the characters from U+E000 to U+FFFF. Widths and
limits count the same units.

## Contents
- **Units.** `Text.units`, the code units of a text, `Text.unitCount`, their number, and `Text.ofUnits`, the
  characters that units spell.
- **Order.** `Text.unitsLe`, and `Text.sortByUnits` with it.
-/

namespace DataplaneVerdict.Text

/-- The UTF-16 code units of one character. -/
def charUnits (c : Char) : List Nat :=
  let n := c.toNat
  if n < 0x10000 then [n] else [0xD800 + (n - 0x10000) / 0x400, 0xDC00 + (n - 0x10000) % 0x400]

def units (s : String) : List Nat := s.toList.flatMap charUnits

/-- How many code units characters take. -/
def unitCount (cs : List Char) : Nat := cs.foldl (fun n c => n + (charUnits c).length) 0

def width (s : String) : Nat := unitCount s.toList

/-- The character of one code unit; half of a pair stands for no character. -/
def unitChar (u : Nat) : Char := if 0xD800 ≤ u && u ≤ 0xDFFF then '\ufffd' else Char.ofNat u

/-- The characters that code units spell: a high and a low half that follow each other are one character. -/
def ofUnits : List Nat → List Char
  | [] => []
  | [u] => [unitChar u]
  | u :: v :: rest =>
    if 0xD800 ≤ u && u ≤ 0xDBFF && 0xDC00 ≤ v && v ≤ 0xDFFF then
      Char.ofNat (0x10000 + (u - 0xD800) * 0x400 + (v - 0xDC00)) :: ofUnits rest
    else unitChar u :: ofUnits (v :: rest)

/-- Lexicographic order of unit lists, a proper beginning first. -/
def unitListLe : List Nat → List Nat → Bool
  | [], _ => true
  | _ :: _, [] => false
  | a :: as, b :: bs => if a < b then true else if b < a then false else unitListLe as bs

/-- `a` comes before `b` or equals it. -/
def unitsLe (a b : String) : Bool := unitListLe (units a) (units b)

/-- The texts in ascending order, equal ones in the order given. -/
def sortByUnits (xs : List String) : List String := xs.mergeSort unitsLe

end DataplaneVerdict.Text
