import DataplaneVerdict.Text.Order
import DataplaneVerdict.Text.Utf8

/-!
# `Text.Base64` — bytes as text of sixty-four symbols

## Contents
- **Reading.** `Base64.decode` takes six bits from each symbol of either alphabet up to the first padding and passes
  over everything else, so it never fails.
- **Writing.** `Base64.encodeList` writes groups of four symbols, the last one padded.
-/

namespace DataplaneVerdict.Base64

def symbols : List Char := "ABCDEFGHIJKLMNOPQRSTUVWXYZabcdefghijklmnopqrstuvwxyz0123456789+/".toList

/-- The value of a symbol; `-` and `_` are other spellings of the last two. -/
def value? (c : Char) : Option Nat :=
  if c = '-' then some 62 else if c = '_' then some 63 else symbols.findIdx? (· = c)

/-- Bits that do not fill a byte yet, how many they are, and the bytes read so far, latest first. -/
structure Reading where
  bits : Nat := 0
  count : Nat := 0
  bytes : Bytes := []

/-- Takes the six bits of one symbol. -/
def Reading.take (r : Reading) (v : Nat) : Reading :=
  let bits := r.bits * 64 + v
  let count := r.count + 6
  if 8 ≤ count then
    let spare := Nat.pow 2 (count - 8)
    ⟨bits % spare, count - 8, UInt8.ofNat (bits / spare) :: r.bytes⟩
  else ⟨bits, count, r.bytes⟩

/-- The symbols of a text: of each of its units the low byte counts. -/
def symbolsOf (s : String) : List Char := (Text.units s).map fun u => Char.ofNat (u % 256)

/-- The bytes that a text spells. -/
def decode (s : String) : Bytes :=
  ((((symbolsOf s).takeWhile (· != '=')).filterMap value?).foldl Reading.take {}).bytes.reverse

def symbol (n : Nat) : Char := symbols[n]?.getD '='

/-- The symbols of bytes. -/
def encodeList : Bytes → List Char
  | [] => []
  | [a] => [symbol (a.toNat / 4), symbol (a.toNat % 4 * 16), '=', '=']
  | [a, b] => [symbol (a.toNat / 4), symbol (a.toNat % 4 * 16 + b.toNat / 16), symbol (b.toNat % 16 * 4), '=']
  | a :: b :: c :: rest =>
    symbol (a.toNat / 4) :: symbol (a.toNat % 4 * 16 + b.toNat / 16) :: symbol (b.toNat % 16 * 4 + c.toNat / 64) ::
      symbol (c.toNat % 64) :: encodeList rest

end DataplaneVerdict.Base64
