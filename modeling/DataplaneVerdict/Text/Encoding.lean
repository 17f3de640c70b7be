import DataplaneVerdict.Text.Base64

/-!
# `Text.Encoding` — ways to read bytes as text

A file is read as UTF-8 unless another encoding is asked for by name. Every encoding reads every sequence of bytes.

## Contents
- `Encoding`, `Encoding.ofName?` and `Encoding.decode`.
-/

namespace DataplaneVerdict

inductive Encoding where
  | utf8
  /-- units of two bytes, the low one first -/
  | utf16
  | latin1
  /-- one character a byte, of which seven bits count -/
  | ascii
  /-- symbols of six bits -/
  | base64
  /-- symbols of six bits from the alphabet for addresses, without padding -/
  | base64Url
  | hex
deriving DecidableEq

namespace Encoding

def names : List (String × Encoding) :=
  [("utf8", utf8), ("utf-8", utf8), ("ucs2", utf16), ("ucs-2", utf16), ("utf16le", utf16), ("utf-16le", utf16),
   ("latin1", latin1), ("binary", latin1), ("ascii", ascii), ("base64", base64), ("base64url", base64Url), ("hex", hex)]

/-- The encoding of a name, in letters of either case. -/
def ofName? (name : String) : Option Encoding := names.lookup (String.ofList (name.toList.map Char.toLower))

/-- The units that bytes spell, the low byte first; a single byte at the end is none. -/
def unitsOf : Bytes → List Nat
  | low :: high :: rest => (low.toNat + 256 * high.toNat) :: unitsOf rest
  | _ => []

def digit (n : Nat) : Char := if n < 10 then Char.ofNat (48 + n) else Char.ofNat (87 + n)

/-- A symbol of the alphabet for addresses; padding is none. -/
def addressSymbol (c : Char) : Option Char :=
  if c = '=' then none else if c = '+' then some '-' else if c = '/' then some '_' else some c

/-- The characters of bytes. -/
def characters : Encoding → Bytes → List Char
  | utf8, bytes => (Utf8.decode bytes).toList
  | utf16, bytes => Text.ofUnits (unitsOf bytes)
  | latin1, bytes => bytes.map fun b => Char.ofNat b.toNat
  | ascii, bytes => bytes.map fun b => Char.ofNat (b.toNat % 128)
  | base64, bytes => Base64.encodeList bytes
  | base64Url, bytes => (Base64.encodeList bytes).filterMap addressSymbol
  | hex, bytes => bytes.flatMap fun b => [digit (b.toNat / 16), digit (b.toNat % 16)]

def decode (e : Encoding) (bytes : Bytes) : String := String.ofList (e.characters bytes)

end Encoding

end DataplaneVerdict
