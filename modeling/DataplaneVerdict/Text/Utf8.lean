/-!
# `Text.Utf8` — bytes and characters

Decoding never fails: every maximal piece of a malformed sequence becomes one replacement character and
decoding goes on at the byte that broke it. A byte-order mark is an ordinary character.

## Contents
- **Decoder.** `Utf8.Pending` is an unfinished character, `Utf8.Decoder` the state between two bytes, `Utf8.decode`
  the text of all of them.
- **Encoder.** `Utf8.encode` writes a text's bytes.
-/

namespace DataplaneVerdict

/-- A sequence of bytes: the contents of a file or of a process stream. -/
abbrev Bytes := List UInt8

namespace Utf8

/-- The character that stands for a malformed piece. -/
def replacement : Char := '�'

/-- A character of which some bytes are still owed: the bits read so far, how many bytes follow, and the
range the next byte must lie in. -/
structure Pending where
  code : Nat
  owed : Nat
  low : Nat
  high : Nat
deriving DecidableEq

/-- What the first byte of a character leads to: characters to output and perhaps an unfinished one. -/
def first (b : UInt8) : List Char × Option Pending :=
  let n := b.toNat
  if n < 0x80 then ([Char.ofNat n], none)
  else if 0xC2 ≤ n ∧ n ≤ 0xDF then ([], some ⟨n - 0xC0, 1, 0x80, 0xBF⟩)
  else if n = 0xE0 then ([], some ⟨0, 2, 0xA0, 0xBF⟩)
  else if n = 0xED then ([], some ⟨0xD, 2, 0x80, 0x9F⟩)
  else if 0xE1 ≤ n ∧ n ≤ 0xEF then ([], some ⟨n - 0xE0, 2, 0x80, 0xBF⟩)
  else if n = 0xF0 then ([], some ⟨0, 3, 0x90, 0xBF⟩)
  else if n = 0xF4 then ([], some ⟨4, 3, 0x80, 0x8F⟩)
  else if 0xF1 ≤ n ∧ n ≤ 0xF3 then ([], some ⟨n - 0xF0, 3, 0x80, 0xBF⟩)
  else ([replacement], none)

/-- One byte. A byte outside the range that an unfinished character allows ends it as malformed and is
read again as a first byte. -/
def step (state : Option Pending) (b : UInt8) : List Char × Option Pending :=
  match state with
  | none => first b
  | some p =>
    if p.low ≤ b.toNat ∧ b.toNat ≤ p.high then
      let code := p.code * 64 + (b.toNat - 0x80)
      if p.owed ≤ 1 then ([Char.ofNat code], none)
      else ([], some ⟨code, p.owed - 1, 0x80, 0xBF⟩)
    else
      let (out, next) := first b
      (replacement :: out, next)

/-- A decoder between two bytes: the characters read so far, latest first, and perhaps an unfinished one. -/
structure Decoder where
  read : List Char := []
  pending : Option Pending := none

def Decoder.feed (d : Decoder) (b : UInt8) : Decoder :=
  let (out, next) := step d.pending b
  ⟨out.reverse ++ d.read, next⟩

/-- The characters of all bytes taken. An unfinished character at the end is malformed. -/
def Decoder.finish (d : Decoder) : List Char :=
  match d.pending with
  | none => d.read.reverse
  | some _ => (replacement :: d.read).reverse

def decode (bytes : Bytes) : String := String.ofList (bytes.foldl Decoder.feed {}).finish

def encode (text : String) : Bytes := text.toList.flatMap String.utf8EncodeChar

end Utf8

end DataplaneVerdict
