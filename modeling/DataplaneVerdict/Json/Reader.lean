import DataplaneVerdict.Value.Basic

/-!
# `Json.Reader` — JSON text as values

`Json.parse?` reads one JSON value that fills the text, white space around tokens allowed. Fields keep the
order in which they are written; of two fields with one name the later value stays in the earlier place.

The reader descends on a fuel argument of one unit for each character, which no document can exhaust because
every step consumes at least one character.
-/

namespace DataplaneVerdict.Json

open DataplaneVerdict.Number (digitValue isDigit digitsToNat spanDigits)

def isSpace (c : Char) : Bool := c = ' ' || c = '\n' || c = '\r' || c = '\t'

def skipSpace (cs : List Char) : List Char := cs.dropWhile isSpace

/-- The value of four hexadecimal digits. -/
def hex4 (a b c d : Char) : Option Nat :=
  match digitValue a, digitValue b, digitValue c, digitValue d with
  | some a, some b, some c, some d => some (((a * 16 + b) * 16 + c) * 16 + d)
  | _, _, _, _ => none

/-- The character that a one-letter escape stands for. -/
def escape? : Char → Option Char
  | '"' => some '"'
  | '\\' => some '\\'
  | '/' => some '/'
  | 'b' => some '\x08'
  | 'f' => some '\x0c'
  | 'n' => some '\n'
  | 'r' => some '\r'
  | 't' => some '\t'
  | _ => none

/-- The characters read so far when a high surrogate waits no longer for its partner. -/
def settle (high : Option Nat) (acc : List Char) : List Char :=
  match high with
  | none => acc
  | some _ => '�' :: acc

/-- The rest of a quoted text. `acc` holds the characters read so far, latest first, and `high` a high surrogate
that waits for its partner; a surrogate without a partner becomes the replacement character. -/
def readText (acc : List Char) (high : Option Nat) : List Char → Option (List Char × List Char)
  | [] => none
  | '"' :: rest => some ((settle high acc).reverse, rest)
  | '\\' :: 'u' :: a :: b :: c :: d :: rest =>
    match hex4 a b c d with
    | none => none
    | some n =>
      if 0xD800 ≤ n ∧ n < 0xDC00 then readText (settle high acc) (some n) rest
      else if 0xDC00 ≤ n ∧ n < 0xE000 then
        match high with
        | some h => readText (Char.ofNat (0x10000 + (h - 0xD800) * 0x400 + (n - 0xDC00)) :: acc) none rest
        | none => readText ('�' :: acc) none rest
      else readText (Char.ofNat n :: settle high acc) none rest
  | '\\' :: c :: rest =>
    match escape? c with
    | none => none
    | some e => readText (e :: settle high acc) none rest
  | c :: rest => if c.toNat < 0x20 then none else readText (c :: settle high acc) none rest

/-- What follows a sign, and whether the sign is a minus. -/
def signPart : List Char → Bool × List Char
  | '-' :: r => (true, r)
  | '+' :: r => (false, r)
  | r => (false, r)

/-- The digits behind a decimal point, none if there is no point. -/
def fractionPart : List Char → Option (List Char × List Char)
  | '.' :: r =>
    let (f, r) := spanDigits r
    if f.isEmpty then none else some (f, r)
  | r => some ([], r)

/-- The exponent behind an `e`, zero if there is no exponent. -/
def exponentPart : List Char → Option (Int × List Char)
  | c :: r =>
    if c = 'e' ∨ c = 'E' then
      let (minus, r) := signPart r
      let (e, r) := spanDigits r
      if e.isEmpty then none
      else some ((if minus then -(digitsToNat e : Int) else (digitsToNat e : Int)), r)
    else some (0, c :: r)
  | [] => some (0, [])

/-- A number without its sign: digits without a superfluous leading zero, an optional fraction, an optional exponent. -/
def readMagnitude (negative : Bool) (cs : List Char) : Option (Number × List Char) :=
  let (whole, rest) := spanDigits cs
  if whole.isEmpty || (whole.head? = some '0' && 1 < whole.length) then none
  else
    match fractionPart rest with
    | none => none
    | some (fraction, rest) =>
      (exponentPart rest).map fun (e, r) =>
        (Number.ofDecimal negative (digitsToNat (whole ++ fraction)) (e - (fraction.length : Int)), r)

/-- A number, a minus before it or not. -/
def readNumber : List Char → Option (Number × List Char)
  | '-' :: r => readMagnitude true r
  | r => readMagnitude false r

mutual

/-- One value and what follows it; the text starts with the value itself. -/
def readValue : Nat → List Char → Option (Value × List Char)
  | 0, _ => none
  | fuel + 1, cs =>
    match cs with
    | 'n' :: 'u' :: 'l' :: 'l' :: rest => some (.null, rest)
    | 't' :: 'r' :: 'u' :: 'e' :: rest => some (.bool true, rest)
    | 'f' :: 'a' :: 'l' :: 's' :: 'e' :: rest => some (.bool false, rest)
    | '"' :: rest => (readText [] none rest).map fun (s, r) => (.str (String.ofList s), r)
    | '[' :: rest =>
      match skipSpace rest with
      | ']' :: r => some (.list [], r)
      | r => readItems fuel [] r
    | '{' :: rest =>
      match skipSpace rest with
      | '}' :: r => some (.object [], r)
      | r => readFields fuel [] r
    | rest => (readNumber rest).map fun (n, r) => (.num n, r)

/-- The remaining items of a list, at least one, and the closing bracket. -/
def readItems : Nat → List Value → List Char → Option (Value × List Char)
  | 0, _, _ => none
  | fuel + 1, acc, cs =>
    match readValue fuel cs with
    | none => none
    | some (v, rest) =>
      match skipSpace rest with
      | ',' :: r => readItems fuel (v :: acc) (skipSpace r)
      | ']' :: r => some (.list (v :: acc).reverse, r)
      | _ => none

/-- The remaining fields of an object, at least one, and the closing brace. -/
def readFields : Nat → List (String × Value) → List Char → Option (Value × List Char)
  | 0, _, _ => none
  | fuel + 1, acc, cs =>
    match cs with
    | '"' :: rest =>
      match readText [] none rest with
      | none => none
      | some (k, rest) =>
        match skipSpace rest with
        | ':' :: rest =>
          match readValue fuel (skipSpace rest) with
          | none => none
          | some (v, rest) =>
            let acc := Value.setField (String.ofList k) v acc
            match skipSpace rest with
            | ',' :: r => readFields fuel acc (skipSpace r)
            | '}' :: r => some (.object acc, r)
            | _ => none
        | _ => none
    | _ => none

end

/-- The value that a whole text denotes. -/
def parse? (text : String) : Option Value :=
  let cs := skipSpace text.toList
  match readValue (cs.length + 1) cs with
  | some (v, rest) => if (skipSpace rest).isEmpty then some v else none
  | none => none

end DataplaneVerdict.Json
