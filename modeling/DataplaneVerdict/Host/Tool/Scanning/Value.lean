import DataplaneVerdict.Host.Directive
import DataplaneVerdict.Host.Octets

/-!
# `Host.Tool.Scanning.Value` — values of scanning programs

A value is a number or a text. Text from outside that looks like a number is compared as one. A variable that was
never set is both zero and the empty text.
-/

namespace DataplaneVerdict.Host.Tool.Scanning

/-- A value. A text that came from outside may also count as a number. -/
inductive Value where
  | unset
  | number (x : Float)
  | text (s : Octets)
  | input (s : Octets)
deriving Inhabited

def looksNumeric? (s : Octets) : Option Float :=
  let isSpace (c : Char) : Bool := c = ' ' || ('\t' ≤ c && c ≤ '\r')
  let start := s.toList.dropWhile isSpace
  let body := (start.reverse.dropWhile isSpace).reverse
  match body, body.getLast? with
  | c :: _, some e =>
    if (c.isDigit || c = '.' || c = '+' || c = '-') && (e.isDigit || e = '.') then
      match Numeral.scan body with
      | some r => if r.rest.isEmpty then some r.value else none
      | none => none
    else none
  | _, _ => none

/-- The number that a text begins with, or zero. -/
def leadingNumber (s : Octets) : Float :=
  match Numeral.scan s.toList with
  | some r => r.value
  | none => 0

namespace Value

def toFloat : Value → Float
  | unset => 0
  | number x => x
  | text s => leadingNumber s
  | input s => leadingNumber s

end Value

/-! ## Conversion -/

def greatest : Nat := 9223372036854775807

/-- A number without its fraction, as far as one fits. -/
def whole (x : Float) : Int :=
  match Numeral.exactValue? x with
  | none => if x.isNaN then 0 else if Numeral.isNegative x then -(greatest : Int) else greatest
  | some v =>
    let (n, d) := v.fraction
    let q := min (n / d) greatest
    if Numeral.isNegative x then -(q : Int) else q

def exactWhole? (x : Float) : Option Int :=
  match Numeral.exactValue? x with
  | none => none
  | some v =>
    let (n, d) := v.fraction
    if n % d ≠ 0 then none
    else
      let q := n / d
      if Numeral.isNegative x then (if q ≤ Nat.pow 2 63 then some (-(min q greatest : Nat)) else none)
      else if q < Nat.pow 2 63 then some q
      else if q ≤ Nat.pow 2 64 then some (min q (Nat.pow 2 64 - 1) : Nat)
      else none

/-- A number as it is printed. -/
def numberText (x : Float) : Octets :=
  match exactWhole? x with
  | some n => toString n
  | none =>
    let d : Directive := { precision := some 6 }
    String.ofList (if x.isNaN then d.filled false ['-'] "nan".toList else d.real 'g' x)

namespace Value

def toText : Value → Octets
  | unset => ""
  | number x => numberText x
  | text s => s
  | input s => s

/-! ## Conditions -/

def isTrue : Value → Bool
  | unset => false
  | number x => x != 0
  | text s => !s.isEmpty
  | input s =>
    match looksNumeric? s with
    | some x => x != 0
    | none => !s.isEmpty

def number? : Value → Option Float
  | unset => some 0
  | number x => some x
  | text _ => none
  | input s => looksNumeric? s

/-- Compares as numbers if both are, else as texts. -/
def related (a b : Value) (ofNumbers : Float → Float → Bool) (ofOrder : Ordering → Bool) : Bool :=
  match a.number?, b.number? with
  | some x, some y => ofNumbers x y
  | _, _ => ofOrder (compare a.toText b.toText)

end Value

end DataplaneVerdict.Host.Tool.Scanning
