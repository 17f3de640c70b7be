import DataplaneVerdict.Host.Numeral

/-!
# `Host.Directive` — formatted output

A directive in a format says how a value is written: flags, a least width, a precision and a letter for the kind.
-/

namespace DataplaneVerdict.Host

/-- A width or a precision as it is written. -/
inductive Measure where
  | none
  | given (n : Nat)
  | argument
deriving DecidableEq, Inhabited

/-- How a value is to be written. -/
structure Directive where
  left : Bool := false
  plus : Bool := false
  space : Bool := false
  alternate : Bool := false
  zero : Bool := false
  width : Nat := 0
  precision : Option Nat := none
deriving Inhabited

namespace Directive

/-- A directive as it stands in a format, and the text behind it. -/
structure Written where
  flags : List Char
  width : Measure
  precision : Measure
  rest : List Char

def scanMeasure : List Char → Measure × List Char
  | '*' :: rest => (.argument, rest)
  | cs =>
    let ds := cs.takeWhile Char.isDigit
    if ds.isEmpty then (.none, cs)
    else (.given (ds.foldl (fun n c => n * 10 + (c.toNat - 48)) 0), cs.drop ds.length)

def scan (flagChars : List Char) (cs : List Char) : Written :=
  let flags := cs.takeWhile flagChars.contains
  let (width, rest) := scanMeasure (cs.drop flags.length)
  match rest with
  | '.' :: rest =>
    let (precision, rest) := scanMeasure rest
    ⟨flags, width, if precision = .none then .given 0 else precision, rest⟩
  | rest => ⟨flags, width, .none, rest⟩

/-- A directive with the measures that are arguments filled in; a negative width is one on the left. -/
def ofWritten (w : Written) (width precision : Option Int) : Directive :=
  let flag (c : Char) : Bool := w.flags.contains c
  let given (m : Measure) (argument : Option Int) : Option Int :=
    match m with
    | .none => none
    | .given n => some n
    | .argument => some (argument.getD 0)
  let width := (given w.width width).getD 0
  { left := flag '-' || width < 0
    plus := flag '+'
    space := flag ' '
    alternate := flag '#'
    zero := flag '0'
    width := width.natAbs
    precision := (given w.precision precision).bind fun p => if p < 0 then none else some p.toNat }

/-- Blanks up to the width. -/
def pad (d : Directive) (cs : List Char) : List Char :=
  let blanks := List.replicate (d.width - cs.length) ' '
  if d.left then cs ++ blanks else blanks ++ cs

def text (d : Directive) (cs : List Char) : List Char :=
  d.pad (match d.precision with
    | some p => cs.take p
    | none => cs)

def sign (d : Directive) (negative : Bool) : List Char :=
  if negative then ['-'] else if d.plus then ['+'] else if d.space then [' '] else []

/-- A sign and digits, with zeros or blanks up to the width. -/
def filled (d : Directive) (withZeros : Bool) (front body : List Char) : List Char :=
  if withZeros && d.zero && !d.left then
    front ++ Numeral.zeros (d.width - front.length - body.length) ++ body
  else d.pad (front ++ body)

def signed (d : Directive) (n : Int) : List Char :=
  let ds := if n = 0 && d.precision = some 0 then [] else Numeral.digits n.natAbs
  let ds := Numeral.padded (d.precision.getD 0) ds
  d.filled d.precision.isNone (d.sign (n < 0)) ds

/-- A number in the base that the letter names. -/
def unsigned (d : Directive) (kind : Char) (n : Nat) : List Char :=
  let base := if kind = 'o' then 8 else if kind = 'u' then 10 else 16
  let ds := if n = 0 && d.precision = some 0 then [] else Nat.toDigits base n
  let ds := if kind = 'X' then ds.map Char.toUpper else ds
  let ds := Numeral.padded (d.precision.getD 0) ds
  let ds := if d.alternate && kind = 'o' && ds.head? ≠ some '0' then '0' :: ds else ds
  let front := if d.alternate && n ≠ 0 && kind = 'x' then ['0', 'x']
    else if d.alternate && n ≠ 0 && kind = 'X' then ['0', 'X'] else []
  d.filled d.precision.isNone front ds

/-- A number with a fraction, in the notation that the letter names. -/
def finite (d : Directive) (kind : Char) (negative : Bool) (v : Numeral.Exact) : List Char :=
  let lower := kind.toLower
  let upper (cs : List Char) : List Char := if kind.isUpper then cs.map Char.toUpper else cs
  let places := d.precision.getD 6
  let body := if lower = 'f' then Numeral.fixed v places d.alternate
    else if lower = 'e' then Numeral.scientific v places d.alternate
    else Numeral.general v places d.alternate
  d.filled true (d.sign negative) (upper body)

/-- What is written for a value that is no number. -/
def word (d : Directive) (kind : Char) (negative : Bool) (text : String) : List Char :=
  d.filled false (d.sign negative) (if kind.isUpper then text.toList.map Char.toUpper else text.toList)

def real (d : Directive) (kind : Char) (x : Float) : List Char :=
  let negative := Numeral.isNegative x
  match Numeral.exactValue? x with
  | none => d.word kind negative (if x.isNaN then "nan" else "inf")
  | some v => d.finite kind negative v

end Directive

end DataplaneVerdict.Host
