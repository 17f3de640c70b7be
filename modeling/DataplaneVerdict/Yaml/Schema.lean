import DataplaneVerdict.Text.Base64
import DataplaneVerdict.Yaml.Lexeme
import DataplaneVerdict.Yaml.Timestamp

/-!
# `Yaml.Schema` — the values of scalars

A schema says what the text of a scalar stands for: null, a truth value, a number, a time, bytes, the mark of a merge,
or the text itself.
-/

namespace DataplaneVerdict.Yaml

/-- The way a number is written. -/
inductive Numeral where
  | decimal | binary | octal | hexadecimal | exponent | sexagesimal
deriving DecidableEq, Inhabited

/-- The value of a scalar. -/
inductive ScalarValue where
  | null
  | bool (b : Bool)
  | number (n : Number) (numeral : Numeral) (fractionDigits : Nat)
  | text (s : String)
  | bytes (b : Bytes)
  | time (ms : Int)
  | merge
deriving Inhabited

namespace ScalarValue

def sameKey : ScalarValue → ScalarValue → Bool
  | null, null => true
  | bool a, bool b => a == b
  | number a _ _, number b _ _ => Number.eq a b
  | text a, text b => a == b
  | _, _ => false

end ScalarValue

/-- The two versions of the language. -/
inductive Schema where
  | core
  | legacy
deriving DecidableEq, Inhabited

def standardTag (name : String) : String := "tag:yaml.org,2002:" ++ name

namespace Schema

def someAll (test : Char → Bool) (cs : List Char) : Bool := !cs.isEmpty && cs.all test

def unsign : List Char → Bool × List Char
  | '-' :: r => (true, r)
  | '+' :: r => (false, r)
  | r => (false, r)

/-- A number without its underscores. -/
def bare (cs : List Char) : List Char := cs.filter (· != '_')

def orUnderscore (test : Char → Bool) (c : Char) : Bool := test c || c = '_'

def isOctal (c : Char) : Bool := '0' ≤ c && c ≤ '7'

def inBase (numeral : Numeral) (base : Nat) (negative : Bool) (cs : List Char) : ScalarValue :=
  let n : Number := match Number.natOfBase base cs with
    | some n => Number.ofNat n
    | none => .nan
  .number (if negative then n.neg else n) numeral 0

def null? (s : String) : Option ScalarValue :=
  if ["", "~", "null", "Null", "NULL"].contains s then some .null else none

def bool? (schema : Schema) (s : String) : Option ScalarValue :=
  let yes := ["true", "True", "TRUE"]
  let no := ["false", "False", "FALSE"]
  let (yes, no) := match schema with
    | .core => (yes, no)
    | .legacy => (yes ++ ["Y", "y", "yes", "Yes", "YES", "on", "On", "ON"],
      no ++ ["N", "n", "no", "No", "NO", "off", "Off", "OFF"])
  if yes.contains s then some (.bool true) else if no.contains s then some (.bool false) else none

def int? (schema : Schema) (s : String) : Option ScalarValue :=
  let cs := s.toList
  let (negative, body) := unsign cs
  match schema with
  | .core =>
    match cs with
    | '0' :: 'o' :: r => if someAll isOctal r then some (inBase .octal 8 false r) else none
    | '0' :: 'x' :: r => if someAll (fun c => isHex (some c)) r then some (inBase .hexadecimal 16 false r) else none
    | _ => if someAll Number.isDigit body then some (inBase .decimal 10 negative body) else none
  | .legacy =>
    match body with
    | '0' :: 'b' :: r =>
      if someAll (orUnderscore fun c => c = '0' || c = '1') r then some (inBase .binary 2 negative (bare r)) else none
    | '0' :: 'x' :: r =>
      if someAll (orUnderscore fun c => isHex (some c)) r then some (inBase .hexadecimal 16 negative (bare r)) else none
    | '0' :: r =>
      if someAll (orUnderscore isOctal) r then some (inBase .octal 8 negative (bare r))
      else if r.all (orUnderscore Number.isDigit) then some (inBase .decimal 10 negative (bare body))
      else none
    | c :: r =>
      if Number.isDigit c && r.all (orUnderscore Number.isDigit) then some (inBase .decimal 10 negative (bare body))
      else none
    | [] => none

def shownDigits (fraction : List Char) : Nat := if fraction.getLast? = some '0' then fraction.length else 0

def float? (schema : Schema) (s : String) : Option ScalarValue :=
  let cs := s.toList
  let (negative, body) := unsign cs
  if [".inf", ".Inf", ".INF"].contains (String.ofList body) then some (.number (.infinity negative) .decimal 0)
  else if [".nan", ".NaN", ".NAN"].contains s then some (.number .nan .decimal 0)
  else
    let digit (c : Char) : Bool := Number.isDigit c || (schema = .legacy && c = '_')
    let whole := body.takeWhile digit
    let wholeOk := whole.isEmpty || (whole.head?.map Number.isDigit) = some true
    let rest := body.dropWhile digit
    let (point, fraction, rest) := match rest with
      | '.' :: r => (true, r.takeWhile digit, r.dropWhile digit)
      | r => (false, [], r)
    let hasDigits := !whole.isEmpty || !fraction.isEmpty
    let exponent := match rest with
      | [] => some false
      | c :: r =>
        if c = 'e' ∨ c = 'E' then
          if someAll Number.isDigit (unsign r).2 then some true else none
        else none
    match exponent with
    | none => none
    | some hasExponent =>
      let shape := match schema with
        | .core => hasDigits && (point || hasExponent)
        | .legacy => wholeOk && (point || hasExponent)
      let n := (Number.readUnsigned negative (bare body)).getD .nan
      if shape then
        some (if hasExponent then .number n .exponent 0 else .number n .decimal (shownDigits (bare fraction)))
      else none

def sexagesimal? (s : String) : Option (ScalarValue × Bool) :=
  let (negative, body) := unsign s.toList
  match Text.pieces ':' body with
  | first :: g :: gs =>
    let firstOk := (first.head?.map Number.isDigit) = some true && first.all (orUnderscore Number.isDigit)
    let groups := g :: gs
    let last := groups.getLast?.getD []
    let lastRest := last.dropWhile Number.isDigit
    let group (ds : List Char) : Bool :=
      someAll Number.isDigit ds && ds.length ≤ 2 && Number.digitsToNat ds < 60
    let lastOk := group (last.takeWhile Number.isDigit) && (lastRest.isEmpty ||
      (lastRest.head? = some '.' && (lastRest.drop 1).all (orUnderscore Number.isDigit)))
    if firstOk && groups.dropLast.all group && lastOk then
      let n := (first :: groups).foldl (fun acc ds =>
        Number.add (Number.mul acc 60) (Number.ofText (String.ofList (bare ds)))) 0
      some (.number (if negative then n.neg else n) .sexagesimal 0, !lastRest.isEmpty)
    else none
  | _ => none

def intSexagesimal? (schema : Schema) (s : String) : Option ScalarValue :=
  if schema = .legacy then ((sexagesimal? s).filter fun r => !r.2).map (·.1) else none

def floatSexagesimal? (schema : Schema) (s : String) : Option ScalarValue :=
  if schema = .legacy then ((sexagesimal? s).filter fun r => r.2).map (·.1) else none

def firstOf (readings : List (Unit → Option ScalarValue)) : Option ScalarValue :=
  readings.foldl (fun found r => found.orElse r) none

def plain? (schema : Schema) (atKey : Bool) (s : String) : Option ScalarValue :=
  firstOf ([fun _ => null? s, fun _ => schema.bool? s, fun _ => schema.int? s, fun _ => schema.float? s] ++
    match schema with
    | .core => []
    | .legacy =>
      [fun _ => if atKey && s = "<<" then some .merge else none, fun _ => (sexagesimal? s).map (·.1),
        fun _ => (Timestamp.read? s).map .time])

/-- The value of a plain scalar: a text, if nothing else fits. -/
def plain (schema : Schema) (atKey : Bool) (s : String) : ScalarValue := (schema.plain? atKey s).getD (.text s)

/-- Names that every object has, so that a tag may not take them. -/
def reservedTags : List String :=
  ["toString", "valueOf", "constructor", "hasOwnProperty", "isPrototypeOf", "propertyIsEnumerable", "toLocaleString",
   "__defineGetter__", "__defineSetter__", "__lookupGetter__", "__lookupSetter__", "__proto__"]

def tagged (schema : Schema) (tag s : String) : Except String ScalarValue :=
  let orText (readings : List (Unit → Option ScalarValue)) : Except String ScalarValue :=
    .ok ((firstOf readings).getD (.text s))
  if tag = standardTag "null" then orText [fun _ => null? s]
  else if tag = standardTag "bool" then orText [fun _ => schema.bool? s]
  else if tag = standardTag "int" then orText [fun _ => schema.int? s, fun _ => schema.intSexagesimal? s]
  else if tag = standardTag "float" then orText [fun _ => schema.float? s, fun _ => schema.floatSexagesimal? s]
  else if tag = standardTag "binary" then .ok (.bytes (Base64.decode s))
  else if tag = standardTag "timestamp" then
    match Timestamp.read? s, schema with
    | some ms, _ => .ok (.time ms)
    | none, .core => .error "!!timestamp expects a date, starting with yyyy-mm-dd"
    | none, .legacy => .ok (.text s)
  else if tag = standardTag "merge" then .ok (if schema = .core || s = "<<" then .merge else .text s)
  else if reservedTags.contains tag then .error "The tag resolves to nothing that reads a scalar"
  else .ok (.text s)

end Schema

end DataplaneVerdict.Yaml
