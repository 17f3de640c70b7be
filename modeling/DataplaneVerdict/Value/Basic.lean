import DataplaneVerdict.Number.Decimal
import DataplaneVerdict.Text.Search

/-!
# `Value.Basic` — data of unknown shape

Configuration files, report drafts and thrown values arrive as data whose shape is not known in advance.
A `Value` is such data; the schemas turn it into the library's own types or into a list of issues.

## Contents
- **Values.** `Value`, and `Kind` with the name that messages use for each kind of value.
- **Objects.** Fields keep their order; `Value.orderFields` puts keys that are list indices first.
- **Text and number.** `Value.text` and `Value.toNumber`, the readings used where a text or a number is wanted;
  `Value.hasText` tells the values that have them, and `Value.text?` asks first.
-/

namespace DataplaneVerdict

/-- The kinds of values that messages tell apart. -/
inductive Kind where
  | undefined | null | boolean | number | nan | string | array | object | set | map | date | symbol
deriving DecidableEq, Inhabited

def Kind.name : Kind → String
  | undefined => "undefined"
  | null => "null"
  | boolean => "boolean"
  | number => "number"
  | nan => "nan"
  | string => "string"
  | array => "array"
  | object => "object"
  | set => "set"
  | map => "map"
  | date => "date"
  | symbol => "symbol"

/-- Data of unknown shape. `undefined` is an absent value; `special` is one of the kinds whose contents
nothing here looks into. -/
inductive Value where
  | undefined
  | null
  | bool (b : Bool)
  | num (n : Number)
  | str (s : String)
  | list (items : List Value)
  | object (fields : List (String × Value))
  | special (kind : Kind)
deriving Inhabited

namespace Value

def kind : Value → Kind
  | undefined => .undefined
  | null => .null
  | bool _ => .boolean
  | num .nan => .nan
  | num _ => .number
  | str _ => .string
  | list _ => .array
  | object _ => .object
  | special k => k

/-- The value of the first field of that name, `undefined` if there is none. -/
def field (name : String) (fields : List (String × Value)) : Value :=
  (fields.lookup name).getD undefined

/-! ## Order of fields -/

/-- The list index that a key spells canonically: no sign, no leading zero, below 2³² - 1. -/
def index? (key : String) : Option Nat :=
  let cs := key.toList
  if cs.isEmpty || !cs.all Number.isDigit then none
  else if cs.head? = some '0' && 1 < cs.length then none
  else
    let n := Number.digitsToNat cs
    if n < 4294967295 then some n else none

/-- Keys that are list indices first, in numeric order, then the others in the order given. -/
def orderFields {α : Type} (fields : List (String × α)) : List (String × α) :=
  let indices := fields.filterMap fun f => (index? f.1).map fun n => (n, f)
  (indices.mergeSort fun a b => a.1 ≤ b.1).map (·.2) ++ fields.filter fun f => (index? f.1).isNone

/-- Sets a field: a new one goes to the end, an existing one keeps its place. -/
def setField {α : Type} (name : String) (v : α) : List (String × α) → List (String × α)
  | [] => [(name, v)]
  | (k, w) :: rest => if k = name then (k, v) :: rest else (k, w) :: setField name v rest

/-! ## Text -/

mutual

/-- The text of a value where a text is wanted: lists are joined by commas, objects show no contents. -/
def text : Value → String
  | undefined => "undefined"
  | null => "null"
  | bool true => "true"
  | bool false => "false"
  | num n => n.text
  | str s => s
  | list items => Text.join "," (itemTexts items)
  | object _ => "[object Object]"
  | special _ => "[object Object]"

/-- The texts of list items; absent and null ones are empty. -/
def itemTexts : List Value → List String
  | [] => []
  | null :: rest => "" :: itemTexts rest
  | undefined :: rest => "" :: itemTexts rest
  | v :: rest => text v :: itemTexts rest

end

mutual

/-- Whether a value can be read as a text, and so as a number. An object with a field of its own in place of the
conversion cannot, and neither can a list that holds such an object. -/
def hasText : Value → Bool
  | list items => allHaveText items
  | object fields => (fields.lookup "toString").isNone
  | _ => true

/-- Whether all items of a list can be read as texts. -/
def allHaveText : List Value → Bool
  | [] => true
  | v :: rest => hasText v && allHaveText rest

end

/-- The text of a value that has one. -/
def text? (v : Value) : Option String := if v.hasText then some v.text else none

/-- The number that a value stands for where a number is wanted. -/
def toNumber : Value → Number
  | undefined => .nan
  | null => 0
  | bool b => if b then 1 else 0
  | num n => n
  | str s => Number.ofText s
  | list items => Number.ofText (text (list items))
  | object _ => .nan
  | special _ => .nan

end Value

end DataplaneVerdict
