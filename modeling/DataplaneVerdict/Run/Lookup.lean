import DataplaneVerdict.Run.Phase
import DataplaneVerdict.Value.Basic

/-!
# `Run.Lookup` — the transition table asked for arbitrary names

The table is a record of records: phases lead to rows, and a row leads from events to phases. It can be asked for any
name. A name that is neither a phase nor an event may still be one of the members that every record has; such a member
counts as present, although it is no phase. Only a name that leads nowhere at all is refused.

## Contents
- **Members.** `Member` is what a name can stand for, `Member.read` asks one for a name.
- **Transitions.** `Transition.look` answers for a phase and an event of any shape.
- **Runs.** `RunRecord.advance` moves a run whose fields are data of any shape.
-/

namespace DataplaneVerdict

/-- What a name can stand for. -/
inductive Member where
  | row (p : Phase)
  | operation (name : String) (parameters : Nat)
  /-- the record that all others take their common members from -/
  | root
  | plain (v : Value)

inductive Reading where
  | absent
  | present (m : Member)
  /-- there is a member of that name, and reading it fails -/
  | barred

namespace Member

/-- The maker of records, itself one of their members. -/
def maker : Member := operation "Object" 1

/-- The members that every record has, without the one that names where they come from. -/
def common : List (String × Member) :=
  ("constructor", maker) ::
    [("__defineGetter__", 2), ("__defineSetter__", 2), ("hasOwnProperty", 1), ("__lookupGetter__", 1),
     ("__lookupSetter__", 1), ("isPrototypeOf", 1), ("propertyIsEnumerable", 1), ("toString", 0), ("valueOf", 0),
     ("toLocaleString", 0)].map fun (name, n) => (name, operation name n)

/-- The name under which a record names the one that it takes its common members from. -/
def parentName : String := "__proto__"

def ofOperations : List (String × Member) :=
  [("apply", operation "apply" 2), ("bind", operation "bind" 1), ("call", operation "call" 1),
   ("constructor", operation "Function" 1), (parentName, operation "" 0)]

def ofMaker : List (String × Member) :=
  [("assign", 2), ("getOwnPropertyDescriptor", 2), ("getOwnPropertyDescriptors", 1), ("getOwnPropertyNames", 1),
   ("getOwnPropertySymbols", 1), ("hasOwn", 2), ("is", 2), ("preventExtensions", 1), ("seal", 1), ("create", 2),
   ("defineProperties", 2), ("defineProperty", 3), ("freeze", 1), ("getPrototypeOf", 1), ("setPrototypeOf", 2),
   ("isExtensible", 1), ("isFrozen", 1), ("isSealed", 1), ("keys", 1), ("entries", 1), ("fromEntries", 1),
   ("values", 1), ("groupBy", 2)].map fun (name, n) => (name, operation name n)

/-- The members of an operation of its own: what it is called, how many parameters it has, and more for the maker. -/
def ofOperation (name : String) (parameters : Nat) : List (String × Member) :=
  [("name", plain (.str name)), ("length", plain (.num (Number.ofNat parameters)))] ++
    (if name = "Object" then ("prototype", root) :: ofMaker else [])

/-- The members of an operation that exist and cannot be read. -/
def barredNames : List String := ["arguments", "caller"]

def found : Option Member → Reading
  | some m => .present m
  | none => .absent

/-- Asks for a name. A row knows the events that its phase allows before all else. -/
def read (m : Member) (key : String) : Reading :=
  match m with
  | row p =>
    match (Event.ofName? key).bind p.next? with
    | some q => .present (plain (.str q.name))
    | none => if key = parentName then .present root else found (common.lookup key)
  | operation name n =>
    if barredNames.contains key then .barred
    else found ((ofOperation name n ++ ofOperations ++ common).lookup key)
  | root => if key = parentName then .present (plain .null) else found (common.lookup key)
  | plain _ => .absent

def ofTable? (key : String) : Option Member :=
  match Phase.ofName? key with
  | some p => some (row p)
  | none => if key = parentName then some root else common.lookup key

/-- A member as data: an operation is none, and a record shows no fields. -/
def toValue : Member → Value
  | row _ => .object []
  | operation _ _ => .undefined
  | root => .object []
  | plain v => v

end Member

/-- What the table says about a phase and an event. -/
structure Transition where
  can : Bool
  next : Option Member

namespace Transition

def isTerminal : Value → Bool
  | .str s => s = Phase.done.name
  | _ => false

/-- Asks the table; `none` if it has nothing under the phase, or what it has cannot be read. -/
def look (phase event : Value) : Option Transition :=
  match phase.text?.bind Member.ofTable?, event.text? with
  | some m, some key =>
    match m.read key with
    | .absent => some ⟨false, none⟩
    | .present (.plain .null) => some ⟨true, none⟩
    | .present next => some ⟨true, some next⟩
    | .barred => none
  | _, _ => none

end Transition

/-- A run as data: the fields of one that may have any shape. -/
abbrev RunRecord := List (String × Value)

namespace RunRecord

inductive Refusal where
  | transition (phase event : Value)
  | unreadable

/-- The items of a history: those of a list, or the characters of a text. -/
def items? : Value → Option (List Value)
  | .list items => some items
  | .str s => some (s.toList.map fun c => .str c.toString)
  | _ => none

def advance (run : RunRecord) (event : Value) : Except Refusal RunRecord :=
  let phase := Value.field "phase" run
  match Transition.look phase event with
  | none => .error .unreadable
  | some ⟨_, none⟩ => .error (.transition phase event)
  | some ⟨_, some next⟩ =>
    match items? (Value.field "history" run) with
    | none => .error .unreadable
    | some items =>
      .ok (Value.setField "history" (.list (items ++ [next.toValue])) (Value.setField "phase" next.toValue run))

end RunRecord

end DataplaneVerdict
