import DataplaneVerdict.Schema.Issue

/-!
# `Schema.Check` — checking values against a schema

A `Check α` turns a value into an `α` or lists every issue it finds. Checks of different fields are independent:
all of them run, and their issues come in the order of the fields, unknown keys last.

## Contents
- **Leaves.** Texts, numbers, choices, literals, lists of texts.
- **Objects.** `Check.strict` reads fields with a `Check.Fields` and refuses all others.
- **Optional values.** `Check.orDefault`, `Check.optional`.
-/

namespace DataplaneVerdict

/-- The outcome of a check: a result, or what is wrong. -/
abbrev Checked (α : Type) := Except (List Issue) α

/-- A check of a value. -/
abbrev Check (α : Type) := Value → Checked α

namespace Checked

/-- Refuses with one cause at the value itself. -/
def fail {α : Type} (c : Cause) : Checked α := .error [⟨[], c⟩]

def issues {α : Type} : Checked α → List Issue
  | .ok _ => []
  | .error is => is

/-- Moves the issues one step inwards. -/
def within {α : Type} (step : Step) : Checked α → Checked α
  | .ok a => .ok a
  | .error is => .error (is.map (Issue.within step))

/-- Both results, or the issues of both. -/
def both {α β : Type} (a : Checked α) (b : Checked β) : Checked (α × β) :=
  match a, b with
  | .ok x, .ok y => .ok (x, y)
  | .ok _, .error is => .error is
  | .error is, .ok _ => .error is
  | .error is, .error js => .error (is ++ js)

/-- The result unless there are further issues. -/
def alsoRefusing {α : Type} (a : Checked α) (further : List Issue) : Checked α :=
  match a with
  | .ok x => if further.isEmpty then .ok x else .error further
  | .error is => .error (is ++ further)

end Checked

namespace Check

/-! ## Leaves -/

def text : Check String
  | .str s => .ok s
  | v => Checked.fail (.kind .string v.kind)

/-- A text with at least one character. -/
def nonEmptyText : Check String
  | .str s => if s.isEmpty then Checked.fail (.textTooShort 1) else .ok s
  | v => Checked.fail (.kind .string v.kind)

/-- The issues that a number has as a whole number between bounds; each bound is checked on its own. -/
def rangeIssues (least : Nat) (greatest : Option Nat) (n : Number) : List Issue :=
  (if n.isInteger then [] else [⟨[], .notWhole⟩]) ++
    (if Number.lt n (Number.ofNat least) then [⟨[], .numberTooSmall least⟩] else []) ++
    (match greatest with
      | some g => if Number.lt (Number.ofNat g) n then [⟨[], .numberTooBig g⟩] else []
      | none => [])

/-- A whole number between bounds. -/
def wholeNumber (least : Nat) (greatest : Option Nat) : Check Number
  | .num .nan => Checked.fail (.kind .number .nan)
  | .num n =>
    let issues := rangeIssues least greatest n
    if issues.isEmpty then .ok n else .error issues
  | v => Checked.fail (.kind .number v.kind)

/-- One of some texts. -/
def choice {α : Type} (options : List String) (read : String → Option α) : Check α
  | .str s =>
    match read s with
    | some a => .ok a
    | none => Checked.fail (.choice options s)
  | v => Checked.fail (.choiceKind options v.kind)

def literal {α : Type} (expected : String) (result : α) : Check α
  | .str s => if s = expected then .ok result else Checked.fail (.literal expected)
  | _ => Checked.fail (.literal expected)

/-! ## Lists -/

/-- The items of a list from position `i` on, all of them texts. -/
def textItems (i : Nat) : List Value → Checked (List String)
  | [] => .ok []
  | v :: rest =>
    match Checked.both ((text v).within (.item i)) (textItems (i + 1) rest) with
    | .ok (s, ss) => .ok (s :: ss)
    | .error is => .error is

/-- A list of texts with at least `least` items. -/
def texts (least : Nat) : Check (List String)
  | .list items =>
    let short : List Issue := if items.length < least then [⟨[], .listTooShort least⟩] else []
    match textItems 0 items with
    | .ok ss => if short.isEmpty then .ok ss else .error short
    | .error is => .error (short ++ is)
  | v => Checked.fail (.kind .array v.kind)

/-! ## Optional values -/

/-- An absent value takes the default. -/
def orDefault {α : Type} (default : α) (check : Check α) : Check α
  | .undefined => .ok default
  | v => check v

/-- An absent value is accepted. -/
def optional {α : Type} (check : Check α) : Check (Option α)
  | .undefined => .ok none
  | v => (check v).map some

/-! ## Objects -/

abbrev Fields := List (String × Value)

/-- Checks the field of that name. -/
def field {α : Type} (name : String) (check : Check α) (fields : Fields) : Checked α :=
  (check (Value.field name fields)).within (.field name)

/-- The issue of keys that are not among the known ones. -/
def strangers (known : List String) (fields : Fields) : List Issue :=
  let keys := ((Value.orderFields fields).map (·.1)).filter fun k => !known.contains k
  if keys.isEmpty then [] else [⟨[], .unknownKeys keys⟩]

/-- An object with only the known fields. -/
def strict {α : Type} (known : List String) (read : Fields → Checked α) : Check α
  | .object fields => (read fields).alsoRefusing (strangers known fields)
  | v => Checked.fail (.kind .object v.kind)

end Check

end DataplaneVerdict
