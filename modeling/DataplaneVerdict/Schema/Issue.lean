import DataplaneVerdict.Json.Printer

/-!
# `Schema.Issue` — what a schema finds wrong

## Contents
- **Issues.** An `Issue` is a cause at a path inside the checked value.
- **Wording.** `Issue.message`, the code of each cause, and `Issue.record`, the issue as a JSON object.
- **Lists.** `Issue.line` for one-line summaries and `Issue.report` for the full listing.
-/

namespace DataplaneVerdict

/-- One step into a value. -/
inductive Step where
  | field (name : String)
  | item (index : Nat)
deriving DecidableEq

def Step.text : Step → String
  | field name => name
  | item i => Number.natText i

inductive Cause where
  /-- the value is of another kind, or absent -/
  | kind (expected received : Kind)
  | notWhole
  /-- a value that is no text where one of some texts is wanted -/
  | choiceKind (options : List String) (received : Kind)
  /-- a text that is none of the wanted ones -/
  | choice (options : List String) (received : String)
  | literal (expected : String)
  | textTooShort (least : Nat)
  | listTooShort (least : Nat)
  | numberTooSmall (least : Nat)
  | numberTooBig (greatest : Nat)
  /-- fields that the object must not have -/
  | unknownKeys (keys : List String)
deriving DecidableEq

/-- A cause and where it was found. -/
structure Issue where
  path : List Step
  cause : Cause
deriving DecidableEq

namespace Cause

/-- Texts between apostrophes with something between them. -/
def listed (sep : String) (options : List String) : String :=
  Text.join sep (options.map fun o => "'" ++ o ++ "'")

def code : Cause → String
  | kind _ _ => "invalid_type"
  | notWhole => "invalid_type"
  | choiceKind _ _ => "invalid_type"
  | choice _ _ => "invalid_enum_value"
  | literal _ => "invalid_literal"
  | textTooShort _ => "too_small"
  | listTooShort _ => "too_small"
  | numberTooSmall _ => "too_small"
  | numberTooBig _ => "too_big"
  | unknownKeys _ => "unrecognized_keys"

/-- The wording of a cause. An absent value is only called required. -/
def message : Cause → String
  | kind _ .undefined => "Required"
  | kind expected received => "Expected " ++ expected.name ++ ", received " ++ received.name
  | notWhole => "Expected integer, received float"
  | choiceKind _ .undefined => "Required"
  | choiceKind options received => "Expected " ++ listed " | " options ++ ", received " ++ received.name
  | choice options received =>
    "Invalid enum value. Expected " ++ listed " | " options ++ ", received '" ++ received ++ "'"
  | literal expected => "Invalid literal value, expected " ++ String.ofList (Json.quote expected)
  | textTooShort n => "String must contain at least " ++ Number.natText n ++ " character(s)"
  | listTooShort n => "Array must contain at least " ++ Number.natText n ++ " element(s)"
  | numberTooSmall n => "Number must be greater than or equal to " ++ Number.natText n
  | numberTooBig n => "Number must be less than or equal to " ++ Number.natText n
  | unknownKeys keys => "Unrecognized key(s) in object: " ++ listed ", " keys

end Cause

namespace Issue

/-- The same issue seen from one step further out. -/
def within (step : Step) (i : Issue) : Issue := { i with path := step :: i.path }

def message (i : Issue) : String := i.cause.message

def pathText (i : Issue) : String := Text.join "." (i.path.map Step.text)

def line (i : Issue) : String := i.pathText ++ ": " ++ i.message

def pathValue (i : Issue) : Value :=
  .list (i.path.map fun
    | .field name => .str name
    | .item n => .num (Number.ofNat n))

def record (i : Issue) : Value :=
  let code : String × Value := ("code", .str i.cause.code)
  let path : String × Value := ("path", i.pathValue)
  let message : String × Value := ("message", .str i.message)
  match i.cause with
  | .kind expected received =>
    .object [code, ("expected", .str expected.name), ("received", .str received.name), path, message]
  | .notWhole => .object [code, ("expected", .str "integer"), ("received", .str "float"), message, path]
  | .choiceKind options received =>
    .object [("expected", .str (Cause.listed " | " options)), ("received", .str received.name), code, path, message]
  | .choice options received =>
    .object [("received", .str received), code, ("options", .list (options.map .str)), path, message]
  | .literal expected => .object [("code", .str i.cause.code), ("expected", .str expected), path, message]
  | .textTooShort n =>
    .object [code, ("minimum", .num (Number.ofNat n)), ("type", .str "string"), ("inclusive", .bool true),
      ("exact", .bool false), message, path]
  | .listTooShort n =>
    .object [code, ("minimum", .num (Number.ofNat n)), ("type", .str "array"), ("inclusive", .bool true),
      ("exact", .bool false), message, path]
  | .numberTooSmall n =>
    .object [code, ("minimum", .num (Number.ofNat n)), ("type", .str "number"), ("inclusive", .bool true),
      ("exact", .bool false), message, path]
  | .numberTooBig n =>
    .object [code, ("maximum", .num (Number.ofNat n)), ("type", .str "number"), ("inclusive", .bool true),
      ("exact", .bool false), message, path]
  | .unknownKeys keys => .object [code, ("keys", .list (keys.map .str)), path, message]

/-- All issues as an indented JSON listing. -/
def report (issues : List Issue) : String := Json.indented (.list (issues.map record))

end Issue

end DataplaneVerdict
