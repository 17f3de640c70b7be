import DataplaneVerdict.Failure
import DataplaneVerdict.Schema.Check
import DataplaneVerdict.Verdict.Basic

/-!
# `Report.Basic` — the documents that the program prints

Every run ends with one document on one line: a verdict report, or an error document if the run could not start.

## Contents
- **Documents.** `Report` and `ErrorDocument`, their schemas, and the documents as data.
- **Assembly.** `Report.assemble` builds a report from a draft and checks it.
- **Reporter.** `Sink` is a writer whose attempts may fail; `Sink.emit` returns a document, the fallback if the report
  cannot be assembled or written. It fails only if a write fails with a value that has no text.
-/

namespace DataplaneVerdict

/-- A verdict report. The evidence is either absent or has at least one text. -/
structure Report where
  verdict : Verdict
  timeMs : Number
  details : String
  assertionErrors : Option (List String)
deriving DecidableEq

/-- The document of a run that could not start. -/
structure ErrorDocument where
  error : String
deriving DecidableEq

namespace Verdict

/-- The verdict that a value names. -/
def check : Check Verdict := Check.choice (all.map name) ofName?

end Verdict

namespace Report

open Check

def readFields (fields : Fields) : Checked Report :=
  (Checked.both (field "verdict" Verdict.check fields)
    (Checked.both (field "time_ms" (wholeNumber 0 none) fields)
      (Checked.both (field "details" text fields)
        (field "assertion_errors" (optional (texts 1)) fields)))).map fun (v, t, d, e) => ⟨v, t, d, e⟩

/-- The report that a value is. -/
def check : Check Report := strict ["verdict", "time_ms", "details", "assertion_errors"] readFields

def toValue (r : Report) : Value :=
  .object ([("verdict", .str r.verdict.name), ("time_ms", .num r.timeMs), ("details", .str r.details)] ++
    (match r.assertionErrors with
      | some xs => [("assertion_errors", .list (xs.map .str))]
      | none => []))

def line (r : Report) : String := Json.line r.toValue

end Report

namespace ErrorDocument

open Check

def readFields (fields : Fields) : Checked ErrorDocument :=
  (Checked.both (field "error" nonEmptyText fields)
    (field "verdict" (literal "error" ()) fields)).map fun (e, _) => ⟨e⟩

/-- The error document that a value is. -/
def check : Check ErrorDocument := strict ["error", "verdict"] readFields

def toValue (d : ErrorDocument) : Value := .object [("error", .str d.error), ("verdict", .str "error")]

def line (d : ErrorDocument) : String := Json.line d.toValue

end ErrorDocument

/-! ## Assembly -/

/-- What a report is made from. The verdict and the evidence are checked when the report is assembled. -/
structure Draft where
  verdict : Value
  startedAt : Number
  finishedAt : Number
  log : List String
  evidence : List Value

/-- The time between two readings in whole milliseconds, never negative. -/
def elapsedMs (startedAt finishedAt : Number) : Number :=
  Number.atLeastZero (Number.floor (Number.sub finishedAt startedAt))

namespace Report

/-- The report before it is checked. Without evidence the field is left out. -/
def unchecked (d : Draft) : Value :=
  .object ([("verdict", d.verdict), ("time_ms", .num (elapsedMs d.startedAt d.finishedAt)),
      ("details", .str (Text.join "\n" d.log))] ++
    (if d.evidence.isEmpty then [] else [("assertion_errors", .list d.evidence)]))

/-- The report of a draft. -/
def assemble (d : Draft) : Checked Report := check (unchecked d)

/-- The report that takes the place of one that could not be assembled or written. -/
def fallback (d : Draft) (message : String) : Report where
  verdict := .error
  timeMs := elapsedMs d.startedAt d.finishedAt
  details := "Report assembly failed: " ++ message
  assertionErrors := none

end Report

/-! ## Reporter -/

/-- A writer of lines. Attempt number `i` fails with `refuse i`, if that is set. -/
structure Sink where
  refuse : Nat → Option Failure := fun _ => none
  attempts : Nat := 0
  lines : List String := []

namespace Sink

/-- One attempt to write a line. -/
def write (s : Sink) (line : String) : Except Failure Unit × Sink :=
  match s.refuse s.attempts with
  | some f => (.error f, { s with attempts := s.attempts + 1 })
  | none => (.ok (), { s with attempts := s.attempts + 1, lines := s.lines ++ [line] })

/-- Writes the fallback; a second failure is swallowed. -/
def emitFallback (s : Sink) (d : Draft) (message : String) : Report × Sink :=
  let report := Report.fallback d message
  (report, (s.write report.line).2)

/-- Writes the report of a draft and returns the document that stands for it. -/
def emit (s : Sink) (d : Draft) : Except Failure Report × Sink :=
  match Report.assemble d with
  | .error issues =>
    let (report, s) := s.emitFallback d (Failure.schema issues).message
    (.ok report, s)
  | .ok report =>
    match s.write report.line with
    | (.ok (), s) => (.ok report, s)
    | (.error f, s) =>
      match f.text with
      | .error g => (.error g, s)
      | .ok message =>
        let (report, s) := s.emitFallback d message
        (.ok report, s)

/-- Writes an error document; a failure is swallowed. -/
def emitError (s : Sink) (message : String) : ErrorDocument × Sink :=
  let document : ErrorDocument := ⟨message⟩
  (document, (s.write document.line).2)

end Sink

end DataplaneVerdict
