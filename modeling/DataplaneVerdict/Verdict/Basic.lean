import DataplaneVerdict.Number.Decimal
import DataplaneVerdict.Text.Search
import DataplaneVerdict.Verdict.RunSort

/-!
# `Verdict.Basic` — verdicts and the rules that decide them

A run of the symbolic engine is observed through its output, its exit code, whether it ran out of time, and the
evidence it left. A rule recognises some observations and gives them a verdict. Rules are tried in ascending
priority and the first that matches decides; among rules of one priority the earlier one in the list is tried first.

## Contents
- **Verdicts.** `Verdict` and the names under which reports show them.
- **Observations and rules.** `Observation`, `Rule`, and the built-in table `Rule.builtin`.
- **Decision.** `classify`, with the answer `error` by no rule when nothing matches.
-/

namespace DataplaneVerdict

/-- What a run says about the assertions of a program. -/
inductive Verdict where
  /-- every assertion holds -/
  | holds
  /-- some assertion can fail -/
  | violated
  | unknown
  /-- the run itself failed -/
  | error
deriving DecidableEq, Inhabited

namespace Verdict

def name : Verdict → String
  | holds => "true"
  | violated => "false"
  | unknown => "unknown"
  | error => "error"

/-- All verdicts, in the order in which messages list them. -/
def all : List Verdict := [holds, violated, unknown, error]

def ofName? (s : String) : Option Verdict := all.find? fun v => v.name = s

end Verdict

/-- Printed by the engine when an assertion fails. -/
def assertionFailureMarker : String := "ASSERTION FAIL"

/-- Printed by the engine when the program aborts. -/
def abortFailureMarker : String := "abort failure"

/-- Printed by the engine when it has explored every path. -/
def completionMarker : String := "KLEE: done:"

/-- Everything a rule can look at. The exit code is absent when the engine was killed or never started. -/
structure Observation where
  output : String
  timedOut : Bool
  exitCode : Option Number
  evidence : List String

/-- One way to reach a verdict. -/
structure Rule where
  id : String
  priority : Number
  description : String
  verdict : Verdict
  recognises : Observation → Bool

namespace Rule

/-- A failure marker in the output, or evidence. -/
def violation : Rule where
  id := "violation"
  priority := 1
  description := "Failure marker in engine output or evidence file present"
  verdict := .violated
  recognises o :=
    Text.contains o.output assertionFailureMarker || Text.contains o.output abortFailureMarker ||
      !o.evidence.isEmpty

/-- The time budget ran out. -/
def timeout : Rule where
  id := "timeout"
  priority := 2
  description := "Engine exhausted its time budget"
  verdict := .unknown
  recognises o := o.timedOut

/-- The completion marker without evidence. -/
def completed : Rule where
  id := "completed"
  priority := 3
  description := "Engine reported exhaustive completion without evidence"
  verdict := .holds
  recognises o := Text.contains o.output completionMarker && o.evidence.isEmpty

/-- An exit code other than zero, or none. -/
def engineFailure : Rule where
  id := "engine-failure"
  priority := 4
  description := "Engine exited with a non-zero status"
  verdict := .error
  recognises o :=
    match o.exitCode with
    | some code => !Number.eq code 0
    | none => true

/-- Anything that is left. -/
def cleanExit : Rule where
  id := "clean-exit"
  priority := 5
  description := "Engine exited cleanly without marker or evidence"
  verdict := .holds
  recognises _ := true

/-- The built-in rules. Evidence outranks a timeout: a violation found just before the budget ran out is
still a violation. -/
def builtin : List Rule := [violation, timeout, completed, engineFailure, cleanExit]

/-- `a` is tried before `b`, whatever their places in the list. -/
def precedes (a b : Rule) : Bool := Number.lt a.priority b.priority

/-- `a` is tried no later than `b`. -/
def before (a b : Rule) : Bool := !precedes b a

end Rule

/-- A verdict and the rule that gave it. -/
structure Classification where
  verdict : Verdict
  ruleId : String
deriving DecidableEq

/-- The rules in the order in which they are tried: by ascending priority. Where a priority is no number nothing comes
before or after it, so there is no order to sort by, and the arrangement is the one that merging the runs leads to. -/
def orderRules (rules : List Rule) : List Rule :=
  if rules.any fun r => r.priority = .nan then RunSort.sort Rule.precedes rules else rules.mergeSort Rule.before

/-- The verdict of the first matching rule. -/
def classify (o : Observation) (rules : List Rule) : Classification :=
  match (orderRules rules).find? fun r => r.recognises o with
  | some r => ⟨r.verdict, r.id⟩
  | none => ⟨.error, "unmatched"⟩

end DataplaneVerdict
