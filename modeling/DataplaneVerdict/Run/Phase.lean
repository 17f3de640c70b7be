import DataplaneVerdict.Number.Basic

/-!
# `Run.Phase` — the phases of a verification run

A run starts in `init`, passes the three build phases and the engine, is classified, reported and done. A build
phase that fails, and any stage that is interrupted, goes straight to the report.

## Contents
- **Table.** `Phase`, `Event`, and `Phase.next?`, the only place that knows which event leads where.
- **Runs.** `Run` records the phases visited; `Run.advance` applies one event or refuses it.
-/

namespace DataplaneVerdict

/-- Where a run stands. -/
inductive Phase where
  | init | frontend | translate | native | engine | classify | report | done
deriving DecidableEq, Inhabited

/-- What can happen to a run. -/
inductive Event where
  | started | stageSucceeded | stageFailed | engineFinished | classified | aborted | reported
deriving DecidableEq, Inhabited

namespace Phase

def name : Phase → String
  | init => "init"
  | frontend => "frontend"
  | translate => "translate"
  | native => "native"
  | engine => "engine"
  | classify => "classify"
  | report => "report"
  | done => "done"

def all : List Phase := [init, frontend, translate, native, engine, classify, report, done]

def ofName? (s : String) : Option Phase := all.find? fun p => p.name = s

/-- The phase that an event leads to, `none` if the event is not possible. -/
def next? : Phase → Event → Option Phase
  | init, .started => some frontend
  | frontend, .stageSucceeded => some translate
  | frontend, .stageFailed => some report
  | frontend, .aborted => some report
  | translate, .stageSucceeded => some native
  | translate, .stageFailed => some report
  | translate, .aborted => some report
  | native, .stageSucceeded => some engine
  | native, .stageFailed => some report
  | native, .aborted => some report
  | engine, .engineFinished => some classify
  | engine, .aborted => some report
  | classify, .classified => some report
  | report, .reported => some done
  | _, _ => none

end Phase

namespace Event

def name : Event → String
  | started => "started"
  | stageSucceeded => "stage_succeeded"
  | stageFailed => "stage_failed"
  | engineFinished => "engine_finished"
  | classified => "classified"
  | aborted => "aborted"
  | reported => "reported"

def all : List Event := [started, stageSucceeded, stageFailed, engineFinished, classified, aborted, reported]

def ofName? (s : String) : Option Event := all.find? fun e => e.name = s

end Event

/-- What a run is asked to verify: a source file, perhaps forwarding rules, and the engine's budget. -/
structure Request where
  sourceFile : String
  rulesFile : Option String
  engineTimeoutSeconds : Number
deriving DecidableEq

/-- One verification attempt. `history` lists the phases visited, in order. -/
structure Run where
  id : String
  request : Request
  phase : Phase
  startedAt : Number
  history : List Phase
  workDir : String
deriving DecidableEq

/-- An event that the phase does not allow. -/
structure InvalidTransition where
  phase : Phase
  event : String
deriving DecidableEq

/-- The wording of a refusal, by the names of the phase and the event. -/
def InvalidTransition.wording (phase event : String) : String := "Invalid transition: " ++ phase ++ " + " ++ event

def InvalidTransition.message (e : InvalidTransition) : String := wording e.phase.name e.event

namespace Run

/-- A run that has not started yet. -/
def fresh (id : String) (request : Request) (startedAt : Number) (workDir : String) : Run :=
  ⟨id, request, .init, startedAt, [.init], workDir⟩

/-- Moves a run along an event. -/
def advance (run : Run) (event : Event) : Except InvalidTransition Run :=
  match run.phase.next? event with
  | some p => .ok { run with phase := p, history := run.history ++ [p] }
  | none => .error ⟨run.phase, event.name⟩

/-- The run after an event, unchanged if the event is refused. -/
def offer (run : Run) (event : Event) : Run :=
  match run.advance event with
  | .ok r => r
  | .error _ => run

end Run

end DataplaneVerdict
