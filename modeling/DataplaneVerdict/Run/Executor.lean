import DataplaneVerdict.Files.WorkDir

/-!
# `Run.Executor` — running external commands

A run hands its commands to an executor, which answers each call with a result or a failure and may change the file
system while it works. An executor has a memory of its own, so what it answers may depend on all it has seen. Nothing
else is assumed of it.

## Contents
- **Commands and results.** `Command`, `StageStatus`, `StageResult`.
- **World.** `World` is what a run and its executor share: the files, and how often the clock and the id generator
  have been asked.
- **Executor.** `Executor`.
-/

namespace DataplaneVerdict

structure Command where
  command : String
  args : List String
  cwd : Option String
  timeoutSeconds : Number
  /-- variables added to the environment -/
  env : List (String × String) := []
  stdin : Option String := none
deriving DecidableEq

/-- How a process ended. An executor may use a status of its own, which nothing here knows. -/
inductive StageStatus where
  | success | failed | timedOut | aborted
  | foreign (name : String)
deriving DecidableEq, Inhabited

namespace StageStatus

def name : StageStatus → String
  | success => "success"
  | failed => "failed"
  | timedOut => "timed_out"
  | aborted => "aborted"
  | foreign name => name

/-- The statuses with a meaning. -/
def known : List StageStatus := [success, failed, timedOut, aborted]

def ofName (s : String) : StageStatus := (known.find? fun v => v.name = s).getD (foreign s)

end StageStatus

/-- What a finished process leaves. The exit code is absent when a signal ended it. -/
structure StageResult where
  status : StageStatus
  exitCode : Option Number
  exitSignal : Option String
  stdout : String
  stderr : String
  /-- both streams together -/
  output : String
deriving DecidableEq

abbrev Reply := Except Failure StageResult

/-- Readings of the clock, in milliseconds, by number. -/
abbrev Clock := Nat → Number

/-- Random ids, by number. -/
abbrev IdSource := Nat → String

/-- What a run and its executor share. -/
structure World where
  files : FileSystem
  readings : Nat := 0
  draws : Nat := 0

instance : HasFiles World := ⟨World.files, fun w fs => { w with files := fs }⟩

/-- Anything able to run commands, with a memory of type `σ`. -/
structure Executor (σ : Type) where
  call : Command → World → σ → Reply × World × σ

end DataplaneVerdict
