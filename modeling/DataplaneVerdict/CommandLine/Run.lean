import DataplaneVerdict.CommandLine.RunArguments
import DataplaneVerdict.Run.Verification
import DataplaneVerdict.Toolchain.File

/-!
# `CommandLine.Run` — the command that verifies a program

The command checks its arguments, the source file, the settings and the toolchain, in this order; the first that is not
acceptable is the subject of an error document, and nothing is run. Otherwise it verifies the source and its exit code
is that of the run.

## Contents
- `RunCommand` is what the command is given, `RunCommand.execute` what it does.
-/

namespace DataplaneVerdict

/-- What the command needs besides its arguments. -/
structure RunCommand (σ : Type) where
  environment : Environment
  /-- a toolchain file that overrides the configured one -/
  config : Option String
  executor : Executor σ
  clock : Clock
  ids : IdSource
  runId : String

/-- How the command ended. -/
structure RunEnd (σ : Type) where
  code : Nat
  outcome : Option Outcome
  state : RunState σ
  stderr : Sink
  /-- what kept the run from writing any report -/
  failure : Option Failure := none

namespace RunCommand

def usage : String := "Usage: p4verdict run <p4_file> [forwarding_rules.txt] [timeout_seconds]"

variable {σ : Type}

/-- Ends the command with an error document on standard output. -/
def refuse (message : String) (s : RunState σ) (stderr : Sink) : RunEnd σ :=
  { code := 1, outcome := none, state := { s with sink := (s.sink.emitError message).2 }, stderr := stderr }

/-- Why a timeout given as an argument is not acceptable, if it is not. -/
def timeoutProblem (a : RunArguments) : Option String :=
  match a.timeoutSeconds with
  | none => none
  | some n =>
    match Settings.engineTimeout (.num n) with
    | .ok _ => none
    | .error issues =>
      some ("Invalid timeout_seconds " ++ n.text ++ ": " ++ Text.join "; " (issues.map Issue.message))

def configure (c : RunCommand σ) (fs : FileSystem) : Except Failure (Settings × Toolchain) :=
  match Settings.load c.environment with
  | .error f => .error f
  | .ok settings =>
    match Toolchain.load fs (c.config.orElse fun _ => settings.toolchainFile) with
    | .error f => .error f
    | .ok toolchain => .ok (settings, toolchain)

def execute (c : RunCommand σ) (inputs : List String) (s : RunState σ) (stderr : Sink) : RunEnd σ :=
  match RunArguments.parse? inputs with
  | none => { code := 1, outcome := none, state := s, stderr := (stderr.emitError usage).2 }
  | some a =>
    match timeoutProblem a with
    | some message => refuse message s stderr
    | none =>
      if !s.world.files.isFile a.sourceFile then refuse ("P4 file not found: " ++ a.sourceFile) s stderr
      else
        match c.configure s.world.files with
        | .error f => refuse f.message s stderr
        | .ok (settings, toolchain) =>
          let verifier : Verifier σ := ⟨settings, toolchain, c.executor, c.clock, c.ids⟩
          let request : Request :=
            ⟨a.sourceFile, a.rulesFile, a.timeoutSeconds.getD settings.timeouts.engineSeconds⟩
          match verifier.verify c.runId request s with
          | (.ok outcome, s) => { code := outcome.exitCode, outcome := some outcome, state := s, stderr := stderr }
          | (.error f, s) => { code := 1, outcome := none, state := s, stderr := stderr, failure := some f }

end RunCommand

end DataplaneVerdict
