import DataplaneVerdict.Files.Error
import DataplaneVerdict.Run.Phase
import DataplaneVerdict.Schema.Issue

/-!
# `Failure` — everything a step of the program can fail with

## Contents
- **Failures.** `Failure` lists the causes; `Failure.message` words them.
- **Foreign failures.** An executor or a writer may fail with an error of its own or with a bare value. A bare value may
  have no text at all, and then asking for one fails, possibly with a value that has none either; `Failure.text` is the
  wording of a failure, or the failure that asking for it is.
-/

namespace DataplaneVerdict

inductive Failure where
  | file (e : FileError)
  | settings (issues : List String)
  | toolchainMissing (path : String)
  | toolchainSyntax (path : String) (reason : String)
  | toolchainInvalid (path : String) (issues : List Issue)
  | schema (issues : List Issue)
  | transition (e : InvalidTransition)
  /-- a directory that is not strictly below the work root -/
  | refusedRemoval (path : String)
  | invalidMaxAge (text : String)
  /-- a time budget that no timer can hold -/
  | budget (command : String) (seconds : Number) (most : Nat)
  /-- a program that could not be started, with the reason and the code that the host gives -/
  | spawn (command reason : String) (code : Option String)
  | spawnRefused (problem : FileProblem)
  | emptyCommand
  /-- a text with a zero byte where a process needs one without -/
  | zeroByte (place : String) (text : String)
  | zeroByteDirectory (text : String)
  /-- an error of unknown origin -/
  | other (message : String) (code : Option String)
  /-- a value that is no error at all -/
  | value (v : Value)
  /-- a value was to be read as a text or a number and has none -/
  | noText
  /-- a value that fails in its own way when it is asked for a text -/
  | wordless (thrown : Failure)

namespace Failure

/-- The first line of the message about a malformed toolchain file. -/
def syntaxHeading (path : String) : String := "Failed to parse YAML in " ++ path ++ ":"

def message : Failure → String
  | file e => e.message
  | settings issues => "Configuration validation failed: " ++ Text.join "; " issues
  | toolchainMissing path => "Toolchain file not found: " ++ path
  | toolchainSyntax path reason => syntaxHeading path ++ " " ++ reason
  | toolchainInvalid path issues =>
    "Toolchain validation failed for " ++ path ++ ":\n" ++ Text.join "\n" (issues.map fun i => "  - " ++ i.line)
  | schema issues => Issue.report issues
  | transition e => e.message
  | refusedRemoval path => "Refusing to remove directory outside work root: " ++ path
  | invalidMaxAge text => "Invalid --max-age: " ++ text
  | budget command seconds most =>
    "Timeout for " ++ command ++ " must be above 0 and at most " ++ Number.natText most ++ "s, got " ++ seconds.text
  | spawn command reason _ => "Failed to start " ++ command ++ ": " ++ reason
  | spawnRefused problem => "spawn " ++ problem.code
  | emptyCommand => "The argument 'file' cannot be empty. Received ''"
  | zeroByte place text => "The " ++ place ++ " must be a string without null bytes. Received " ++ Quoted.shown text
  | zeroByteDirectory text =>
    "The property 'options.cwd' " ++ FileProblem.zeroByte.wording ++ ". Received " ++ Quoted.shown text
  | other message _ => message
  | value v => v.text
  | noText => "Cannot convert object to primitive value"
  | wordless _ => ""

/-- The wording of a failure; a bare value without a text has none, and asking for it is a failure of its own. -/
def text : Failure → Except Failure String
  | wordless thrown => .error thrown
  | value v =>
    match v.text? with
    | some t => .ok t
    | none => .error noText
  | f => .ok f.message

end Failure

end DataplaneVerdict
