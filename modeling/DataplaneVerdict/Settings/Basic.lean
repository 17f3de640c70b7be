import DataplaneVerdict.Failure
import DataplaneVerdict.Schema.Check

/-!
# `Settings.Basic` — settings from the environment

Stage timeouts and file locations come from environment variables. An unset variable takes its default; a set one is
checked on its own, whatever the others are.

## Contents
- **Types.** `StageTimeouts`, `Settings`, `Environment` with `Environment.set`.
- **Timeouts.** `Settings.seconds` reads any value as a number of seconds within bounds.
- **Reading.** `Settings.read`, and `Settings.load` with the failure that lists every issue.
-/

namespace DataplaneVerdict

/-- Variables by name; of two with one name the first counts. -/
abbrev Environment := List (String × String)

/-- A text up to its first zero byte. -/
def Environment.beforeZero (s : String) : String := String.ofList (s.toList.takeWhile (· != '\x00'))

/-- Sets a variable. Names and values end at a zero byte; a name that is empty or has an equals sign cannot be set. -/
def Environment.set (env : Environment) (name value : String) : Environment :=
  let name := beforeZero name
  if name.isEmpty || name.toList.contains '=' then env else Value.setField name (beforeZero value) env

/-- The time budget of each stage, in seconds. -/
structure StageTimeouts where
  frontendSeconds : Number
  translateSeconds : Number
  nativeSeconds : Number
  engineSeconds : Number
deriving DecidableEq

/-- What a run needs to know besides its request. -/
structure Settings where
  timeouts : StageTimeouts
  workRoot : String
  translatorPath : String
  /-- a file that overrides the tools -/
  toolchainFile : Option String
deriving DecidableEq

namespace Settings

open Check

/-- The translator script when none is configured. -/
def defaultTranslatorPath : String := "/assert-p4/src/P4_to_C.py"

/-- The longest budget of a build stage: one hour. -/
def mostBuildSeconds : Nat := 3600

/-- The longest budget of the engine: one day. -/
def mostEngineSeconds : Nat := 86400

/-- A whole number of seconds from one up to a bound, read from any value that denotes a number. -/
def seconds (most : Nat) : Check Number := fun v => wholeNumber 1 (some most) (.num v.toNumber)

/-- The engine's budget, wherever it is given. -/
def engineTimeout : Check Number := seconds mostEngineSeconds

/-- The engine's budget in data of any shape; a value that cannot be read as a number is a failure. -/
def engineTimeoutOf (v : Value) : Except Failure (Checked Number) :=
  if v.hasText then .ok (engineTimeout v) else .error .noText

/-- A variable as data; an unset one is absent. -/
def given (env : Environment) (name : String) : Value :=
  match env.lookup name with
  | some s => .str s
  | none => .undefined

/-- The directory for temporary files: the first of three variables that is not empty, without a final slash. -/
def temporaryDirectory (env : Environment) : String :=
  let chosen := ["TMPDIR", "TMP", "TEMP"].findSome? fun name =>
    match env.lookup name with
    | some s => if s.isEmpty then none else some s
    | none => none
  match chosen with
  | none => "/tmp"
  | some s => if 1 < s.length && s.toList.getLast? = some '/' then String.ofList s.toList.dropLast else s

/-- The variables, as the fields that messages name. -/
def fields (env : Environment) : Fields :=
  [("frontendSeconds", given env "P4VERDICT_FRONTEND_TIMEOUT_SECONDS"),
   ("translateSeconds", given env "P4VERDICT_TRANSLATE_TIMEOUT_SECONDS"),
   ("nativeSeconds", given env "P4VERDICT_NATIVE_TIMEOUT_SECONDS"),
   ("engineSeconds", given env "P4VERDICT_ENGINE_TIMEOUT_SECONDS"),
   ("workRoot", given env "P4VERDICT_WORK_ROOT"),
   ("translatorPath", given env "P4VERDICT_TRANSLATOR_PATH"),
   ("toolchainFile", given env "P4VERDICT_TOOLCHAIN_FILE")]

def readTimeouts (fs : Fields) : Checked StageTimeouts :=
  (Checked.both (field "frontendSeconds" (orDefault 60 (seconds mostBuildSeconds)) fs)
    (Checked.both (field "translateSeconds" (orDefault 120 (seconds mostBuildSeconds)) fs)
      (Checked.both (field "nativeSeconds" (orDefault 60 (seconds mostBuildSeconds)) fs)
        (field "engineSeconds" (orDefault 300 engineTimeout) fs)))).map fun (f, t, n, e) => ⟨f, t, n, e⟩

/-- The settings of an environment, or every issue with them. -/
def read (env : Environment) : Checked Settings :=
  let fs := fields env
  (Checked.both ((readTimeouts fs).within (.field "timeouts"))
    (Checked.both (field "workRoot" (orDefault (temporaryDirectory env) nonEmptyText) fs)
      (Checked.both (field "translatorPath" (orDefault defaultTranslatorPath nonEmptyText) fs)
        (field "toolchainFile" (optional nonEmptyText) fs)))).map fun (t, w, p, f) => ⟨t, w, p, f⟩

def load (env : Environment) : Except Failure Settings :=
  match read env with
  | .ok s => .ok s
  | .error issues => .error (.settings (issues.map Issue.line))

end Settings

end DataplaneVerdict
