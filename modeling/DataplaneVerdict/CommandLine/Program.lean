import DataplaneVerdict.CommandLine.Clean
import DataplaneVerdict.CommandLine.Help
import DataplaneVerdict.CommandLine.Run
import DataplaneVerdict.CommandLine.Suggestion
import DataplaneVerdict.Settings.EnvironmentFile

/-!
# `CommandLine.Program` — the program and its commands

The arguments of the program are understood in two steps. First the options of the program itself are taken out,
wherever they stand; the first operand then names a command, which takes the rest. What the arguments ask for is an
`Invocation`, a value of its own, so that reading arguments and acting on them are apart.

A wrong call of a command ends the process at once. A wrong call of the program itself is a failure of the program,
and so is a failing cleanup; a run never fails, because its report says what went wrong.

## Contents
- **Description.** `Subcommand`, `Program.spec`, `Program.helpText`.
- **Understanding.** `UsageProblem`, `Invocation`, `Invocation.ofArguments`.
- **Acting.** `Program`, `Ending`, `Program.perform`.
- **The process.** `Program.process` adds the environment file and the last word about failures.
-/

namespace DataplaneVerdict

inductive Subcommand where
  | run
  | clean
deriving DecidableEq

namespace Subcommand

def all : List Subcommand := [run, clean]

def configOption : OptionSpec :=
  { flags := "-c, --config <file>", short := some "-c", long := "--config", takesValue := true,
    description := "Toolchain YAML file overriding tool commands" }

/-- The option that limits a cleanup to old directories. -/
def maxAgeOption : OptionSpec :=
  { flags := "--max-age <minutes>", short := none, long := "--max-age", takesValue := true,
    description := "Only remove directories older than this many minutes", standard := some "60" }

/-- What help says about a command. -/
def spec : Subcommand → CommandSpec
  | run =>
    { name := "run"
      description := "Verify the assertions of a P4 program and print a JSON verdict"
      arguments :=
        [⟨"inputs", "[inputs...]", "P4 source file, optional forwarding rules file, optional timeout in seconds"⟩]
      options := [configOption] }
  | clean =>
    { name := "clean"
      description := "Remove work directories left behind by interrupted runs"
      options := [maxAgeOption] }

def ofName? (name : String) : Option Subcommand := all.find? fun c => c.spec.name = name

/-- A command with its options and operands, as it is called. -/
def term (c : Subcommand) : String :=
  Text.join " " ([c.spec.name, "[options]"] ++ c.spec.arguments.map (·.usage))

end Subcommand

namespace Program

def version : String := "0.1.0"

/-- The option that asks for the version. -/
def versionOption : OptionSpec :=
  { flags := "-v, --version", short := some "-v", long := "--version", takesValue := false,
    description := "Output the current version" }

def spec : CommandSpec where
  name := "p4verdict"
  description := "Verify assertions in P4 programs through symbolic execution"
  options := [versionOption]

/-- The word that asks for help about a command. -/
def helpWord : String := "help"

/-- The help text of the program or of a command. -/
def helpText : Option Subcommand → String
  | some c => Help.render (spec.name ++ " " ++ c.term) c.spec []
  | none =>
    Help.render (spec.name ++ " [options] [command]") spec
      ((Subcommand.all.map fun c => (c.term, c.spec.description)) ++ [(helpWord ++ " [command]", Help.helpOption.2)])

def asksHelp (arg : String) : Bool := arg = "-h" || arg = "--help"

/-- The long options that a misspelt one may mean. -/
def longOptions (topic : Option Subcommand) : List String :=
  let own := match topic with
    | some c => c.spec.options.map (·.long) ++ ["--help"]
    | none => []
  own ++ spec.options.map (·.long) ++ ["--help"]

/-- The commands that a misspelt one may mean. -/
def commandNames : List String := Subcommand.all.map (·.spec.name) ++ [helpWord]

end Program

inductive UsageProblem where
  | unknownOption (topic : Option Subcommand) (flag : String)
  | unknownCommand (name : String)
  | missingValue (o : OptionSpec)

/-- The wording of a problem with a call, with a hint if something similar would be right. -/
def UsageProblem.message : UsageProblem → String
  | unknownOption topic flag =>
    "error: unknown option '" ++ flag ++ "'" ++
      (if Text.startsWith flag "--" then Suggestion.text flag (Program.longOptions topic) else "")
  | unknownCommand name => "error: unknown command '" ++ name ++ "'" ++ Suggestion.text name Program.commandNames
  | missingValue o => "error: option '" ++ o.flags ++ "' argument missing"

/-- What the arguments of the program ask for. -/
inductive Invocation where
  | version
  | help (topic : Option Subcommand)
  /-- nothing that can be done was named, so the help text is shown as a complaint -/
  | stray
  /-- a wrong call of the program, or of a command -/
  | refused (topic : Option Subcommand) (problem : UsageProblem)
  | run (config : Option String) (inputs : List String)
  | clean (maxAge : String)

namespace Invocation

/-- What a command is asked for, given the operands before its first option and all that follows. -/
def ofCommand (c : Subcommand) (operands rest : List String) : Invocation :=
  let s := Grammar.split c.spec.options rest
  match s.missing, s.unknown with
  | some o, _ => refused (some c) (.missingValue o)
  | none, flag :: more =>
    if (flag :: more).any Program.asksHelp then help (some c) else refused (some c) (.unknownOption (some c) flag)
  | none, [] =>
    match c with
    | .run => run (s.value? Subcommand.configOption) (operands ++ s.operands)
    | .clean =>
      clean (((s.value? Subcommand.maxAgeOption).orElse fun _ => Subcommand.maxAgeOption.standard).getD "")

def helpAbout : List String → Invocation
  | [] => help none
  | name :: _ =>
    if name.isEmpty then help none
    else
      match Subcommand.ofName? name with
      | some c => help (some c)
      | none => stray

/-- What arguments ask for. -/
def ofArguments (args : List String) : Invocation :=
  let s := Grammar.split Program.spec.options args
  if (s.value? Program.versionOption).isSome then version
  else
    match s.operands with
    | [] =>
      match s.unknown with
      | [] => stray
      | flag :: _ =>
        if s.unknown.any Program.asksHelp then help none else refused none (.unknownOption none flag)
    | name :: rest =>
      match Subcommand.ofName? name with
      | some c => ofCommand c rest s.unknown
      | none =>
        if name = Program.helpWord then helpAbout rest
        else if s.unknown.any Program.asksHelp then help none
        else refused none (.unknownCommand name)

end Invocation

inductive ProgramFailure where
  | usage (problem : UsageProblem)
  | step (f : Failure)

def ProgramFailure.message : ProgramFailure → String
  | usage problem => problem.message
  | step f => f.message

structure Ending where
  /-- lines for standard output; the help text is one of several lines -/
  stdout : List String := []
  stderr : List String := []
  /-- the exit code that a command has set -/
  code : Option Nat := none
  /-- the exit code of a process that was ended at once -/
  exit : Option Nat := none
  failure : Option ProgramFailure := none

/-- What the program needs besides its arguments. -/
structure Program (σ : Type) where
  environment : Environment
  executor : Executor σ
  clock : Clock
  ids : IdSource
  runId : String

namespace Program

variable {σ : Type}

/-- Whether a signal interrupts a run; the run then ends with a report. -/
def isInterrupt (signal : String) : Bool := signal = "SIGINT" || signal = "SIGTERM"

/-- A help text as lines; the end of the last line is left to whoever writes it. -/
def helpLines (topic : Option Subcommand) : List String := (Text.splitOn (helpText topic) '\n').dropLast

def performClean (p : Program σ) (maxAge : String) (w : World) : Ending × World :=
  match Clean.maxAge maxAge with
  | .error f => ({ failure := some (.step f) }, w)
  | .ok minutes =>
    match Clean.execute p.environment w.files minutes (p.clock w.readings) with
    | .error f => ({ failure := some (.step f) }, w)
    | .ok r => ({ stdout := [r.line] }, { w with files := r.files, readings := w.readings + 1 })

def perform (p : Program σ) (i : Invocation) (w : World) (memory : σ) : Ending × World × σ :=
  match i with
  | .version => ({ stdout := [version] }, w, memory)
  | .help topic => ({ stdout := helpLines topic, exit := topic.map fun _ => 0 }, w, memory)
  | .stray => ({ stderr := helpLines none }, w, memory)
  | .refused none problem => ({ stderr := [problem.message], failure := some (.usage problem) }, w, memory)
  | .refused (some _) problem => ({ stderr := [problem.message], exit := some 1 }, w, memory)
  | .run config inputs =>
    let command : RunCommand σ := ⟨p.environment, config, p.executor, p.clock, p.ids, p.runId⟩
    let r := command.execute inputs { world := w, memory := memory, sink := {} } {}
    ({ stdout := r.state.sink.lines, stderr := r.stderr.lines, code := if r.failure.isSome then none else some r.code,
       failure := r.failure.map .step }, r.state.world, r.state.memory)
  | .clean maxAge =>
    let (ending, w) := p.performClean maxAge w
    (ending, w, memory)

end Program

namespace Ending

/-- The exit code of the process: that of an immediate end, one after a failure, or the one that was set. -/
def exitCode (e : Ending) : Nat :=
  match e.exit, e.failure with
  | some n, _ => n
  | none, some _ => 1
  | none, none => e.code.getD 0

/-- All lines for standard error, the last one about the failure. -/
def complaints (e : Ending) : List String :=
  e.stderr ++ (e.failure.map fun f => "Fatal error: " ++ f.message).toList

/-- Lines as a text. -/
def text (lines : List String) : String := Text.join "" (lines.map (· ++ "\n"))

end Ending

/-- Runs the program as a process: the variables of the environment file count, also for the executor, which starts with
a memory made from them. -/
def Program.process {σ : Type} (p : Program σ) (args : List String) (w : World) (start : Environment → σ) :
    Ending × World × σ :=
  let (environment, printed) := EnvironmentFile.load w.files p.environment args
  let (ending, w, memory) :=
    { p with environment := environment }.perform (Invocation.ofArguments args) w (start environment)
  ({ ending with stdout := printed ++ ending.stdout }, w, memory)

end DataplaneVerdict
