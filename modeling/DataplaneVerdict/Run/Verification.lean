import DataplaneVerdict.Files.Evidence
import DataplaneVerdict.Report.Basic
import DataplaneVerdict.Run.Executor
import DataplaneVerdict.Run.Stage

/-!
# `Run.Verification` — one verification from request to report

The four stages run in order inside a private work directory. A build stage that does not succeed ends the run with
the verdict `error` and exit code 1. Once the engine has finished, timeout or not, its output and its evidence are
classified and the exit code is 0 whatever the verdict. Every run writes one report.

## Contents
- **State.** `RunState` threads the world, the executor's memory, the writer and the commands issued.
- **Stages.** `runBuildStage`, `runBuild`, `runEngine`.
- **Run.** `conclude` writes the report, `execute` is the run inside its work directory, `verify` the whole run.
-/

namespace DataplaneVerdict

/-- The result of a run after its report has been written. -/
structure Outcome where
  runId : String
  verdict : Verdict
  exitCode : Nat
  report : Report
  /-- the phases visited -/
  history : List Phase
  /-- the rule that decided, if the run got that far -/
  ruleId : Option String
deriving DecidableEq

/-- Everything that changes during a run. -/
structure RunState (σ : Type) where
  world : World
  memory : σ
  sink : Sink
  issued : List Command := []

instance (σ : Type) : HasFiles (RunState σ) :=
  ⟨fun s => s.world.files, fun s fs => { s with world := { s.world with files := fs } }⟩

/-- What a run is given besides its request. -/
structure Verifier (σ : Type) where
  settings : Settings
  toolchain : Toolchain
  executor : Executor σ
  clock : Clock
  ids : IdSource

namespace Verifier

variable {σ : Type}

def readClock (v : Verifier σ) (s : RunState σ) : Number × RunState σ :=
  (v.clock s.world.readings, { s with world := { s.world with readings := s.world.readings + 1 } })

def drawId (v : Verifier σ) (s : RunState σ) : String × RunState σ :=
  (v.ids s.world.draws, { s with world := { s.world with draws := s.world.draws + 1 } })

def commandOf (spec : StageSpec) : Command where
  command := spec.command
  args := spec.args
  cwd := spec.cwd
  timeoutSeconds := spec.timeoutSeconds

/-- Hands the command of a stage to the executor. -/
def issue (v : Verifier σ) (spec : StageSpec) (s : RunState σ) : Reply × RunState σ :=
  let command := commandOf spec
  let (reply, world, memory) := v.executor.call command s.world s.memory
  (reply, { s with world := world, memory := memory, issued := s.issued ++ [command] })

/-! ## Build stages -/

/-- The diagnostic part of a stage's output. -/
def diagnostic (spec : StageSpec) (r : StageResult) : String :=
  match spec.logStream with
  | .stderr => r.stderr
  | .combined => r.output

/-- The log entry of a stage that ran. -/
def stageEntry (spec : StageSpec) (r : StageResult) : String :=
  logEntry spec.stage.label
    (match spec.logStream with
      | .stderr => "stderr: " ++ r.stderr
      | .combined => r.output)

/-- Keeps the standard output where the stage wants it. -/
def capture (spec : StageSpec) (r : StageResult) (fs : FileSystem) : Except StageFailure FileSystem :=
  match spec.captureStdoutTo with
  | none => .ok fs
  | some path =>
    match fs.writeBytes path (Utf8.encode r.stdout) with
    | .ok fs => .ok fs
    | .error e => .error (.execution spec.stage.label e.message)

/-- The first expected artifact that does not exist. -/
def missingArtifact? (spec : StageSpec) (fs : FileSystem) : Option String :=
  spec.expectedArtifacts.find? fun a => !fs.pathExists a

/-- What a result means for a build stage: the changed files, or the failure that ends the run. Whatever is not known to
be an interruption or a failure is taken for a success. -/
def judge (spec : StageSpec) (r : StageResult) (fs : FileSystem) : Except StageFailure Unit × FileSystem :=
  let label := spec.stage.label
  match r.status with
  | .aborted => (.error (.aborted label), fs)
  | .timedOut => (.error (.timeout label spec.timeoutSeconds (diagnostic spec r)), fs)
  | .failed => (.error (.compilation label (diagnostic spec r) none), fs)
  | .success | .foreign _ =>
    match capture spec r fs with
    | .error f => (.error f, fs)
    | .ok fs =>
      match missingArtifact? spec fs with
      | some a => (.error (.compilation label (diagnostic spec r) (some a)), fs)
      | none => (.ok (), fs)

/-- Runs one build stage; gives its log entry or the failure that ends the run. A call that fails without a wording is
no failure of the stage but of the whole run. -/
def runBuildStage (v : Verifier σ) (spec : StageSpec) (s : RunState σ) :
    Except Failure (Except StageFailure String) × RunState σ :=
  match v.issue spec s with
  | (.error f, s) => (f.text.map fun reason => .error (.execution spec.stage.label reason), s)
  | (.ok r, s) =>
    let (judged, fs) := judge spec r s.world.files
    (.ok (judged.map fun _ => stageEntry spec r), HasFiles.setFiles s fs)

/-- Moves a run along an event; an event that the phase does not allow is a failure of the whole run. -/
def move (run : Run) (event : Event) : Except Failure Run := (run.advance event).mapError Failure.transition

/-- How the build part of a run ended: stopped by a failure, or complete with the log so far. -/
inductive BuildEnd where
  | stopped (run : Run) (failure : StageFailure)
  | built (run : Run) (log : List String)

/-- The event that a failing build stage is. -/
def failureEvent : StageFailure → Event
  | .aborted _ => .aborted
  | _ => .stageFailed

/-- Runs build stages in order until one fails. -/
def runBuild (v : Verifier σ) (log : List String) (run : Run) :
    List StageSpec → RunState σ → Except Failure BuildEnd × RunState σ
  | [], s => (.ok (.built run log), s)
  | spec :: rest, s =>
    match v.runBuildStage spec s with
    | (.error f, s) => (.error f, s)
    | (.ok (.error f), s) => ((move run (failureEvent f)).map fun run => .stopped run f, s)
    | (.ok (.ok entry), s) =>
      match move run .stageSucceeded with
      | .error f => (.error f, s)
      | .ok run => runBuild v (log ++ [entry]) run rest s

/-! ## The engine -/

/-- What the engine left for classification. -/
structure EngineRun where
  entry : String
  output : String
  timedOut : Bool
  exitCode : Option Number
  aborted : Bool

/-- What the engine's answer says. A call that failed counts as an exit without a code, if the failure has a wording; a
timeout adds a note. -/
def engineRun (spec : StageSpec) : Reply → Except Failure EngineRun
  | .error f =>
    f.text.map fun reason =>
      let body := "error: " ++ reason
      ⟨logEntry spec.stage.label body, body, false, none, false⟩
  | .ok r =>
    if r.status = .timedOut then
      let note := "Timeout after " ++ spec.timeoutSeconds.text ++ "s"
      let body := if r.output.isEmpty then note else r.output ++ "\n" ++ note
      .ok ⟨logEntry (spec.stage.label ++ " (Timeout)") body, body, true, r.exitCode, false⟩
    else .ok ⟨logEntry spec.stage.label r.output, r.output, false, r.exitCode, r.status = .aborted⟩

def EngineRun.observation (e : EngineRun) (evidence : List String) : Observation :=
  ⟨e.output, e.timedOut, e.exitCode, evidence⟩

/-! ## The run -/

/-- How a run is to be reported. -/
structure Conclusion where
  verdict : Verdict
  exitCode : Nat
  log : List String
  evidence : List String
  ruleId : Option String

/-- Writes the report of a run and finishes it. -/
def conclude (v : Verifier σ) (run : Run) (c : Conclusion) (s : RunState σ) : Except Failure Outcome × RunState σ :=
  let (finishedAt, s) := v.readClock s
  match s.sink.emit ⟨.str c.verdict.name, run.startedAt, finishedAt, c.log, c.evidence.map .str⟩ with
  | (.error f, sink) => (.error f, { s with sink := sink })
  | (.ok report, sink) =>
    ((move run .reported).map fun done =>
      { runId := run.id, verdict := report.verdict, exitCode := c.exitCode, report := report,
        history := done.history, ruleId := c.ruleId }, { s with sink := sink })

/-- The rules file as an absolute path, if it is a regular file. -/
def usableRules (fs : FileSystem) (rulesFile : Option String) : Option String :=
  match rulesFile with
  | none => none
  | some r =>
    let absolute := (Path.resolve fs.cwd r).text
    if fs.isFile absolute then some absolute else none

def planFor (v : Verifier σ) (request : Request) (workDir : String) (fs : FileSystem) : PlanInput :=
  let sourceFile := (Path.resolve fs.cwd request.sourceFile).text
  { sourceFile := sourceFile
    rulesFile := usableRules fs request.rulesFile
    artifacts := Artifacts.derive workDir sourceFile
    toolchain := v.toolchain
    translatorPath := v.settings.translatorPath
    timeouts := { v.settings.timeouts with engineSeconds := request.engineTimeoutSeconds } }

/-- Classifies an engine run that was not interrupted and reports it. -/
def classifyAndReport (v : Verifier σ) (artifacts : Artifacts) (run : Run) (log : List String) (e : EngineRun)
    (s : RunState σ) : Except Failure Outcome × RunState σ :=
  match move run .engineFinished with
  | .error f => (.error f, s)
  | .ok run =>
    match Evidence.scan s.world.files artifacts.engineOutDir with
    | .error f => (.error f, s)
    | .ok evidence =>
      let c := classify (e.observation evidence.texts) Rule.builtin
      match move run .classified with
      | .error f => (.error f, s)
      | .ok run => v.conclude run ⟨c.verdict, 0, log, evidence.texts, some c.ruleId⟩ s

/-- Runs the engine after a successful build and reports. -/
def runEngine (v : Verifier σ) (input : PlanInput) (run : Run) (log : List String) (s : RunState σ) :
    Except Failure Outcome × RunState σ :=
  let spec := Plan.engineSpec input
  let (reply, s) := v.issue spec s
  match engineRun spec reply with
  | .error f => (.error f, s)
  | .ok e =>
    let log := log ++ [e.entry]
    if e.aborted then
      match move run .aborted with
      | .error f => (.error f, s)
      | .ok run => v.conclude run ⟨.error, 1, log ++ [(StageFailure.aborted spec.stage.label).details], [], none⟩ s
    else v.classifyAndReport input.artifacts run log e s

def execute (v : Verifier σ) (runId : String) (startedAt : Number) (request : Request) (workDir : String)
    (s : RunState σ) : Except Failure Outcome × RunState σ :=
  let input := v.planFor request workDir s.world.files
  match move (Run.fresh runId request startedAt workDir) .started with
  | .error f => (.error f, s)
  | .ok run =>
    match v.runBuild [] run (Plan.ofInput input).build s with
    | (.error f, s) => (.error f, s)
    | (.ok (.stopped run f), s) => v.conclude run ⟨.error, 1, [f.details], [], none⟩ s
    | (.ok (.built run log), s) => v.runEngine input run log s

/-- Reports a failure outside the stages, with the verdict `error`. -/
def reportFailure (v : Verifier σ) (runId : String) (startedAt : Number) (f : Failure) (s : RunState σ) :
    Except Failure Outcome × RunState σ :=
  match f.text with
  | .error g => (.error g, s)
  | .ok reason =>
    let (finishedAt, s) := v.readClock s
    match s.sink.emit ⟨.str Verdict.error.name, startedAt, finishedAt, ["Pipeline error: " ++ reason], []⟩ with
    | (.error g, sink) => (.error g, { s with sink := sink })
    | (.ok report, sink) =>
      (.ok { runId := runId, verdict := .error, exitCode := 1, report := report, history := [], ruleId := none },
        { s with sink := sink })

/-- Verifies one request and writes its report. It fails only if the writer fails with a value that has no text, or the
    run with one that cannot even be told to have none. -/
def verify (v : Verifier σ) (runId : String) (request : Request) (s : RunState σ) :
    Except Failure Outcome × RunState σ :=
  let (startedAt, s) := v.readClock s
  let (id, s) := v.drawId s
  let workRoot := (Path.resolve s.world.files.cwd v.settings.workRoot).text
  match WorkDir.scope workRoot WorkDir.series id (v.execute runId startedAt request) s with
  | (.ok outcome, s) => (.ok outcome, s)
  | (.error f, s) => v.reportFailure runId startedAt f s

end Verifier

end DataplaneVerdict
