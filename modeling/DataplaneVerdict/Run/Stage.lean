import DataplaneVerdict.Files.Path
import DataplaneVerdict.Settings.Basic
import DataplaneVerdict.Toolchain.Basic

/-!
# `Run.Stage` — the stages of a run and the plan that links them

A run has three build stages and the engine. Each stage is one external command; the artifact that a build stage must
produce is an argument of the next one.

## Contents
- **Stages.** `Stage`, its name and its label, and `StageSpec`, the description of one command.
- **Artifacts.** `Artifacts.derive` names the files of a run after the source's stem.
- **Plan.** `Plan.build` puts the four commands together.
- **Failures.** `StageFailure`, what ends a run before the engine's verdict.
-/

namespace DataplaneVerdict

/-- The four external commands of a run. -/
inductive Stage where
  | frontend | translate | native | engine
deriving DecidableEq, Inhabited

namespace Stage

def name : Stage → String
  | frontend => "frontend"
  | translate => "translate"
  | native => "native"
  | engine => "engine"

/-- The label of a stage in logs. -/
def label : Stage → String
  | frontend => "P4C Compilation"
  | translate => "P4 to C Translation"
  | native => "Clang Compilation"
  | engine => "KLEE Execution"

def all : List Stage := [frontend, translate, native, engine]

end Stage

/-- Which part of a stage's output is diagnostic. -/
inductive LogStream where
  | combined
  /-- the standard output is an artifact, only the error stream is diagnostic -/
  | stderr
deriving DecidableEq, Inhabited

def LogStream.name : LogStream → String
  | combined => "combined"
  | stderr => "stderr"

/-- The description of one command of the plan. -/
structure StageSpec where
  stage : Stage
  command : String
  args : List String
  cwd : Option String
  timeoutSeconds : Number
  /-- files that must exist once the stage has succeeded -/
  expectedArtifacts : List String
  /-- where the standard output is written after success -/
  captureStdoutTo : Option String
  logStream : LogStream
deriving DecidableEq

/-- The files that a run makes in its work directory. -/
structure Artifacts where
  irFile : String
  cFile : String
  bitcodeFile : String
  engineOutDir : String
deriving DecidableEq

/-- The files of a run, named after the source. -/
def Artifacts.derive (workDir sourceFile : String) : Artifacts :=
  let base := Path.stem sourceFile
  { irFile := Path.join workDir (base ++ ".json")
    cFile := Path.join workDir (base ++ ".c")
    bitcodeFile := Path.join workDir (base ++ ".bc")
    engineOutDir := Path.join workDir "klee-out" }

structure PlanInput where
  sourceFile : String
  rulesFile : Option String
  artifacts : Artifacts
  toolchain : Toolchain
  translatorPath : String
  timeouts : StageTimeouts

/-- The commands of a run: the build stages in order, then the engine. -/
structure Plan where
  build : List StageSpec
  engine : StageSpec
deriving DecidableEq

namespace Plan

/-- The front end writes the intermediate representation. -/
def frontendSpec (i : PlanInput) : StageSpec where
  stage := .frontend
  command := i.toolchain.frontend.command
  args := i.toolchain.frontend.extraArgs ++ [i.sourceFile, "--toJSON", i.artifacts.irFile]
  cwd := none
  timeoutSeconds := i.timeouts.frontendSeconds
  expectedArtifacts := [i.artifacts.irFile]
  captureStdoutTo := none
  logStream := .combined

/-- The script of the translator: the toolchain's, else the configured one. -/
def translatorScript (i : PlanInput) : String := i.toolchain.translate.script.getD i.translatorPath

/-- The rules file as an argument, if there is one. -/
def rulesArgs (i : PlanInput) : List String :=
  match i.rulesFile with
  | some r => if r.isEmpty then [] else [r]
  | none => []

/-- The translator prints the C program. It runs in the directory of its script. -/
def translateSpec (i : PlanInput) : StageSpec where
  stage := .translate
  command := i.toolchain.translate.command
  args := i.toolchain.translate.extraArgs ++ [translatorScript i, i.artifacts.irFile] ++ rulesArgs i
  cwd := some (Path.dirname (translatorScript i))
  timeoutSeconds := i.timeouts.translateSeconds
  expectedArtifacts := [i.artifacts.cFile]
  captureStdoutTo := some i.artifacts.cFile
  logStream := .stderr

/-- The compiler writes the bitcode. -/
def nativeSpec (i : PlanInput) : StageSpec where
  stage := .native
  command := i.toolchain.native.command
  args := ["-emit-llvm", "-g", "-c"] ++ i.toolchain.native.extraArgs ++
    [i.artifacts.cFile, "-o", i.artifacts.bitcodeFile]
  cwd := none
  timeoutSeconds := i.timeouts.nativeSeconds
  expectedArtifacts := [i.artifacts.bitcodeFile]
  captureStdoutTo := none
  logStream := .combined

/-- The engine explores the bitcode; it may stop before it makes its output directory. -/
def engineSpec (i : PlanInput) : StageSpec where
  stage := .engine
  command := i.toolchain.engine.command
  args := ["--search=" ++ i.toolchain.engine.searchStrategy, "--output-dir=" ++ i.artifacts.engineOutDir] ++
    i.toolchain.engine.extraArgs ++ [i.artifacts.bitcodeFile]
  cwd := none
  timeoutSeconds := i.timeouts.engineSeconds
  expectedArtifacts := []
  captureStdoutTo := none
  logStream := .combined

def ofInput (i : PlanInput) : Plan := ⟨[frontendSpec i, translateSpec i, nativeSpec i], engineSpec i⟩

end Plan

/-- One labelled entry of the run log. -/
def logEntry (label body : String) : String := "=== " ++ label ++ " ===\n" ++ body

/-- What ends a run before the engine's verdict. -/
inductive StageFailure where
  /-- the command failed or left out an artifact -/
  | compilation (label output : String) (missingArtifact : Option String)
  | timeout (label : String) (seconds : Number) (output : String)
  /-- the command could not be run at all, or its output could not be kept -/
  | execution (label reason : String)
  | aborted (label : String)
deriving DecidableEq

/-- The text of a stage failure; it becomes the details of the report. -/
def StageFailure.details : StageFailure → String
  | compilation label output missing =>
    label ++ " failed:\n" ++ output ++
      (match missing with
        | some a => if a.isEmpty then "" else "\nMissing artifact: " ++ a
        | none => "")
  | timeout label seconds output =>
    label ++ " timeout after " ++ seconds.text ++ "s" ++ (if output.isEmpty then "" else ":\n" ++ output)
  | execution label reason => label ++ " error: " ++ reason
  | aborted label => label ++ " aborted: run interrupted"

end DataplaneVerdict
