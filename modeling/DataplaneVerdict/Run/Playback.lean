import DataplaneVerdict.Files.Placement
import DataplaneVerdict.Run.Executor

/-!
# `Run.Playback` — an executor that plays prepared answers

Instead of running processes, this executor answers its calls from a list of prepared steps. A step may write the
artifact that the command is expected to produce, leave evidence, change the work directory, raise the abort signal, and
then fail or give a result. It records every call with the files as they were.

## Contents
- **Steps.** `PlaybackStep`.
- **Memory.** `Playback`, the remaining steps, the signal and the calls so far.
- **Executor.** `Playback.executor`.
-/

namespace DataplaneVerdict

/-- One prepared answer. -/
structure PlaybackStep where
  /-- a text for the file that the last argument names -/
  artifact : Option String := none
  evidence : Option (List Placement) := none
  make : List Placement := []
  remove : List String := []
  abort : Bool := false
  reply : Reply

/-- A call and what it could see. -/
structure RecordedCall where
  command : Command
  signal : Option Bool
  workDir : String
  files : FileSystem

/-- The memory of the executor. -/
structure Playback where
  script : List PlaybackStep
  /-- whether the abort signal has been raised, if there is one -/
  signal : Option Bool
  workDir : Option String := none
  calls : List RecordedCall := []

namespace Playback

def abortedResult : StageResult := ⟨.aborted, none, none, "", "", ""⟩

def outputDir? (c : Command) : Option String :=
  c.args.findSome? fun a =>
    if Text.startsWith a "--output-dir=" then some (String.ofList (a.toList.drop 13)) else none

/-- The effects of a step on the files; an artifact that cannot be written is a failure of the call. -/
def effects (step : PlaybackStep) (c : Command) (workDir : String) (fs : FileSystem) : Except Failure FileSystem :=
  let written : Except Failure FileSystem :=
    match step.artifact, c.args.getLast? with
    | some text, some path => (fs.writeBytes path (Utf8.encode text)).mapError Failure.file
    | _, _ => .ok fs
  written.map fun fs =>
    let fs := match step.evidence, outputDir? c with
      | some ps, some dir => (fs.ensureDirectory dir).placeAll dir ps
      | _, _ => fs
    let fs := fs.placeAll workDir step.make
    step.remove.foldl (fun fs p =>
      match fs.removeAll (Path.join workDir p) with
      | .ok fs => fs
      | .error _ => fs) fs

def call (c : Command) (w : World) (m : Playback) : Reply × World × Playback :=
  let workDir := m.workDir.getD (Path.dirname (c.args.getLast?.getD ""))
  let index := m.calls.length
  let m := { m with workDir := some workDir, calls := m.calls ++ [⟨c, m.signal, workDir, w.files⟩] }
  if m.signal = some true then (.ok abortedResult, w, m)
  else
    match m.script[index]? with
    | none => (.error (.other ("spawn " ++ c.command ++ " ENOENT") none), w, m)
    | some step =>
      match effects step c workDir w.files with
      | .error f => (.error f, w, m)
      | .ok fs =>
        let m := if step.abort then { m with signal := m.signal.map fun _ => true } else m
        (step.reply, { w with files := fs }, m)

def executor : Executor Playback := ⟨call⟩

end Playback

end DataplaneVerdict
