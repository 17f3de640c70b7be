import DataplaneVerdict.Run.Verification

/-!
# `Proofs.Recording` — the calls of a run

A run shows its outcome and the commands it issued, but not what the executor answered nor which files stood there at
that moment. `Executor.recording` is the executor with a record of its calls, and `Verifier.calls` the record of a whole
run. Statements about a run speak about this record.

The record changes nothing. More generally, a run only carries the executor's memory along: if one executor's memory is
the image of another's under `f`, and the two answer alike, then so are the two runs (`verify_mapMemory`). Forgetting
the record is such an image (`verify_eq_recording`).
-/

namespace DataplaneVerdict

-- the length of a path is the fuel of the directories made on it; nothing here may try to run them
attribute [local irreducible] WorkDir.create WorkDir.remove

/-- One answered call: the command, the answer, and the files right after it. -/
structure Call where
  command : Command
  reply : Reply
  files : FileSystem

variable {σ τ α : Type}

/-- The executor with a record of its calls. -/
def Executor.recording (e : Executor σ) : Executor (σ × List Call) where
  call c w m :=
    let answer := e.call c w m.1
    (answer.1, answer.2.1, answer.2.2, m.2 ++ [⟨c, answer.1, answer.2.1.files⟩])

namespace RunState

/-- The state with another view of the executor's memory. -/
def mapMemory (f : σ → τ) (s : RunState σ) : RunState τ := ⟨s.world, f s.memory, s.sink, s.issued⟩

@[simp] theorem mapMemory_world (f : σ → τ) (s : RunState σ) : (s.mapMemory f).world = s.world := rfl

theorem files_mapMemory (f : σ → τ) (s : RunState σ) : HasFiles.files (s.mapMemory f) = HasFiles.files s := rfl

theorem setFiles_mapMemory (f : σ → τ) (s : RunState σ) (fs : FileSystem) :
    HasFiles.setFiles (s.mapMemory f) fs = (HasFiles.setFiles s fs).mapMemory f := rfl

/-- The state once the clock has been read and an id drawn. -/
def begun (s : RunState σ) : RunState σ :=
  { s with world := { s.world with readings := s.world.readings + 1, draws := s.world.draws + 1 } }

/-- The state with an empty record. -/
def recording (s : RunState σ) : RunState (σ × List Call) := s.mapMemory fun m => (m, [])

end RunState

/-- Work directories are opened and closed alike in a state and in its image. -/
theorem WorkDir.scope_map [HasFiles σ] [HasFiles τ] {g : σ → τ}
    (hfiles : ∀ s, HasFiles.files (g s) = HasFiles.files s)
    (hset : ∀ s fs, HasFiles.setFiles (g s) fs = g (HasFiles.setFiles s fs)) (root name id : String)
    (body : String → σ → Except Failure α × σ) (body' : String → τ → Except Failure α × τ)
    (hbody : ∀ path s, body' path (g s) = ((body path s).1, g (body path s).2)) (s : σ) :
    scope root name id body' (g s) = ((scope root name id body s).1, g (scope root name id body s).2) := by
  unfold scope
  simp only [hfiles, hset]
  rcases create (HasFiles.files s) root name id with ⟨created, fs⟩
  cases created with
  | error failure => rfl
  | ok path =>
    simp only [hbody, hfiles, hset]
    cases remove (HasFiles.files (body path (HasFiles.setFiles s fs)).2) root path with
    | error failure => rfl
    | ok fs' => rfl

namespace Verifier

/-- The same run with another executor. -/
def withExecutor (v : Verifier σ) (e : Executor τ) : Verifier τ := ⟨v.settings, v.toolchain, e, v.clock, v.ids⟩

/-- The same run with a record of its calls. -/
def recording (v : Verifier σ) : Verifier (σ × List Call) := v.withExecutor v.executor.recording

/-- The calls of a run, in order. -/
def calls (v : Verifier σ) (runId : String) (request : Request) (s : RunState σ) : List Call :=
  (v.recording.verify runId request s.recording).2.memory.2

/-- The work root of a run as an absolute path. -/
def workRoot (v : Verifier σ) (s : RunState σ) : String := (Path.resolve s.world.files.cwd v.settings.workRoot).text

/-- A run is its work in a directory of its own; a failure of that work is reported. -/
theorem verify_eq (v : Verifier σ) (runId : String) (request : Request) (s : RunState σ) :
    v.verify runId request s =
      match WorkDir.scope (v.workRoot s) WorkDir.series (v.ids s.world.draws)
        (v.execute runId (v.clock s.world.readings) request) s.begun with
      | (.ok outcome, s') => (.ok outcome, s')
      | (.error failure, s') => v.reportFailure runId (v.clock s.world.readings) failure s' := rfl

/-! ## Runs and images of memories -/

/-- A result with another view of the executor's memory. -/
def mapResult (f : σ → τ) (p : α × RunState σ) : α × RunState τ := (p.1, p.2.mapMemory f)

section Image

variable {v : Verifier σ} {e : Executor τ} {f : σ → τ}

/-- The executor `e` answers as the run's own one does, on memories seen through `f`. -/
def Answers (v : Verifier σ) (e : Executor τ) (f : σ → τ) : Prop :=
  ∀ c w m, e.call c w (f m) =
    ((v.executor.call c w m).1, (v.executor.call c w m).2.1, f (v.executor.call c w m).2.2)

theorem issue_mapMemory (h : Answers v e f) (spec : StageSpec) (s : RunState σ) :
    (v.withExecutor e).issue spec (s.mapMemory f) = mapResult f (v.issue spec s) := by
  have hcall := h (commandOf spec) s.world s.memory
  simp only [issue, mapResult, RunState.mapMemory, withExecutor, hcall]

theorem runBuildStage_mapMemory (h : Answers v e f) (spec : StageSpec) (s : RunState σ) :
    (v.withExecutor e).runBuildStage spec (s.mapMemory f) = mapResult f (v.runBuildStage spec s) := by
  simp only [runBuildStage, issue_mapMemory h]
  rcases v.issue spec s with ⟨reply, s₁⟩
  cases reply with
  | error failure => rfl
  | ok r => rfl

theorem runBuild_mapMemory (h : Answers v e f) (log : List String) (run : Run) (specs : List StageSpec)
    (s : RunState σ) :
    (v.withExecutor e).runBuild log run specs (s.mapMemory f) = mapResult f (v.runBuild log run specs s) := by
  induction specs generalizing log run s with
  | nil => rfl
  | cons spec rest ih =>
    simp only [runBuild, runBuildStage_mapMemory h]
    rcases v.runBuildStage spec s with ⟨result, s₁⟩
    cases result with
    | error failure => rfl
    | ok judged =>
      cases judged with
      | error failure => rfl
      | ok entry =>
        cases move run .stageSucceeded with
        | error failure => rfl
        | ok run' => exact ih _ _ _

theorem conclude_mapMemory (run : Run) (c : Conclusion) (s : RunState σ) :
    (v.withExecutor e).conclude run c (s.mapMemory f) = mapResult f (v.conclude run c s) := by
  simp only [conclude, readClock, withExecutor, RunState.mapMemory]
  rcases s.sink.emit _ with ⟨result, sink⟩
  cases result with
  | error failure => rfl
  | ok report => rfl

theorem classifyAndReport_mapMemory (artifacts : Artifacts) (run : Run) (log : List String) (r : EngineRun)
    (s : RunState σ) :
    (v.withExecutor e).classifyAndReport artifacts run log r (s.mapMemory f) =
      mapResult f (v.classifyAndReport artifacts run log r s) := by
  simp only [classifyAndReport, conclude_mapMemory, RunState.mapMemory_world]
  cases move run .engineFinished with
  | error failure => rfl
  | ok run₁ =>
    cases Evidence.scan s.world.files artifacts.engineOutDir with
    | error failure => rfl
    | ok evidence =>
      dsimp only
      cases move run₁ .classified with
      | error failure => rfl
      | ok run₂ => rfl

theorem runEngine_mapMemory (h : Answers v e f) (input : PlanInput) (run : Run) (log : List String) (s : RunState σ) :
    (v.withExecutor e).runEngine input run log (s.mapMemory f) = mapResult f (v.runEngine input run log s) := by
  simp only [runEngine, issue_mapMemory h]
  rcases v.issue (Plan.engineSpec input) s with ⟨reply, s₁⟩
  simp only [mapResult]
  cases engineRun (Plan.engineSpec input) reply with
  | error failure => rfl
  | ok r =>
    cases hr : r.aborted with
    | false =>
      simp only [hr, Bool.false_eq_true, if_false, classifyAndReport_mapMemory]
      rfl
    | true =>
      cases move run .aborted with
      | error failure => simp only [hr, if_true]
      | ok run₁ =>
        simp only [hr, if_true, conclude_mapMemory]
        rfl

theorem execute_mapMemory (h : Answers v e f) (runId : String) (startedAt : Number) (request : Request)
    (workDir : String) (s : RunState σ) :
    (v.withExecutor e).execute runId startedAt request workDir (s.mapMemory f) =
      mapResult f (v.execute runId startedAt request workDir s) := by
  have hplan : (v.withExecutor e).planFor request workDir (s.mapMemory f).world.files =
      v.planFor request workDir s.world.files := rfl
  simp only [execute, hplan, runBuild_mapMemory h]
  cases move (Run.fresh runId request startedAt workDir) .started with
  | error failure => rfl
  | ok run =>
    dsimp only
    rcases v.runBuild [] run _ s with ⟨result, s₁⟩
    cases result with
    | error failure => rfl
    | ok ending =>
      cases ending with
      | stopped run₁ failure => exact conclude_mapMemory ..
      | built run₁ log => exact runEngine_mapMemory h ..

theorem reportFailure_mapMemory (runId : String) (startedAt : Number) (failure : Failure) (s : RunState σ) :
    (v.withExecutor e).reportFailure runId startedAt failure (s.mapMemory f) =
      mapResult f (v.reportFailure runId startedAt failure s) := by
  simp only [reportFailure, readClock, withExecutor, RunState.mapMemory]
  cases failure.text with
  | error g => rfl
  | ok reason =>
    dsimp only
    rcases s.sink.emit _ with ⟨result, sink⟩
    cases result with
    | error g => rfl
    | ok report => rfl

/-- **A run and its image.** If the executor `e` answers alike on memories seen through `f`, the run with `e` is the
    run with the own executor, seen through `f`. -/
theorem verify_mapMemory (h : Answers v e f) (runId : String) (request : Request) (s : RunState σ) :
    (v.withExecutor e).verify runId request (s.mapMemory f) = mapResult f (v.verify runId request s) := by
  have hscope := WorkDir.scope_map (RunState.files_mapMemory f) (RunState.setFiles_mapMemory f)
    (v.workRoot s) WorkDir.series (v.ids s.world.draws)
    (v.execute runId (v.clock s.world.readings) request)
    ((v.withExecutor e).execute runId (v.clock s.world.readings) request)
    (fun path s' => execute_mapMemory h runId _ request path s') s.begun
  rw [verify_eq, verify_eq]
  have hbegun : (s.mapMemory f).begun = s.begun.mapMemory f := rfl
  have hroot : (v.withExecutor e).workRoot (s.mapMemory f) = v.workRoot s := rfl
  have hids : (v.withExecutor e).ids (s.mapMemory f).world.draws = v.ids s.world.draws := rfl
  have hclock : (v.withExecutor e).clock (s.mapMemory f).world.readings = v.clock s.world.readings := rfl
  rw [hbegun, hroot, hids, hclock, hscope]
  rcases WorkDir.scope (v.workRoot s) WorkDir.series (v.ids s.world.draws)
    (v.execute runId (v.clock s.world.readings) request) s.begun with ⟨result, s₁⟩
  cases result with
  | ok outcome => rfl
  | error failure => exact reportFailure_mapMemory ..

end Image

/-- Forgetting the record gives the executor's own answers. -/
theorem answers_recording (v : Verifier σ) : Answers v.recording v.executor Prod.fst := fun _ _ _ => rfl

/-- The work of a run is that of the recorded run with the record forgotten. -/
theorem execute_eq_recording (v : Verifier σ) (runId : String) (startedAt : Number) (request : Request)
    (workDir : String) (s : RunState σ) :
    v.execute runId startedAt request workDir s =
      mapResult Prod.fst (v.recording.execute runId startedAt request workDir s.recording) :=
  execute_mapMemory (answers_recording v) runId startedAt request workDir s.recording

/-- **The record changes nothing**: a run is the recorded run with the record forgotten. -/
theorem verify_eq_recording (v : Verifier σ) (runId : String) (request : Request) (s : RunState σ) :
    v.verify runId request s = mapResult Prod.fst (v.recording.verify runId request s.recording) :=
  verify_mapMemory (answers_recording v) runId request s.recording

end Verifier

end DataplaneVerdict
