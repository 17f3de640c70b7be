import DataplaneVerdict.Proofs.BuildStages
import DataplaneVerdict.Proofs.WorkDirectory
import DataplaneVerdict.Run.Playback

/-!
# `Proofs.Course` — the courses that a run can take

`Course` lists everything that can happen between the first command of a run and its report: a build stage stops the
run, the engine is interrupted, the engine's result is classified, a call is lost because its rejection cannot be put
into words, or the engine's directory may not be listed. Each rule says which calls were made, in which state the run is
then, and what is to be reported after which phases. `execute_course` says that a run takes one of them, so a statement
about runs is proved once for each rule.

## Contents
- **Courses.** `PlanInput.Sound`, `Ending`, `Course`, `execute_course`; what a course leaves alone and what it records.
- **The whole run.** `Housed` says that the work directory was made and can be given back; `Housed.verify_course` puts
  it around a course, `Housed.verify_recorded` ties the course to the recorded calls, and `Housed.verify_reported` says
  what is written if nothing fails on the way. A rejection that cannot be told (`Call.Tells`) takes the outcome with it.
  Whatever fails, `exists_course` gives the course of a run whose directory was made, and `Reflects` says how much of it
  the outcome shows.
- **Prepared runs** for examples.
-/

namespace DataplaneVerdict

attribute [local irreducible] WorkDir.create WorkDir.remove Evidence.scan

theorem exists_of_isOk {ε α : Type} {x : Except ε α} (h : x.isOk = true) : ∃ a, x = .ok a := by
  cases x with
  | error e => cases h
  | ok a => exact ⟨a, rfl⟩

/-! ## Plans -/

/-- All stages of a plan, in order. -/
def Plan.stages (p : Plan) : List StageSpec := p.build ++ [p.engine]

theorem Plan.stages_map_stage (i : PlanInput) : (ofInput i).stages.map (·.stage) = Stage.all := rfl

theorem Plan.stages_eq {p : Plan} {pre post : List StageSpec} {spec : StageSpec} (h : p.build = pre ++ spec :: post) :
    p.stages = pre ++ spec :: (post ++ [p.engine]) := by
  rw [stages, h, List.append_assoc, List.cons_append]

/-- A plan in a proper work directory: its artifacts have names, and its evidence can be scanned unless the engine's
    directory may not be listed. -/
structure PlanInput.Sound (i : PlanInput) : Prop where
  irFile : i.artifacts.irFile ≠ ""
  cFile : i.artifacts.cFile ≠ ""
  bitcodeFile : i.artifacts.bitcodeFile ≠ ""
  unscanned : ∀ fs failure, Evidence.scan fs i.artifacts.engineOutDir = .error failure ↔
    fs.Unlistable i.artifacts.engineOutDir ∧ failure = .file ⟨.denied, .scandir, some i.artifacts.engineOutDir⟩

theorem Plan.planned_of_mem {i : PlanInput} (h : i.Sound) {spec : StageSpec} (hspec : spec ∈ (ofInput i).build) :
    spec.Planned := by
  simp only [ofInput, List.mem_cons, List.not_mem_nil, or_false] at hspec
  rcases hspec with rfl | rfl | rfl
  · exact ⟨rfl, by simpa [frontendSpec] using h.irFile.symm⟩
  · exact ⟨rfl, by simpa [translateSpec] using h.cFile.symm⟩
  · exact ⟨rfl, by simpa [nativeSpec] using h.bitcodeFile.symm⟩

theorem Plan.chained (i : PlanInput) : StageSpec.Chained (ofInput i).build := ⟨rfl, rfl, rfl, trivial⟩

namespace Verifier

variable {σ : Type}

/-- The plan of a run in a directory that it made is sound. -/
theorem planFor_sound (v : Verifier σ) (request : Request) {workDir : String} {l : Location} (hl : l.Proper)
    (hpath : workDir = l.text ∨ workDir = l.text ++ "/") (fs : FileSystem) :
    (v.planFor request workDir fs).Sound where
  irFile := Path.join_ne_empty _ _
  cFile := Path.join_ne_empty _ _
  bitcodeFile := Path.join_ne_empty _ _
  unscanned := by
    have hname : Path.IsName "klee-out" := ⟨by decide, by decide, by decide, by decide⟩
    obtain ⟨hproper, hjoin⟩ := Path.join_name hl hpath hname
    have hdir : (v.planFor request workDir fs).artifacts.engineOutDir = Location.text (l ++ ["klee-out"]) := hjoin
    rw [hdir]
    exact fun fs failure => Evidence.scan_eq_error_iff hproper fs

/-! ## Courses -/

/-- How a course ends: with phases behind it and a conclusion to report, or with a failure outside of the stages. -/
abbrev Ending := Except Failure (List Phase × Conclusion)

/-- **The course of a run.** `Course v i s calls s' ending`: from the state `s`, the run of the plan `i` makes the calls
    `calls` and is then in the state `s'`, and it ends with `ending`. -/
inductive Course (v : Verifier σ) (i : PlanInput) (s : RunState σ) : List Call → RunState σ → Ending → Prop
  /-- a build stage stops the run -/
  | stopped {pre post : List StageSpec} {spec : StageSpec} {calls : List Call} {log : List String}
      {s₁ : RunState σ} {text : String} {fs : FileSystem} (hsplit : (Plan.ofInput i).build = pre ++ spec :: post)
      (hbuilt : Built v pre s calls log s₁) (hstop : spec.StopsWith (v.callOf spec s₁) text) :
      Course v i s (calls ++ [v.callOf spec s₁]) (HasFiles.setFiles (v.answered spec s₁) fs)
        (.ok (.init :: (pre ++ [spec]).map (·.stage.phase), ⟨.error, 1, [text], [], none⟩))
  /-- the call of some stage was rejected without words -/
  | lost {pre post : List StageSpec} {spec : StageSpec} {calls : List Call} {log : List String} {s₁ : RunState σ}
      {failure g : Failure} (hsplit : (Plan.ofInput i).stages = pre ++ spec :: post)
      (hbuilt : Built v pre s calls log s₁) (hr : (v.callOf spec s₁).reply = .error failure)
      (hlost : failure.text = .error g) :
      Course v i s (calls ++ [v.callOf spec s₁]) (v.answered spec s₁) (.error g)
  /-- the engine was interrupted -/
  | interrupted {calls : List Call} {log : List String} {s₁ : RunState σ} {e : EngineRun}
      (hbuilt : Built v (Plan.ofInput i).build s calls log s₁)
      (hrun : engineRun (Plan.engineSpec i) (v.callOf (Plan.engineSpec i) s₁).reply = .ok e)
      (haborted : e.aborted = true) :
      Course v i s (calls ++ [v.callOf (Plan.engineSpec i) s₁]) (v.answered (Plan.engineSpec i) s₁)
        (.ok (.init :: (Plan.ofInput i).stages.map (·.stage.phase),
          ⟨.error, 1, log ++ [e.entry] ++ [(StageFailure.aborted Stage.engine.label).details], [], none⟩))
  /-- the engine has left a directory that may not be listed -/
  | unscanned {calls : List Call} {log : List String} {s₁ : RunState σ} {e : EngineRun} {failure : Failure}
      (hbuilt : Built v (Plan.ofInput i).build s calls log s₁)
      (hrun : engineRun (Plan.engineSpec i) (v.callOf (Plan.engineSpec i) s₁).reply = .ok e)
      (haborted : e.aborted = false)
      (hscan : Evidence.scan (v.callOf (Plan.engineSpec i) s₁).files i.artifacts.engineOutDir = .error failure) :
      Course v i s (calls ++ [v.callOf (Plan.engineSpec i) s₁]) (v.answered (Plan.engineSpec i) s₁) (.error failure)
  /-- the engine's result is classified together with the evidence -/
  | classified {calls : List Call} {log : List String} {s₁ : RunState σ} {e : EngineRun} {evidence : Evidence}
      (hbuilt : Built v (Plan.ofInput i).build s calls log s₁)
      (hrun : engineRun (Plan.engineSpec i) (v.callOf (Plan.engineSpec i) s₁).reply = .ok e)
      (haborted : e.aborted = false)
      (hscan : Evidence.scan (v.callOf (Plan.engineSpec i) s₁).files i.artifacts.engineOutDir = .ok evidence) :
      Course v i s (calls ++ [v.callOf (Plan.engineSpec i) s₁]) (v.answered (Plan.engineSpec i) s₁)
        (.ok (.init :: (Plan.ofInput i).stages.map (·.stage.phase) ++ [.classify],
          ⟨(classify (e.observation evidence.texts) Rule.builtin).verdict, 0, log ++ [e.entry], evidence.texts,
            some (classify (e.observation evidence.texts) Rule.builtin).ruleId⟩))

/-- The end of a course can be told: if it is a failure, it has words. -/
def Told (ending : Ending) : Prop := ∀ failure, ending = .error failure → failure.Worded

/-- The end of a run whose course is known. -/
def finish (v : Verifier σ) (run : Run) (s : RunState σ) : Ending → Except Failure Outcome × RunState σ
  | .error failure => (.error failure, s)
  | .ok (before, c) => v.conclude (run.standing .report before) c s

/-- An engine's answer says something unless it is a rejection without words. -/
theorem engineRun_eq_error {spec : StageSpec} {reply : Reply} {failure : Failure}
    (h : engineRun spec reply = .error failure) : ∃ g, reply = .error g ∧ g.text = .error failure := by
  cases reply with
  | ok r =>
    by_cases hst : r.status = .timedOut <;> simp [engineRun, hst] at h
  | error g =>
    cases htext : g.text with
    | ok reason => exact absurd h (by simp [engineRun, htext, Except.map])
    | error f =>
      obtain rfl : f = failure := by simpa [engineRun, htext, Except.map] using h
      exact ⟨g, rfl, htext⟩

/-- The engine's part of a run takes the course that its call decides. -/
theorem runEngine_course (v : Verifier σ) {i : PlanInput} {s s₁ : RunState σ} {calls : List Call}
    {log : List String} (hbuilt : Built v (Plan.ofInput i).build s calls log s₁) (run : Run) :
    ∃ ending, Course v i s (calls ++ [v.callOf (Plan.engineSpec i) s₁]) (v.answered (Plan.engineSpec i) s₁) ending ∧
      v.runEngine i (run.standing .engine (.init :: (Plan.ofInput i).build.map (·.stage.phase))) log s₁ =
        v.finish run (v.answered (Plan.engineSpec i) s₁) ending := by
  rw [runEngine, issue_eq]
  dsimp only
  cases hrun : engineRun (Plan.engineSpec i) (v.callOf (Plan.engineSpec i) s₁).reply with
  | error failure =>
    obtain ⟨g, hr, hlost⟩ := engineRun_eq_error hrun
    exact ⟨_, .lost rfl hbuilt hr hlost, rfl⟩
  | ok e =>
    dsimp only
    cases haborted : e.aborted with
    | true =>
      refine ⟨_, .interrupted hbuilt hrun haborted, ?_⟩
      rw [if_pos rfl, move_standing (show Phase.engine.next? .aborted = some .report from rfl)]
      rfl
    | false =>
      have hfiles : (v.answered (Plan.engineSpec i) s₁).world.files = (v.callOf (Plan.engineSpec i) s₁).files := rfl
      rw [if_neg Bool.false_ne_true, classifyAndReport,
        move_standing (show Phase.engine.next? .engineFinished = some .classify from rfl)]
      dsimp only
      rw [hfiles]
      cases hscan : Evidence.scan (v.callOf (Plan.engineSpec i) s₁).files i.artifacts.engineOutDir with
      | error failure => exact ⟨_, .unscanned hbuilt hrun haborted hscan, rfl⟩
      | ok evidence =>
        refine ⟨_, .classified hbuilt hrun haborted hscan, ?_⟩
        dsimp only
        rw [move_standing (show Phase.classify.next? .classified = some .report from rfl)]
        rfl

/-- The state of a run after its last call. -/
def afterCalls (v : Verifier σ) (i : PlanInput) (run : Run) (s : RunState σ) : RunState σ :=
  match v.runBuild [] (run.standing .frontend [.init]) (Plan.ofInput i).build s with
  | (.ok (.built _ _), s) => v.answered (Plan.engineSpec i) s
  | (_, s) => s

/-- **A run takes one of the courses.** -/
theorem execute_course (v : Verifier σ) (runId : String) (startedAt : Number) (request : Request) (workDir : String)
    (s : RunState σ) (hsound : (v.planFor request workDir s.world.files).Sound) :
    ∃ calls s' ending, Course v (v.planFor request workDir s.world.files) s calls s' ending ∧
      v.afterCalls (v.planFor request workDir s.world.files) (Run.fresh runId request startedAt workDir) s = s' ∧
      v.execute runId startedAt request workDir s =
        v.finish (Run.fresh runId request startedAt workDir) s' ending := by
  have hstart : move (Run.fresh runId request startedAt workDir) .started =
      .ok ((Run.fresh runId request startedAt workDir).standing .frontend [.init]) := rfl
  rw [execute, hstart, afterCalls]
  dsimp only
  have hbuild := runBuild_cases v (Plan.ofInput (v.planFor request workDir s.world.files)).build
    (fun _ => Plan.planned_of_mem hsound) (Plan.chained _) [] (Run.fresh runId request startedAt workDir) [.init] s
  rw [show Phase.awaiting (Plan.ofInput (v.planFor request workDir s.world.files)).build = .frontend from rfl] at hbuild
  obtain ⟨calls, log, s₁, hbuilt, heq⟩ | ⟨pre, spec, post, calls, log, s₁, failure, fs, hsplit, hbuilt, hstop, heq⟩ |
    ⟨pre, spec, post, calls, log, s₁, failure, g, hsplit, hbuilt, hr, hlost, heq⟩ := hbuild
  · rw [heq]
    obtain ⟨ending, hcourse, hfinish⟩ := runEngine_course v hbuilt (Run.fresh runId request startedAt workDir)
    exact ⟨_, _, ending, hcourse, rfl, hfinish⟩
  · rw [heq]
    exact ⟨_, _, _, .stopped hsplit hbuilt hstop, rfl, rfl⟩
  · rw [heq]
    exact ⟨_, _, _, .lost (Plan.stages_eq hsplit) hbuilt hr hlost, rfl, rfl⟩

/-! ## What a course leaves alone, and what it records -/

section Frame

variable {v : Verifier σ} {s s' : RunState σ} {calls : List Call} {specs : List StageSpec} {log : List String}

theorem Built.commands (h : Built v specs s calls log s') : calls.map (·.command) = specs.map commandOf := by
  induction h with
  | nil => rfl
  | cons hr haccepts hrest ih => rw [List.map_cons, List.map_cons, ih]; rfl

theorem Built.length_eq (h : Built v specs s calls log s') : calls.length = specs.length := by
  have hcommands := congrArg List.length h.commands
  rwa [List.length_map, List.length_map] at hcommands

theorem Built.sink (h : Built v specs s calls log s') : s'.sink = s.sink := by
  induction h with
  | nil => rfl
  | cons hr haccepts hrest ih => exact ih

theorem Built.issued (h : Built v specs s calls log s') : s'.issued = s.issued ++ calls.map (·.command) := by
  induction h with
  | nil => simp
  | cons hr haccepts hrest ih =>
    rw [ih]
    simp [HasFiles.setFiles, answered, callOf]

theorem Built.record {v : Verifier σ} {s s' : RunState (σ × List Call)} (h : Built v.recording specs s calls log s') :
    s'.memory.2 = s.memory.2 ++ calls := by
  induction h with
  | nil => simp
  | @cons spec _ s _ _ _ _ _ hr haccepts hrest ih =>
    have hcall : (v.recording.answered spec s).memory.2 = s.memory.2 ++ [v.recording.callOf spec s] := rfl
    rw [ih]
    simp [HasFiles.setFiles, hcall]

/-- What every call preserves of the executor's memory, stages that passed preserve. -/
theorem Built.memory {P : σ → Prop} (h : Built v specs s calls log s')
    (hcall : ∀ spec ∈ specs, ∀ w m, P m → P (v.executor.call (commandOf spec) w m).2.2) (hs : P s.memory) :
    P s'.memory := by
  induction h with
  | nil => exact hs
  | cons hr haccepts hrest ih =>
    obtain ⟨hfirst, hcall⟩ := List.forall_mem_cons.mp hcall
    exact ih hcall (hfirst _ _ hs)

variable {i : PlanInput} {ending : Ending}

/-- Every course is a number of stages that passed and one more call. -/
theorem Course.last_call (h : Course v i s calls s' ending) :
    ∃ pre spec post before log s₁ fs, (Plan.ofInput i).stages = pre ++ spec :: post ∧ Built v pre s before log s₁ ∧
      calls = before ++ [v.callOf spec s₁] ∧ s' = HasFiles.setFiles (v.answered spec s₁) fs := by
  cases h with
  | @stopped pre post spec before log s₁ text fs hsplit hbuilt hstop =>
    exact ⟨pre, spec, _, before, log, s₁, fs, Plan.stages_eq hsplit, hbuilt, rfl, rfl⟩
  | @lost pre post spec before log s₁ failure g hsplit hbuilt hr hlost =>
    exact ⟨pre, spec, post, before, log, s₁, _, hsplit, hbuilt, rfl, rfl⟩
  | @interrupted before log s₁ e hbuilt hrun haborted =>
    exact ⟨_, _, [], before, log, s₁, _, rfl, hbuilt, rfl, rfl⟩
  | @unscanned before log s₁ e failure hbuilt hrun haborted hscan =>
    exact ⟨_, _, [], before, log, s₁, _, rfl, hbuilt, rfl, rfl⟩
  | @classified before log s₁ e evidence hbuilt hrun haborted hscan =>
    exact ⟨_, _, [], before, log, s₁, _, rfl, hbuilt, rfl, rfl⟩

/-- The commands of a course are those of the first stages of the plan. -/
theorem Course.commands_isPrefix (h : Course v i s calls s' ending) :
    calls.map (·.command) <+: (Plan.ofInput i).stages.map commandOf := by
  obtain ⟨pre, spec, post, before, log, s₁, fs, hstages, hbuilt, rfl, rfl⟩ := h.last_call
  refine ⟨post.map commandOf, ?_⟩
  rw [hstages, List.map_append, hbuilt.commands]
  simp [callOf]

theorem Course.calls_ne_nil (h : Course v i s calls s' ending) : calls ≠ [] := by
  obtain ⟨pre, spec, post, before, log, s₁, fs, hstages, hbuilt, rfl, rfl⟩ := h.last_call
  exact List.append_ne_nil_of_right_ne_nil _ (List.cons_ne_nil _ _)

/-- The fourth call is the last one. -/
theorem eq_last_of_fourth {made : List Call} {last call : Call} (hmade : made.length ≤ 3)
    (h : (made ++ [last])[3]? = some call) : made.length = 3 ∧ last = call := by
  have hbound := (List.getElem?_eq_some_iff.mp h).1
  rw [List.length_append, List.length_singleton] at hbound
  have hthree : made.length = 3 := by omega
  rw [List.getElem?_append_right hmade, hthree] at h
  exact ⟨hthree, Option.some.inj h⟩

/-- What every call preserves of the executor's memory, a course preserves. -/
theorem Course.memory {P : σ → Prop} (h : Course v i s calls s' ending)
    (hcall : ∀ spec ∈ (Plan.ofInput i).stages, ∀ w m, P m → P (v.executor.call (commandOf spec) w m).2.2)
    (hs : P s.memory) : P s'.memory := by
  obtain ⟨pre, spec, post, before, log, s₁, fs, hstages, hbuilt, rfl, rfl⟩ := h.last_call
  rw [hstages] at hcall
  have hbefore := hbuilt.memory (fun spec hspec => hcall spec (List.mem_append_left _ hspec)) hs
  exact hcall spec (List.mem_append_right _ List.mem_cons_self) _ _ hbefore

/-- No command writes a report. -/
theorem Course.sink (h : Course v i s calls s' ending) : s'.sink = s.sink := by
  obtain ⟨pre, spec, post, before, log, s₁, fs, hstages, hbuilt, rfl, rfl⟩ := h.last_call
  exact hbuilt.sink

/-- The commands issued are those of the calls. -/
theorem Course.issued (h : Course v i s calls s' ending) : s'.issued = s.issued ++ calls.map (·.command) := by
  obtain ⟨pre, spec, post, before, log, s₁, fs, hstages, hbuilt, rfl, rfl⟩ := h.last_call
  simp [HasFiles.setFiles, answered, callOf, hbuilt.issued]

/-- The end of a course can be told if its last call can: the calls before it were not rejected, and a directory that
may not be listed says so. -/
theorem Course.told (h : Course v i s calls s' ending) (hsound : i.Sound)
    (htells : ∀ call, calls.getLast? = some call → call.Tells) : Told ending := by
  intro failure hfailure
  cases h with
  | lost hsplit hbuilt hr hlost =>
    obtain rfl := Except.error.inj hfailure
    exact htells _ List.getLast?_concat _ hr _ hlost
  | unscanned hbuilt hrun haborted hscan =>
    obtain rfl := Except.error.inj hfailure
    rw [((hsound.unscanned _ _).mp hscan).2]
    exact ⟨_, rfl⟩
  | stopped | interrupted | classified => cases hfailure

/-- The record of a recorded run is its calls. -/
theorem Course.record {v : Verifier σ} {s s' : RunState (σ × List Call)} (h : Course v.recording i s calls s' ending) :
    s'.memory.2 = s.memory.2 ++ calls := by
  obtain ⟨pre, spec, post, before, log, s₁, fs, hstages, hbuilt, rfl, rfl⟩ := h.last_call
  have hcall : (v.recording.answered spec s₁).memory.2 = s₁.memory.2 ++ [v.recording.callOf spec s₁] := rfl
  simp [HasFiles.setFiles, hcall, hbuilt.record]

end Frame

/-! ## The whole run -/

/-- The work directory of a run, or why there is none, with the files as they are then. -/
def opened (v : Verifier σ) (s : RunState σ) : Except Failure String × FileSystem :=
  WorkDir.create s.world.files (v.workRoot s) WorkDir.series (v.ids s.world.draws)

/-- The state in which a run starts to work in its directory. -/
def entered (v : Verifier σ) (s : RunState σ) : RunState σ := HasFiles.setFiles s.begun (v.opened s).2

/-- The plan of a run in its directory. -/
def plan (v : Verifier σ) (request : Request) (s : RunState σ) (workDir : String) : PlanInput :=
  v.planFor request workDir (v.opened s).2

/-- Gives the work directory back once the run's work in it is done. -/
def release (v : Verifier σ) (runId : String) (request : Request) (s : RunState σ) (workDir : String) :
    Except Failure FileSystem :=
  WorkDir.remove (v.execute runId (v.clock s.world.readings) request workDir (v.entered s)).2.world.files
    (v.workRoot s) workDir

/-- The state of a run in its directory after its last call. -/
def settled (v : Verifier σ) (runId : String) (request : Request) (s : RunState σ) (workDir : String) : RunState σ :=
  v.afterCalls (v.plan request s workDir) (Run.fresh runId request (v.clock s.world.readings) workDir) (v.entered s)

/-- **The run has a work directory**: it was made, and it can be given back. -/
structure Housed (v : Verifier σ) (runId : String) (request : Request) (s : RunState σ) (workDir : String) : Prop where
  created : (v.opened s).1 = .ok workDir
  released : (v.release runId request s workDir).isOk = true

/-- What is to be reported at the end of a course. -/
def draft (startedAt finishedAt : Number) : Ending → Draft
  | .error failure => ⟨.str Verdict.error.name, startedAt, finishedAt, ["Pipeline error: " ++ failure.message], []⟩
  | .ok (_, c) => ⟨.str c.verdict.name, startedAt, finishedAt, c.log, c.evidence.map .str⟩

/-- The report at the end of a course. -/
def reportOf (startedAt finishedAt : Number) : Ending → Report
  | .error failure => .ofRun .error startedAt finishedAt ["Pipeline error: " ++ failure.message] []
  | .ok (_, c) => .ofRun c.verdict startedAt finishedAt c.log c.evidence

/-- The outcome at the end of a course, by the report that was written. -/
def outcome (runId : String) (report : Report) : Ending → Outcome
  | .error _ => ⟨runId, .error, 1, report, [], none⟩
  | .ok (before, c) => ⟨runId, report.verdict, c.exitCode, report, before ++ [.report, .done], c.ruleId⟩

variable {v : Verifier σ} {runId : String} {request : Request} {s : RunState σ} {workDir : String}

theorem isAbsolute_workRoot (v : Verifier σ) (s : RunState σ) : Path.isAbsolute (v.workRoot s) = true :=
  Location.isAbsolute_text _

theorem create_of_opened (h : (v.opened s).1 = .ok workDir) :
    WorkDir.create s.world.files (v.workRoot s) WorkDir.series (v.ids s.world.draws) = (.ok workDir, (v.opened s).2) :=
  Prod.ext h rfl

theorem plan_sound (h : (v.opened s).1 = .ok workDir) : (v.plan request s workDir).Sound := by
  obtain ⟨l, hl, hpath⟩ := WorkDir.create_path (v.isAbsolute_workRoot s) (create_of_opened h)
  exact v.planFor_sound request hl hpath _

/-- **A work directory can be given back** unless the work root is the root of the tree or the id is no name. -/
theorem release_isOk {r : Location} (hr : r.Proper) (hne : r ≠ []) (hroot : v.workRoot s = r.text)
    (hid : Path.IsName (WorkDir.series ++ "-" ++ v.ids s.world.draws)) (hcreated : (v.opened s).1 = .ok workDir) :
    (v.release runId request s workDir).isOk = true := by
  rw [release, (WorkDir.create_eq_ok (create_of_opened hcreated)).1, hroot]
  exact WorkDir.remove_isOk hr hne hid _

/-- A run whose directory was made does its work and gives the directory back; a failure of either is reported. -/
theorem verify_of_opened (hcreated : (v.opened s).1 = .ok workDir) :
    v.verify runId request s =
      match v.release runId request s workDir with
      | .error failure => v.reportFailure runId (v.clock s.world.readings) failure
          (v.execute runId (v.clock s.world.readings) request workDir (v.entered s)).2
      | .ok fs =>
        match v.execute runId (v.clock s.world.readings) request workDir (v.entered s) with
        | (.ok outcome, s') => (.ok outcome, HasFiles.setFiles s' fs)
        | (.error failure, s') =>
          v.reportFailure runId (v.clock s.world.readings) failure (HasFiles.setFiles s' fs) := by
  have hopened : WorkDir.create (HasFiles.files s.begun) (v.workRoot s) WorkDir.series (v.ids s.world.draws) =
      (.ok workDir, (v.opened s).2) := create_of_opened hcreated
  have hentered : HasFiles.setFiles s.begun (v.opened s).2 = v.entered s := rfl
  rw [Verifier.verify_eq]
  cases hrelease : v.release runId request s workDir with
  | error failure =>
    rw [WorkDir.scope_of_refused hopened hrelease, hentered]
  | ok fs =>
    rw [WorkDir.scope_of_ok hopened hrelease, hentered]
    rcases v.execute runId (v.clock s.world.readings) request workDir (v.entered s) with ⟨result, s₁⟩
    cases result with
    | ok outcome => rfl
    | error failure => rfl

/-- The whole run is its work between the making and the giving back of the directory. -/
theorem Housed.verify_eq (h : v.Housed runId request s workDir) :
    ∃ fs, v.verify runId request s =
      match v.execute runId (v.clock s.world.readings) request workDir (v.entered s) with
      | (.ok outcome, s') => (.ok outcome, HasFiles.setFiles s' fs)
      | (.error failure, s') =>
        v.reportFailure runId (v.clock s.world.readings) failure (HasFiles.setFiles s' fs) := by
  obtain ⟨fs, hrelease⟩ := exists_of_isOk h.released
  exact ⟨fs, by rw [verify_of_opened h.created, hrelease]⟩

/-- A run that stands at the report is done once the report is written. -/
theorem conclude_standing (run : Run) {before : List Phase} {c : Conclusion} {report : Report} {sink : Sink}
    (hemit : s.sink.emit (draft run.startedAt (v.clock s.world.readings) (.ok (before, c))) = (.ok report, sink)) :
    v.conclude (run.standing .report before) c s =
      (.ok (outcome run.id report (.ok (before, c))),
        ⟨{ s.world with readings := s.world.readings + 1 }, s.memory, sink, s.issued⟩) := by
  have hdone : move (run.standing .report before) .reported = .ok (run.standing .done (before ++ [.report])) :=
    move_standing rfl
  unfold draft at hemit
  simp only [conclude, readClock]
  rw [hdone]
  simp only [hemit, Except.map, outcome, Run.standing, List.append_assoc, List.cons_append, List.nil_append]

/-- With a writer whose failures have words, a run that comes to a conclusion ends with an outcome. -/
theorem finish_isOk (v : Verifier σ) (run : Run) (last : List Phase × Conclusion) (hsink : s.sink.Worded) :
    ∃ o s', v.finish run s (.ok last) = (.ok o, s') ∧ s'.sink.Worded := by
  obtain ⟨report, sink, hemit, -⟩ :=
    Sink.emit_of_worded hsink (draft run.startedAt (v.clock s.world.readings) (.ok last))
  have hsame := hsink.emit (draft run.startedAt (v.clock s.world.readings) (.ok last))
  rw [hemit] at hsame
  exact ⟨_, _, conclude_standing run hemit, hsame⟩

/-- A failure outside the stages is reported as well, by its words. -/
theorem reportFailure_eq {startedAt : Number} {failure : Failure} {report : Report} {sink : Sink}
    (hworded : failure.Worded)
    (hemit : s.sink.emit (draft startedAt (v.clock s.world.readings) (.error failure)) = (.ok report, sink)) :
    v.reportFailure runId startedAt failure s =
      (.ok (outcome runId report (.error failure)),
        ⟨{ s.world with readings := s.world.readings + 1 }, s.memory, sink, s.issued⟩) := by
  unfold draft at hemit
  simp only [reportFailure, hworded.text_eq, readClock, hemit, outcome]

/-- **The whole run.** With a writer whose failures have words, a run in a work directory takes a course, and if the end
    of that course can be told, it reports what the course has to report and ends with its outcome. -/
theorem Housed.verify_course (h : v.Housed runId request s workDir) (hsink : s.sink.Worded) :
    ∃ calls ending,
      Course v (v.plan request s workDir) (v.entered s) calls (v.settled runId request s workDir) ending ∧
      (Told ending → ∃ report s',
        s.sink.emit (draft (v.clock s.world.readings) (v.clock (v.settled runId request s workDir).world.readings)
          ending) = (.ok report, s'.sink) ∧
        s'.memory = (v.settled runId request s workDir).memory ∧
        v.verify runId request s = (.ok (outcome runId report ending), s')) := by
  obtain ⟨calls, s₁, ending, hcourse, hsettled, hexecute⟩ :=
    v.execute_course runId (v.clock s.world.readings) request workDir (v.entered s) (plan_sound h.created)
  obtain ⟨fs, hverify⟩ := h.verify_eq
  have hsame : s₁.sink = s.sink := hcourse.sink
  have hstate : v.settled runId request s workDir = s₁ := hsettled
  rw [hstate]
  refine ⟨calls, ending, hcourse, fun htold => ?_⟩
  obtain ⟨report, sink, hemit, -⟩ :=
    Sink.emit_of_worded hsink (draft (v.clock s.world.readings) (v.clock s₁.world.readings) ending)
  refine ⟨report,
    ⟨{ s₁.world with files := fs, readings := s₁.world.readings + 1 }, s₁.memory, sink, s₁.issued⟩, hemit, rfl, ?_⟩
  rw [hverify, hexecute]
  rw [← hsame] at hemit
  cases ending with
  | error failure =>
    rw [finish]
    exact reportFailure_eq (s := HasFiles.setFiles s₁ fs) (htold failure rfl) hemit
  | ok last =>
    obtain ⟨before, c⟩ := last
    rw [finish, conclude_standing (Run.fresh runId request (v.clock s.world.readings) workDir) hemit]
    rfl

theorem reportOf_valid {a b : Number} (h : (elapsedMs a b).isFinite = true) (ending : Ending) :
    (reportOf a b ending).Valid := by
  cases ending with
  | error failure => exact Report.ofRun_valid h
  | ok last => exact Report.ofRun_valid h

/-- On a writer that never fails, a course that took a finite time is reported as it is. -/
theorem emit_draft {sink : Sink} (hsink : sink.Open) {a b : Number} (h : (elapsedMs a b).isFinite = true)
    (ending : Ending) :
    sink.emit (draft a b ending) = (.ok (reportOf a b ending), sink.wrote (reportOf a b ending).line) := by
  have hassemble : Report.assemble (draft a b ending) = .ok (reportOf a b ending) := by
    cases ending with
    | error failure => exact @Report.assemble_of_finite .error a b _ [] h
    | ok last => exact Report.assemble_of_finite h
  rw [Sink.emit_of_open hsink, Report.ofDraft, hassemble]

/-- A run and its image have the same work directory. -/
theorem Housed.of_mapMemory {τ : Type} {e : Executor τ} {f : σ → τ} (hanswers : Answers v e f)
    (h : (v.withExecutor e).Housed runId request (s.mapMemory f) workDir) : v.Housed runId request s workDir := by
  refine ⟨h.created, ?_⟩
  have hexecute := execute_mapMemory hanswers runId (v.clock s.world.readings) request workDir (v.entered s)
  have hworld : ((v.withExecutor e).execute runId (v.clock s.world.readings) request workDir
      ((v.withExecutor e).entered (s.mapMemory f))).2.world =
      (v.execute runId (v.clock s.world.readings) request workDir (v.entered s)).2.world :=
    congrArg (fun p => p.2.world) hexecute
  have hreleased := h.released
  unfold release at hreleased ⊢
  rw [← hworld]
  exact hreleased

/-- A recorded run has the same work directory. -/
theorem Housed.recording (h : v.Housed runId request s workDir) :
    v.recording.Housed runId request s.recording workDir :=
  Housed.of_mapMemory (s := s.recording) (answers_recording v) h

/-- The executor's side of a state: its memory and the commands that it was given. -/
def asked (s : RunState σ) : σ × List Command := (s.memory, s.issued)

theorem asked_conclude (v : Verifier σ) (run : Run) (c : Conclusion) (s : RunState σ) :
    asked (v.conclude run c s).2 = asked s := by
  simp only [conclude, readClock]
  split <;> rfl

theorem asked_reportFailure (v : Verifier σ) (runId : String) (startedAt : Number) (failure : Failure)
    (s : RunState σ) : asked (v.reportFailure runId startedAt failure s).2 = asked s := by
  simp only [reportFailure, readClock]
  split
  · rfl
  · split <;> rfl

theorem asked_finish (v : Verifier σ) (run : Run) (s : RunState σ) (ending : Ending) :
    asked (v.finish run s ending).2 = asked s := by
  cases ending with
  | error failure => rfl
  | ok last => exact asked_conclude ..

/-- Nothing that follows the last call asks the executor again. -/
theorem asked_verify (hcreated : (v.opened s).1 = .ok workDir) :
    asked (v.verify runId request s).2 = asked (v.settled runId request s workDir) := by
  obtain ⟨calls, s₁, ending, -, hsettled, hexecute⟩ :=
    v.execute_course runId (v.clock s.world.readings) request workDir (v.entered s) (plan_sound hcreated)
  have hstate : v.settled runId request s workDir = s₁ := hsettled
  have hasked : asked (v.execute runId (v.clock s.world.readings) request workDir (v.entered s)).2 = asked s₁ := by
    rw [hexecute]
    exact asked_finish ..
  rw [hstate, ← hasked, verify_of_opened hcreated]
  cases v.release runId request s workDir with
  | error failure => exact asked_reportFailure ..
  | ok fs =>
    rcases v.execute runId (v.clock s.world.readings) request workDir (v.entered s) with ⟨result, s'⟩
    cases result with
    | ok outcome => rfl
    | error failure => exact asked_reportFailure ..

theorem memory_verify (hcreated : (v.opened s).1 = .ok workDir) :
    (v.verify runId request s).2.memory = (v.settled runId request s workDir).memory :=
  congrArg Prod.fst (asked_verify hcreated)

/-- The calls of a run are what its record holds after the last one. -/
theorem calls_of_opened (hcreated : (v.opened s).1 = .ok workDir) :
    v.calls runId request s = (v.recording.settled runId request s.recording workDir).memory.2 := by
  have hrecorded : (v.recording.opened s.recording).1 = .ok workDir := hcreated
  rw [Verifier.calls, memory_verify hrecorded]

/-- A run whose directory cannot be made reports just that. -/
theorem verify_of_unopened {f : Failure} (h : (v.opened s).1 = .error f) :
    v.verify runId request s =
      v.reportFailure runId (v.clock s.world.readings) f (HasFiles.setFiles s.begun (v.opened s).2) := by
  have hcreate : WorkDir.create (HasFiles.files s.begun) (v.workRoot s) WorkDir.series (v.ids s.world.draws) =
      (.error f, (v.opened s).2) := Prod.ext h rfl
  rw [verify_eq, WorkDir.scope_of_error hcreate]

theorem calls_of_unopened {f : Failure} (h : (v.opened s).1 = .error f) : v.calls runId request s = [] := by
  have hrecorded : (v.recording.opened s.recording).1 = .error f := h
  rw [calls, verify_of_unopened hrecorded]
  exact congrArg (fun p : (σ × List Call) × List Command => p.1.2) (asked_reportFailure ..)

/-! ### Outcomes, whatever clock, writer and directory do -/

variable {o : Outcome} {s' : RunState σ}

/-- **What an outcome shows of a course**, whatever goes wrong outside of it: the rule of the course, and its verdict or
    `error`; or nothing of it, and then the verdict is `error`. -/
def Reflects (o : Outcome) (ending : Ending) : Prop :=
  (o.verdict = .error ∧ o.ruleId = none) ∨
    ∃ before c, ending = .ok (before, c) ∧ (o.verdict = c.verdict ∨ o.verdict = .error) ∧ o.ruleId = c.ruleId

theorem reflects_reportFailure {startedAt : Number} {failure : Failure} (ending : Ending)
    (h : v.reportFailure runId startedAt failure s = (.ok o, s')) : Reflects o ending := by
  simp only [reportFailure, readClock] at h
  split at h
  · cases h
  · split at h
    · cases h
    · rw [← Except.ok.inj (Prod.mk.inj h).1]
      exact .inl ⟨rfl, rfl⟩

theorem reflects_conclude {run : Run} {before : List Phase} {c : Conclusion}
    (h : v.conclude run c s = (.ok o, s')) : Reflects o (.ok (before, c)) := by
  simp only [conclude, readClock] at h
  split at h
  · cases h
  · rename_i report sink hemit
    have hreport : report.verdict = c.verdict ∨ report.verdict = .error := by
      rcases Sink.emit_cases hemit with hassemble | ⟨message, rfl⟩
      · exact .inl (Report.verdict_of_assemble hassemble)
      · exact .inr rfl
    cases hdone : move run .reported with
    | error failure =>
      rw [hdone] at h
      cases h
    | ok done =>
      rw [hdone] at h
      rw [← Except.ok.inj (Prod.mk.inj h).1]
      exact .inr ⟨before, c, rfl, hreport, rfl⟩

theorem reflects_finish {ending : Ending} {run : Run} {s₁ : RunState σ}
    (hcreated : (v.opened s).1 = .ok workDir)
    (hexecute : v.execute runId (v.clock s.world.readings) request workDir (v.entered s) = v.finish run s₁ ending)
    (hverify : v.verify runId request s = (.ok o, s')) : Reflects o ending := by
  rw [verify_of_opened hcreated] at hverify
  cases hrelease : v.release runId request s workDir with
  | error failure =>
    rw [hrelease] at hverify
    exact reflects_reportFailure ending hverify
  | ok fs =>
    rw [hrelease, hexecute] at hverify
    cases ending with
    | error failure => exact reflects_reportFailure _ hverify
    | ok last =>
      obtain ⟨before, c⟩ := last
      rw [finish] at hverify
      rcases hconclude : v.conclude (run.standing .report before) c s₁ with ⟨result, s₂⟩
      rw [hconclude] at hverify
      cases result with
      | error failure => exact reflects_reportFailure _ hverify
      | ok o' =>
        obtain rfl : o' = o := Except.ok.inj (Prod.mk.inj hverify).1
        exact reflects_conclude hconclude

/-- The work of a recorded run is a course of the calls that it records. -/
theorem exists_execute (runId : String) (request : Request) (hcreated : (v.opened s).1 = .ok workDir) :
    ∃ ending, Course v.recording (v.plan request s workDir) (v.recording.entered s.recording)
        (v.calls runId request s) (v.recording.settled runId request s.recording workDir) ending ∧
      v.recording.execute runId (v.clock s.world.readings) request workDir (v.recording.entered s.recording) =
        v.recording.finish (Run.fresh runId request (v.clock s.world.readings) workDir)
          (v.recording.settled runId request s.recording workDir) ending := by
  have hrecorded : (v.recording.opened s.recording).1 = .ok workDir := hcreated
  obtain ⟨calls, s₁, ending, hcourse, hsettled, hexecute⟩ :=
    v.recording.execute_course runId (v.clock s.world.readings) request workDir (v.recording.entered s.recording)
      (plan_sound hrecorded)
  have hstate : v.recording.settled runId request s.recording workDir = s₁ := hsettled
  -- the record is empty at the start, so in the end it holds the calls of this course and no others
  have hcalls : v.calls runId request s = calls := by
    rw [calls_of_opened hcreated, hstate, hcourse.record]
    rfl
  rw [hcalls, hstate]
  exact ⟨ending, hcourse, hexecute⟩

/-- **The course of a run and its outcome.** -/
theorem exists_course (runId : String) (request : Request) (hcreated : (v.opened s).1 = .ok workDir) :
    ∃ ending, Course v.recording (v.plan request s workDir) (v.recording.entered s.recording)
        (v.calls runId request s) (v.recording.settled runId request s.recording workDir) ending ∧
      ∀ o s', v.verify runId request s = (.ok o, s') → Reflects o ending := by
  have hrecorded : (v.recording.opened s.recording).1 = .ok workDir := hcreated
  obtain ⟨ending, hcourse, hexecute⟩ := exists_execute runId request hcreated
  refine ⟨ending, hcourse, fun o s' hverify => ?_⟩
  rcases hsame : v.recording.verify runId request s.recording with ⟨result, s₂⟩
  rw [verify_eq_recording, hsame] at hverify
  obtain rfl : result = .ok o := (Prod.mk.inj hverify).1
  exact reflects_finish hrecorded hexecute hsame

/-! ### Reports -/

/-- The commands of a run whose directory was made are those of its calls. -/
theorem issued_verify (hcreated : (v.opened s).1 = .ok workDir) :
    (v.verify runId request s).2.issued = s.issued ++ (v.calls runId request s).map (·.command) := by
  obtain ⟨ending, hcourse, -⟩ := exists_course runId request hcreated
  have hrecorded : (v.recording.opened s.recording).1 = .ok workDir := hcreated
  rw [verify_eq_recording]
  exact (congrArg Prod.snd (asked_verify hrecorded)).trans hcourse.issued

/-- **The whole run and its record.** The course of a run is one of the recorded calls. -/
theorem Housed.verify_recorded (h : v.Housed runId request s workDir) (hsink : s.sink.Worded)
    (htells : ∀ call, (v.calls runId request s).getLast? = some call → call.Tells) :
    ∃ ending report s',
      Course v.recording (v.plan request s workDir) (v.recording.entered s.recording) (v.calls runId request s)
        (v.recording.settled runId request s.recording workDir) ending ∧
      s.sink.emit (draft (v.clock s.world.readings)
        (v.clock (v.recording.settled runId request s.recording workDir).world.readings) ending) =
          (.ok report, s'.sink) ∧
      v.verify runId request s = (.ok (outcome runId report ending), s') := by
  obtain ⟨calls, ending, hcourse, hends⟩ := h.recording.verify_course hsink
  -- the record is empty at the start, so in the end it holds the calls of this course and no others
  have hcalls : v.calls runId request s = calls := by
    rw [calls_of_opened h.created, hcourse.record]
    rfl
  rw [hcalls] at htells ⊢
  obtain ⟨report, s', hemit, -, hverify⟩ := hends (hcourse.told (plan_sound h.recording.created) htells)
  refine ⟨ending, report, s'.mapMemory Prod.fst, hcourse, hemit, ?_⟩
  rw [verify_eq_recording, hverify]
  rfl

/-- **The whole run, reported.** With a clock that measures and a writer that never fails, the report of a run is the
    one that its course amounts to, and nothing else is written. -/
theorem Housed.verify_reported (h : v.Housed runId request s workDir) (hclock : v.clock.Measures)
    (hsink : s.sink.Open) (htells : ∀ call, (v.calls runId request s).getLast? = some call → call.Tells) :
    ∃ finishedAt ending s',
      Course v.recording (v.plan request s workDir) (v.recording.entered s.recording) (v.calls runId request s)
        (v.recording.settled runId request s.recording workDir) ending ∧
      (elapsedMs (v.clock s.world.readings) finishedAt).isFinite = true ∧
      s'.sink = s.sink.wrote (reportOf (v.clock s.world.readings) finishedAt ending).line ∧
      v.verify runId request s =
        (.ok (outcome runId (reportOf (v.clock s.world.readings) finishedAt ending) ending), s') := by
  obtain ⟨ending, report, s', hcourse, hemit, hverify⟩ := h.verify_recorded (Sink.worded_of_open hsink) htells
  have hfinite := hclock s.world.readings (v.recording.settled runId request s.recording workDir).world.readings
  rw [emit_draft hsink hfinite] at hemit
  obtain ⟨hreport, hwrote⟩ := Prod.mk.inj hemit
  rw [← Except.ok.inj hreport] at hverify
  exact ⟨_, ending, s', hcourse, hfinite, hwrote.symm, hverify⟩

end Verifier

/-! ## Prepared runs

Runs on a small tree whose calls are answered from a script, to see that the hypotheses of a statement can be met. -/

/-- A tree with a source file and a work root. -/
def preparedFiles : FileSystem := { entries := [([], .directory), (["p.p4"], .file []), (["w"], .directory)] }

theorem preparedFiles_isTree : preparedFiles.IsTree := by
  intro l name h
  cases l with
  | nil => rfl
  | cons n l =>
    have hlong : ∀ m, n :: l ++ [name] ≠ [m] := fun m heq => by simpa using congrArg List.length heq
    refine absurd ?_ h
    unfold FileSystem.entry?
    rw [List.lookup_eq_none_iff]
    intro p hp
    simp only [preparedFiles, List.mem_cons, List.not_mem_nil, or_false] at hp
    rcases hp with rfl | rfl | rfl
    · rfl
    · exact bne_iff_ne.mpr (hlong _)
    · exact bne_iff_ne.mpr (hlong _)

/-- A quarter of a second passes after the first reading. -/
def preparedClock : Clock := fun n => .finite ((if n = 0 then 0 else 250 : Int) : Rat)

theorem preparedClock_measures : preparedClock.Measures := by
  refine Clock.measures_of_natAbs_le fun i => ⟨if i = 0 then 0 else 250, rfl, ?_⟩
  split <;> decide +kernel

/-- The state before the run, with the answers that the executor will give. -/
def RunState.prepared (script : List PlaybackStep) (sink : Sink := {}) : RunState Playback where
  world := { files := preparedFiles }
  memory := { script := script, signal := none }
  sink := sink

/-- A run with the standard tools, the usual budgets and that work root. -/
def Verifier.prepared (clock : Clock) : Verifier Playback where
  settings := ⟨⟨60, 120, 60, 300⟩, "/w", Settings.defaultTranslatorPath, none⟩
  toolchain := Toolchain.standard
  executor := Playback.executor
  clock := clock
  ids := fun _ => "1"

/-- The request to verify that source. -/
def Request.prepared : Request := ⟨"/p.p4", none, 300⟩

/-- Answers with which every build stage passes, then the engine's. -/
def preparedAnswers (engine : Reply) : List PlaybackStep :=
  [{ artifact := some "", reply := .ok ⟨.success, some 0, none, "", "", ""⟩ },
   { reply := .ok ⟨.success, some 0, none, "int main() {}", "", ""⟩ },
   { artifact := some "", reply := .ok ⟨.success, some 0, none, "", "", ""⟩ },
   { reply := engine }]

/-- The result of an engine that explores every path. -/
def explored : StageResult := ⟨.success, some 0, none, "", "", "KLEE: done: paths = 1"⟩

/-- A value that cannot be made a text. -/
def Value.textless : Value := .object [("toString", .num 1)]

/-- What can be seen of the outcome of a run is seen of an outcome. -/
theorem exists_outcome {σ α : Type} {ended : Except Failure Outcome × RunState σ} {see : Outcome → α} {a : α}
    (h : ended.1.toOption.map see = some a) : ∃ o s', ended = (.ok o, s') ∧ see o = a := by
  obtain ⟨result, s'⟩ := ended
  cases result with
  | error failure => cases h
  | ok o => exact ⟨o, s', rfl, Option.some.inj h⟩

theorem eq_ok_of_toOption {ε α : Type} {x : Except ε α} {a : α} (h : x.toOption = some a) : x = .ok a := by
  cases x with
  | error e => cases h
  | ok b => exact congrArg Except.ok (Option.some.inj h)

theorem exists_reply {calls : List Call} {k : Nat} {r : StageResult}
    (h : calls[k]?.map (·.reply.toOption) = some (some r)) : ∃ call, calls[k]? = some call ∧ call.reply = .ok r := by
  obtain ⟨call, hcall, hreply⟩ := Option.map_eq_some_iff.mp h
  exact ⟨call, hcall, eq_ok_of_toOption hreply⟩

theorem preparedRoot_proper : Location.Proper ["w"] := by
  intro n hn
  rw [List.mem_singleton.mp hn]
  exact ⟨by decide, by decide, by decide, by decide⟩

theorem isName_preparedDirectory : Path.IsName "p4verdict-1" := ⟨by decide, by decide, by decide, by decide⟩

/-- The prepared state for any executor. -/
def RunState.preparedFor {σ : Type} (memory : σ) (sink : Sink := {}) : RunState σ where
  world := { files := preparedFiles }
  memory := memory
  sink := sink

/-- Whatever the executor, the clock and the writer are, a prepared run has a work directory. -/
theorem Verifier.preparedFor_housed {σ : Type} (clock : Clock) (e : Executor σ) (memory : σ) (sink : Sink := {}) :
    ((prepared clock).withExecutor e).Housed "run" .prepared (.preparedFor memory sink) "/w/p4verdict-1" := by
  have hcreated : (((prepared clock).withExecutor e).opened (.preparedFor memory sink)).1 = .ok "/w/p4verdict-1" := by
    have hsame : ((prepared clock).withExecutor e).opened (.preparedFor memory sink) =
        (prepared preparedClock).opened (.prepared []) := rfl
    have hpath : ((prepared preparedClock).opened (.prepared [])).1.toOption = some "/w/p4verdict-1" := by
      decide +kernel
    rw [hsame]
    exact eq_ok_of_toOption hpath
  have hroot : ((prepared clock).withExecutor e).workRoot (.preparedFor memory sink) = Location.text ["w"] := by
    show (Path.resolve [] "/w").text = Location.text ["w"]
    decide
  exact ⟨hcreated, release_isOk preparedRoot_proper (List.cons_ne_nil _ _) hroot isName_preparedDirectory hcreated⟩

/-- Whatever the answers and the writer are, a prepared run has a work directory. -/
theorem Verifier.prepared_housed (clock : Clock) (script : List PlaybackStep) (sink : Sink := {}) :
    (prepared clock).Housed "run" .prepared (.prepared script sink) "/w/p4verdict-1" :=
  preparedFor_housed clock Playback.executor { script := script, signal := none } sink

theorem RunState.prepared_open (script : List PlaybackStep) : (prepared script).sink.Open := fun _ => rfl

/-- The calls of a prepared run, in a form that can be evaluated whether or not the run is classified. -/
theorem Verifier.prepared_calls (clock : Clock) (script : List PlaybackStep) :
    (prepared clock).calls "run" .prepared (.prepared script) =
      ((prepared clock).recording.settled "run" .prepared (RunState.prepared script).recording
        "/w/p4verdict-1").memory.2 :=
  calls_of_opened (prepared_housed clock script).created

end DataplaneVerdict
