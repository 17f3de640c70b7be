import DataplaneVerdict.Proofs.Documents
import DataplaneVerdict.Proofs.Recording

/-!
# `Proofs.BuildStages` — what a build stage does to a run

A build stage is one call. `StageSpec.Passes` says when the next stage may start after it, and `StageSpec.StopsWith`
what the run has to say otherwise: one text for each of the six ways in which a stage can end a run. Both are stated on
the record of the call alone, in terms of the stage and not of the code that judges it.

* **One stage** (`runBuildStage_cases`): it passes, or it stops the run with the text of its call, or its call was
  rejected with a value that cannot be put into words.
* **All stages** (`runBuild_cases`): they all pass (`Built`), or those before some stage pass and that one does not.
-/

namespace DataplaneVerdict

-- whether a path leads anywhere is never computed here
attribute [local irreducible] FileSystem.writeBytes FileSystem.pathExists

/-- The statuses that a build stage takes for a success. An executor may know others than the four with a meaning; only
    an interruption, a timeout and a failure are none. -/
def StageStatus.isSuccess : StageStatus → Bool
  | success => true
  | foreign _ => true
  | failed => false
  | timedOut => false
  | aborted => false

/-- What a stage has to say about its end: everything it printed, but the translator prints its product, so of it only
    the error stream. -/
def Stage.diagnostic (stage : Stage) (r : StageResult) : String :=
  match stage with
  | .translate => r.stderr
  | _ => r.output

namespace StageSpec

/-- The files `kept` are the files `fs` with the standard output where the stage wants it. -/
def Keeps (spec : StageSpec) (r : StageResult) (fs kept : FileSystem) : Prop :=
  match spec.captureStdoutTo with
  | none => kept = fs
  | some path => fs.writeBytes path (Utf8.encode r.stdout) = .ok kept

/-- A result that succeeded, was kept as the files `kept`, and left every artifact that was expected. -/
structure Accepts (spec : StageSpec) (r : StageResult) (fs kept : FileSystem) : Prop where
  success : r.status.isSuccess = true
  keeps : spec.Keeps r fs kept
  artifacts : ∀ a ∈ spec.expectedArtifacts, kept.pathExists a = true

/-- A call after which the next stage may start. -/
def Passes (spec : StageSpec) (c : Call) : Prop := ∃ r kept, c.reply = .ok r ∧ spec.Accepts r c.files kept

/-- The text with which a call ends the run, by the cause. -/
inductive StopsWith (spec : StageSpec) (c : Call) : String → Prop
  | aborted {r : StageResult} (hr : c.reply = .ok r) (hst : r.status = .aborted) :
      StopsWith spec c (spec.stage.label ++ " aborted: run interrupted")
  | timedOut {r : StageResult} (hr : c.reply = .ok r) (hst : r.status = .timedOut) :
      StopsWith spec c (spec.stage.label ++ " timeout after " ++ spec.timeoutSeconds.text ++ "s" ++
        (if spec.stage.diagnostic r = "" then "" else ":\n" ++ spec.stage.diagnostic r))
  | failed {r : StageResult} (hr : c.reply = .ok r) (hst : r.status = .failed) :
      StopsWith spec c (spec.stage.label ++ " failed:\n" ++ spec.stage.diagnostic r)
  | rejected {f : Failure} {reason : String} (hr : c.reply = .error f) (htext : f.text = .ok reason) :
      StopsWith spec c (spec.stage.label ++ " error: " ++ reason)
  | notKept {r : StageResult} {path : String} {e : FileError} (hr : c.reply = .ok r)
      (hst : r.status.isSuccess = true) (hpath : spec.captureStdoutTo = some path)
      (hwrite : c.files.writeBytes path (Utf8.encode r.stdout) = .error e) :
      StopsWith spec c (spec.stage.label ++ " error: " ++ e.message)
  | missing {r : StageResult} {kept : FileSystem} {a : String} (hr : c.reply = .ok r)
      (hst : r.status.isSuccess = true) (hkeeps : spec.Keeps r c.files kept)
      (hfirst : spec.expectedArtifacts.find? (fun a => !kept.pathExists a) = some a) :
      StopsWith spec c (spec.stage.label ++ " failed:\n" ++ spec.stage.diagnostic r ++ "\nMissing artifact: " ++ a)

/-- A stage as plans have them: its stream is the diagnostic one, and none of its artifacts is nameless. -/
structure Planned (spec : StageSpec) : Prop where
  stream : spec.logStream = if spec.stage = .translate then .stderr else .combined
  named : "" ∉ spec.expectedArtifacts

variable {spec : StageSpec} {c : Call}

theorem Planned.diagnostic_eq (h : spec.Planned) (r : StageResult) :
    Verifier.diagnostic spec r = spec.stage.diagnostic r := by
  rw [Verifier.diagnostic, h.stream]
  cases spec.stage <;> rfl

theorem Keeps.unique {r : StageResult} {fs kept kept' : FileSystem} (h : spec.Keeps r fs kept)
    (h' : spec.Keeps r fs kept') : kept = kept' := by
  unfold Keeps at h h'
  cases hpath : spec.captureStdoutTo with
  | none =>
    rw [hpath] at h h'
    exact h.trans h'.symm
  | some path =>
    rw [hpath] at h h'
    exact Except.ok.inj (h.symm.trans h')

theorem Keeps.not_error {r : StageResult} {fs kept : FileSystem} {path : String} {e : FileError}
    (h : spec.Keeps r fs kept) (hpath : spec.captureStdoutTo = some path) :
    fs.writeBytes path (Utf8.encode r.stdout) ≠ .error e := by
  unfold Keeps at h
  rw [hpath] at h
  rw [h]
  exact fun hno => by cases hno

/-- After a call that stops the run no stage may start. -/
theorem StopsWith.not_passes {text : String} (h : spec.StopsWith c text) : ¬spec.Passes c := by
  rintro ⟨r', kept', hr', hsuccess, hkeeps', hartifacts⟩
  cases h with
  | aborted hr hst =>
    rw [Except.ok.inj (hr'.symm.trans hr), hst] at hsuccess
    exact Bool.noConfusion hsuccess
  | timedOut hr hst =>
    rw [Except.ok.inj (hr'.symm.trans hr), hst] at hsuccess
    exact Bool.noConfusion hsuccess
  | failed hr hst =>
    rw [Except.ok.inj (hr'.symm.trans hr), hst] at hsuccess
    exact Bool.noConfusion hsuccess
  | rejected hr htext => exact absurd (hr'.symm.trans hr) (by simp)
  | notKept hr hst hpath hwrite =>
    rw [Except.ok.inj (hr'.symm.trans hr)] at hkeeps'
    exact hkeeps'.not_error hpath hwrite
  | missing hr hst hkeeps hfirst =>
    rw [Except.ok.inj (hr'.symm.trans hr)] at hkeeps'
    have hmissing := List.find?_some hfirst
    rw [hkeeps.unique hkeeps', hartifacts _ (List.mem_of_find?_eq_some hfirst)] at hmissing
    exact Bool.noConfusion hmissing

/-- The cause of a stop is one, and so is its text. -/
theorem StopsWith.unique {text text' : String} (h : spec.StopsWith c text) (h' : spec.StopsWith c text') :
    text = text' := by
  -- two causes of different kinds disagree on the reply, on the status or on what became of the output
  cases h <;> cases h' <;> simp_all [StageStatus.isSuccess]
  case notKept.missing e _ _ _ _ hpath hwrite _ hkeeps _ =>
    exact absurd hwrite (hkeeps.not_error hpath)
  case missing.notKept hkeeps _ _ hpath hwrite =>
    exact absurd hwrite (hkeeps.not_error hpath)
  case missing.missing hkeeps hfirst _ hkeeps' hfirst' =>
    rw [hkeeps.unique hkeeps', hfirst'] at hfirst
    exact (Option.some.inj hfirst).symm

end StageSpec

/-- Whether a call was answered by an interruption. -/
def Call.isAborted (c : Call) : Bool :=
  match c.reply with
  | .ok r => r.status = .aborted
  | .error _ => false

/-- If the call was rejected, the rejection can be told. -/
def Call.Tells (c : Call) : Prop := ∀ failure, c.reply = .error failure → failure.Tellable

/-- What a build stage that does not pass is to the run. -/
def Call.stopEvent (c : Call) : Event := if c.isAborted then .aborted else .stageFailed

namespace Verifier

variable {spec : StageSpec} {σ : Type} {v : Verifier σ}

/-! ## One stage -/

theorem capture_cases (spec : StageSpec) (r : StageResult) (fs : FileSystem) :
    (∃ kept, spec.Keeps r fs kept ∧ capture spec r fs = .ok kept) ∨
    (∃ path e, spec.captureStdoutTo = some path ∧ fs.writeBytes path (Utf8.encode r.stdout) = .error e ∧
      capture spec r fs = .error (.execution spec.stage.label e.message)) := by
  unfold StageSpec.Keeps capture
  cases spec.captureStdoutTo with
  | none => exact .inl ⟨fs, rfl, rfl⟩
  | some path =>
    dsimp only
    cases hwrite : fs.writeBytes path (Utf8.encode r.stdout) with
    | ok kept => exact .inl ⟨kept, rfl, rfl⟩
    | error e => exact .inr ⟨path, e, rfl, hwrite, rfl⟩

section Success

variable {r : StageResult} {fs kept : FileSystem} (hst : r.status.isSuccess = true)
include hst

/-- A successful result whose output cannot be kept fails with the reason. -/
theorem judge_of_capture_error {failure : StageFailure} (hcapture : capture spec r fs = .error failure) :
    judge spec r fs = (.error failure, fs) := by
  unfold judge
  cases hs : r.status <;> rw [hs] at hst <;> first | exact Bool.noConfusion hst | simp only [hcapture]

/-- A successful result without an expected artifact fails with the name of the artifact. -/
theorem judge_of_missing {a : String} (hcapture : capture spec r fs = .ok kept)
    (hmissing : missingArtifact? spec kept = some a) :
    judge spec r fs = (.error (.compilation spec.stage.label (diagnostic spec r) (some a)), kept) := by
  unfold judge
  cases hs : r.status <;> rw [hs] at hst <;> first | exact Bool.noConfusion hst | simp only [hcapture, hmissing]

/-- Any other successful result is accepted. -/
theorem judge_of_complete (hcapture : capture spec r fs = .ok kept) (hmissing : missingArtifact? spec kept = none) :
    judge spec r fs = (.ok (), kept) := by
  unfold judge
  cases hs : r.status <;> rw [hs] at hst <;> first | exact Bool.noConfusion hst | simp only [hcapture, hmissing]

end Success

/-- A result with a successful status is accepted, or its output could not be kept, or an artifact is missing. -/
theorem judge_success_cases (hplan : spec.Planned) {c : Call} {r : StageResult} (hr : c.reply = .ok r)
    (hst : r.status.isSuccess = true) :
    (∃ kept, spec.Accepts r c.files kept ∧ judge spec r c.files = (.ok (), kept)) ∨
    (∃ failure fs, spec.StopsWith c failure.details ∧ failureEvent failure = .stageFailed ∧
      judge spec r c.files = (.error failure, fs)) := by
  obtain ⟨kept, hkeeps, hcapture⟩ | ⟨path, e, hpath, hwrite, hcapture⟩ := capture_cases spec r c.files
  · cases hmissing : missingArtifact? spec kept with
    | none =>
      refine .inl ⟨kept, ⟨hst, hkeeps, fun a ha => ?_⟩, judge_of_complete hst hcapture hmissing⟩
      simpa using List.find?_eq_none.mp hmissing a ha
    | some a =>
      refine .inr ⟨_, kept, ?_, rfl, judge_of_missing hst hcapture hmissing⟩
      have hnamed : a ≠ "" := fun he => hplan.named (he ▸ List.mem_of_find?_eq_some hmissing)
      have hstop := StageSpec.StopsWith.missing hr hst hkeeps hmissing
      rw [← hplan.diagnostic_eq] at hstop
      simpa only [StageFailure.details, String.isEmpty_iff, hnamed, if_false, ← String.append_assoc] using hstop
  · refine .inr ⟨.execution spec.stage.label e.message, c.files, .notKept hr hst hpath hwrite, rfl, ?_⟩
    exact judge_of_capture_error hst hcapture

/-- **The judgement of a build stage.** Its result is accepted with the files that keep it, or it stops the run with the
    text of its cause. -/
theorem judge_cases (hplan : spec.Planned) {c : Call} {r : StageResult} (hr : c.reply = .ok r) :
    (∃ kept, spec.Accepts r c.files kept ∧ judge spec r c.files = (.ok (), kept)) ∨
    (∃ failure fs, spec.StopsWith c failure.details ∧ failureEvent failure = c.stopEvent ∧
      judge spec r c.files = (.error failure, fs)) := by
  have hevent (hst : r.status ≠ .aborted) : c.stopEvent = .stageFailed := by
    simp [Call.stopEvent, Call.isAborted, hr, hst]
  cases hst : r.status with
  | aborted =>
    have haborted : c.stopEvent = .aborted := by simp [Call.stopEvent, Call.isAborted, hr, hst]
    refine .inr ⟨.aborted spec.stage.label, c.files, .aborted hr hst, haborted.symm, ?_⟩
    simp only [judge, hst]
  | timedOut =>
    refine .inr ⟨.timeout spec.stage.label spec.timeoutSeconds (diagnostic spec r), c.files, ?_, ?_, ?_⟩
    · simpa only [StageFailure.details, String.isEmpty_iff, hplan.diagnostic_eq] using
        StageSpec.StopsWith.timedOut hr hst
    · rw [hevent (by rw [hst]; decide)]; rfl
    · simp only [judge, hst]
  | failed =>
    refine .inr ⟨.compilation spec.stage.label (diagnostic spec r) none, c.files, ?_, ?_, ?_⟩
    · simpa only [StageFailure.details, String.append_empty, hplan.diagnostic_eq] using
        StageSpec.StopsWith.failed hr hst
    · rw [hevent (by rw [hst]; decide)]; rfl
    · simp only [judge, hst]
  | success =>
    rw [hevent (by rw [hst]; decide)]
    exact judge_success_cases hplan hr (by rw [hst]; rfl)
  | foreign name =>
    rw [hevent (by rw [hst]; exact StageStatus.noConfusion)]
    exact judge_success_cases hplan hr (by rw [hst]; rfl)

/-- The call that a stage makes in a state. -/
def callOf (v : Verifier σ) (spec : StageSpec) (s : RunState σ) : Call :=
  let answer := v.executor.call (commandOf spec) s.world s.memory
  ⟨commandOf spec, answer.1, answer.2.1.files⟩

/-- The state once the executor has answered a stage. -/
def answered (v : Verifier σ) (spec : StageSpec) (s : RunState σ) : RunState σ :=
  let answer := v.executor.call (commandOf spec) s.world s.memory
  { s with world := answer.2.1, memory := answer.2.2, issued := s.issued ++ [commandOf spec] }

theorem issue_eq (v : Verifier σ) (spec : StageSpec) (s : RunState σ) :
    v.issue spec s = ((v.callOf spec s).reply, v.answered spec s) := rfl

/-- **One build stage.** It passes and the run goes on with the files that keep its output; or it stops the run; or
    its call was rejected with a value that cannot be put into words, which loses the run. -/
theorem runBuildStage_cases (v : Verifier σ) (hplan : spec.Planned) (s : RunState σ) :
    (∃ r kept, (v.callOf spec s).reply = .ok r ∧ spec.Accepts r (v.callOf spec s).files kept ∧
      v.runBuildStage spec s = (.ok (.ok (stageEntry spec r)), HasFiles.setFiles (v.answered spec s) kept)) ∨
    (∃ failure fs, spec.StopsWith (v.callOf spec s) failure.details ∧
      failureEvent failure = (v.callOf spec s).stopEvent ∧
      v.runBuildStage spec s = (.ok (.error failure), HasFiles.setFiles (v.answered spec s) fs)) ∨
    (∃ failure g, (v.callOf spec s).reply = .error failure ∧ failure.text = .error g ∧
      v.runBuildStage spec s = (.error g, v.answered spec s)) := by
  rw [runBuildStage, issue_eq]
  cases hr : (v.callOf spec s).reply with
  | ok r =>
    have hfiles : (v.answered spec s).world.files = (v.callOf spec s).files := rfl
    dsimp only
    rw [hfiles]
    obtain ⟨kept, haccepts, hjudge⟩ | ⟨failure, fs, hstop, hevent, hjudge⟩ := judge_cases hplan hr
    · rw [hjudge]
      exact .inl ⟨r, kept, rfl, haccepts, rfl⟩
    · rw [hjudge]
      exact .inr (.inl ⟨failure, fs, hstop, hevent, rfl⟩)
  | error failure =>
    dsimp only
    cases htext : failure.text with
    | ok reason =>
      refine .inr (.inl ⟨.execution spec.stage.label reason, (v.answered spec s).world.files, ?_, ?_, rfl⟩)
      · exact .rejected hr htext
      · simp [Call.stopEvent, Call.isAborted, hr, failureEvent]
    | error g => exact .inr (.inr ⟨failure, g, rfl, htext, rfl⟩)

/-! ## All stages -/

/-- **Stages that passed.** `Built specs s calls log s'`: from the state `s` the stages `specs` passed with the calls
    `calls`, each leaving its entry in `log`, and the run is now in the state `s'`. -/
inductive Built (v : Verifier σ) : List StageSpec → RunState σ → List Call → List String → RunState σ → Prop
  | nil {s : RunState σ} : Built v [] s [] [] s
  | cons {spec : StageSpec} {specs : List StageSpec} {s s' : RunState σ} {r : StageResult} {kept : FileSystem}
      {calls : List Call} {log : List String} (hr : (v.callOf spec s).reply = .ok r)
      (haccepts : spec.Accepts r (v.callOf spec s).files kept)
      (hrest : Built v specs (HasFiles.setFiles (v.answered spec s) kept) calls log s') :
      Built v (spec :: specs) s (v.callOf spec s :: calls) (stageEntry spec r :: log) s'

end Verifier

/-- The phase of a stage. -/
def Stage.phase : Stage → Phase
  | frontend => .frontend
  | translate => .translate
  | native => .native
  | engine => .engine

/-- The phase in which a run waits for build stages; without any it waits for the engine. -/
def Phase.awaiting : List StageSpec → Phase
  | [] => .engine
  | spec :: _ => spec.stage.phase

/-- Build stages in an order that the table of phases allows, up to the engine. -/
def StageSpec.Chained : List StageSpec → Prop
  | [] => True
  | spec :: rest => spec.stage.phase.next? .stageSucceeded = some (Phase.awaiting rest) ∧ Chained rest

/-- The run at a phase, with the phases before it. -/
def Run.standing (run : Run) (phase : Phase) (before : List Phase) : Run :=
  { run with phase := phase, history := before ++ [phase] }

theorem Run.advance_standing {run : Run} {p q : Phase} {before : List Phase} {event : Event}
    (h : p.next? event = some q) :
    (run.standing p before).advance event = .ok (run.standing q (before ++ [p])) := by
  simp only [advance, standing, h]

/-- Whatever stops a build stage leads from its phase to the report. -/
theorem Call.next_stopEvent (c : Call) {p q : Phase} (h : p.next? .stageSucceeded = some q) :
    p.next? c.stopEvent = some .report := by
  unfold stopEvent
  cases p <;> cases c.isAborted <;> first | rfl | cases h

namespace Verifier

variable {σ : Type} {v : Verifier σ}

theorem move_standing {run : Run} {p q : Phase} {before : List Phase} {event : Event} (h : p.next? event = some q) :
    move (run.standing p before) event = .ok (run.standing q (before ++ [p])) := by
  rw [move, Run.advance_standing h]
  rfl

/-- **All build stages.** They all pass and the run waits for the engine; or those before some stage pass and that one
    stops the run, which waits for the report; or that one loses it. -/
theorem runBuild_cases (v : Verifier σ) (specs : List StageSpec) (hplan : ∀ spec ∈ specs, spec.Planned)
    (hchain : StageSpec.Chained specs) (log : List String) (run : Run) (before : List Phase) (s : RunState σ) :
    (∃ calls entries s', Built v specs s calls entries s' ∧
      v.runBuild log (run.standing (.awaiting specs) before) specs s =
        (.ok (.built (run.standing .engine (before ++ specs.map (·.stage.phase))) (log ++ entries)), s')) ∨
    (∃ pre spec post calls entries s₁ failure fs, specs = pre ++ spec :: post ∧ Built v pre s calls entries s₁ ∧
      spec.StopsWith (v.callOf spec s₁) failure.details ∧
      v.runBuild log (run.standing (.awaiting specs) before) specs s =
        (.ok (.stopped (run.standing .report (before ++ (pre ++ [spec]).map (·.stage.phase))) failure),
          HasFiles.setFiles (v.answered spec s₁) fs)) ∨
    (∃ pre spec post calls entries s₁ failure g, specs = pre ++ spec :: post ∧ Built v pre s calls entries s₁ ∧
      (v.callOf spec s₁).reply = .error failure ∧ failure.text = .error g ∧
      v.runBuild log (run.standing (.awaiting specs) before) specs s = (.error g, v.answered spec s₁)) := by
  induction specs generalizing log before s with
  | nil => exact .inl ⟨[], [], s, .nil, by simp [runBuild, Phase.awaiting]⟩
  | cons spec rest ih =>
    obtain ⟨hnext, hchain⟩ := hchain
    have hawaiting : Phase.awaiting (spec :: rest) = spec.stage.phase := rfl
    rw [hawaiting, runBuild]
    obtain ⟨r, kept, hr, haccepts, hstage⟩ | ⟨failure, fs, hstop, hevent, hstage⟩ | ⟨failure, g, hr, hlost, hstage⟩ :=
      runBuildStage_cases v (hplan spec List.mem_cons_self) s
    · -- the stage passed: the rest runs from the state it left, one phase further
      simp only [hstage, move_standing hnext]
      have hrest := ih (fun spec' h => hplan spec' (List.mem_cons_of_mem _ h)) hchain (log ++ [stageEntry spec r])
        (before ++ [spec.stage.phase]) (HasFiles.setFiles (v.answered spec s) kept)
      obtain ⟨calls, entries, s', hbuilt, heq⟩ | ⟨pre, spec', post, calls, entries, s₁, failure, fs, rfl, hbuilt,
        hstop, heq⟩ | ⟨pre, spec', post, calls, entries, s₁, failure, g, rfl, hbuilt, hr', hlost, heq⟩ := hrest
      · exact .inl ⟨_, _, s', .cons hr haccepts hbuilt, by simp [heq]⟩
      · exact .inr (.inl ⟨spec :: pre, spec', post, _, _, s₁, failure, fs, rfl, .cons hr haccepts hbuilt, hstop,
          by simp [heq]⟩)
      · exact .inr (.inr ⟨spec :: pre, spec', post, _, _, s₁, failure, g, rfl, .cons hr haccepts hbuilt, hr', hlost,
          by simp [heq]⟩)
    · refine .inr (.inl ⟨[], spec, rest, [], [], s, failure, fs, rfl, .nil, hstop, ?_⟩)
      have hreport := (v.callOf spec s).next_stopEvent hnext
      simp only [hstage, hevent, move_standing hreport]
      rfl
    · refine .inr (.inr ⟨[], spec, rest, [], [], s, failure, g, rfl, .nil, hr, hlost, ?_⟩)
      simp only [hstage]

end Verifier

end DataplaneVerdict
