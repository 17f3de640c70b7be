import DataplaneVerdict.Proofs.Course

/-!
# `Proofs.History` — the phases of a run follow from what happened

The program moves a run along the table of phases while it works, and it classifies and reports by its own control flow.
Nothing but the table and the calls is needed to tell the phases: `Happened` reads off the calls which events there
were, and the history of a run is the path along which these events lead through the table. No event is ever refused.

## Contents
- **Paths.** `Phase.path` drives the table; `Happened` are the events that calls stand for.
- **Courses.** `Course.path_history`, and what the history tells about stages and classification.
- **The whole run.** `Verifier.verify_history`.
-/

namespace DataplaneVerdict

attribute [local irreducible] WorkDir.create WorkDir.remove Evidence.scan

/-! ## Paths -/

/-- The phases from a phase on when events happen one after the other, `none` if one of them is not possible. -/
def Phase.path (p : Phase) : List Event → Option (List Phase)
  | [] => some [p]
  | event :: events => (p.next? event).bind fun q => (path q events).map (p :: ·)

/-- The stage of a phase, if it has one. -/
def Phase.stage? : Phase → Option Stage
  | frontend => some .frontend
  | translate => some .translate
  | native => some .native
  | engine => some .engine
  | _ => none

/-- The five histories of finished runs: all phases, or those up to some stage and then the report. -/
def Phase.histories : List (List Phase) :=
  [[init, frontend, report, done],
   [init, frontend, translate, report, done],
   [init, frontend, translate, native, report, done],
   [init, frontend, translate, native, engine, report, done],
   [init, frontend, translate, native, engine, classify, report, done]]

/-- **What happened.** `Happened specs calls events`: to a run with the build stages `specs` ahead of it, the calls
    `calls` stand for the events `events`. A build stage that passes succeeded, and one that does not is a failure or an
    interruption; the engine was interrupted or has finished and is classified. The report is the last event. -/
inductive Happened : List StageSpec → List Call → List Event → Prop
  | passed {spec : StageSpec} {specs : List StageSpec} {c : Call} {calls : List Call} {events : List Event}
      (hpasses : spec.Passes c) (hrest : Happened specs calls events) :
      Happened (spec :: specs) (c :: calls) (.stageSucceeded :: events)
  | stopped {spec : StageSpec} {specs : List StageSpec} {c : Call} (hnot : ¬spec.Passes c) :
      Happened (spec :: specs) [c] [c.stopEvent, .reported]
  | interrupted {c : Call} (haborted : c.isAborted = true) : Happened [] [c] [.aborted, .reported]
  | finished {c : Call} (haborted : c.isAborted = false) : Happened [] [c] [.engineFinished, .classified, .reported]

theorem Phase.path_started (events : List Event) :
    path .init (.started :: events) = (path .frontend events).map (.init :: ·) := rfl

/-- Stages that succeed lead from phase to phase. -/
theorem Phase.path_succeeded {pre rest : List StageSpec} (hchain : StageSpec.Chained (pre ++ rest))
    (events : List Event) :
    path (awaiting (pre ++ rest)) (pre.map (fun _ => .stageSucceeded) ++ events) =
      (path (awaiting rest) events).map (pre.map (·.stage.phase) ++ ·) := by
  induction pre with
  | nil => simp
  | cons spec pre ih =>
    have hnext : spec.stage.phase.next? .stageSucceeded = some (awaiting (pre ++ rest)) := hchain.1
    have hawaiting : awaiting (spec :: pre ++ rest) = spec.stage.phase := rfl
    rw [hawaiting, List.map_cons, List.cons_append, path, hnext, Option.bind_some, ih hchain.2]
    cases path (awaiting rest) events <;> rfl

theorem StageSpec.Chained.of_append {pre rest : List StageSpec} (h : StageSpec.Chained (pre ++ rest)) :
    StageSpec.Chained rest := by
  induction pre with
  | nil => exact h
  | cons spec pre ih => exact ih h.2

namespace Verifier

variable {σ : Type} {v : Verifier σ} {s s' : RunState σ} {calls : List Call} {specs : List StageSpec}
  {log : List String}

/-- Stages that passed succeeded. -/
theorem Built.happened (h : Built v specs s calls log s') {rest : List StageSpec} {last : List Call}
    {events : List Event} (hrest : Happened rest last events) :
    Happened (specs ++ rest) (calls ++ last) (specs.map (fun _ => .stageSucceeded) ++ events) := by
  induction h with
  | nil => exact hrest
  | @cons _ _ _ _ r kept _ _ hr haccepts _ ih => exact .passed ⟨r, kept, hr, haccepts⟩ ih

/-- An engine run is an interrupted one just if its call was. -/
theorem engineRun_aborted {spec : StageSpec} {c : Call} {e : EngineRun} (h : engineRun spec c.reply = .ok e) :
    e.aborted = c.isAborted := by
  unfold Call.isAborted
  cases hr : c.reply with
  | error failure =>
    rw [hr] at h
    cases htext : failure.text with
    | error g => exact absurd h (by simp [engineRun, htext, Except.map])
    | ok reason =>
      simp only [engineRun, htext, Except.map, Except.ok.injEq] at h
      rw [← h]
  | ok r =>
    rw [hr] at h
    by_cases hst : r.status = .timedOut
    · simp only [engineRun, hst, if_true, Except.ok.injEq] at h
      rw [← h]
      simp [hst]
    · simp only [engineRun, hst, if_false, Except.ok.injEq] at h
      rw [← h]

/-! ## Courses -/

variable {i : PlanInput} {before : List Phase} {c : Conclusion}

/-- **The history of a course** is the path of what happened. -/
theorem Course.path_history (h : Course v i s calls s' (.ok (before, c))) :
    ∃ events, Happened (Plan.ofInput i).build calls events ∧
      Phase.path .init (.started :: events) = some (before ++ [.report, .done]) := by
  have hchain := Plan.chained i
  have hfirst : Phase.awaiting (Plan.ofInput i).build = .frontend := rfl
  cases h with
  | @stopped pre post spec before log s₁ text fs hsplit hbuilt hstop =>
    have hlast : Happened (spec :: post) [v.callOf spec s₁] [(v.callOf spec s₁).stopEvent, .reported] :=
      .stopped hstop.not_passes
    have hhappened := hbuilt.happened hlast
    -- the stages before it lead to its phase, and its own event leads from there to the report
    rw [hsplit] at hchain hfirst ⊢
    have hnext := (hchain.of_append).1
    have hpath := Phase.path_succeeded hchain [(v.callOf spec s₁).stopEvent, .reported]
    have hstopped : Phase.path (Phase.awaiting (spec :: post)) [(v.callOf spec s₁).stopEvent, .reported] =
        some [spec.stage.phase, .report, .done] := by
      simp only [Phase.awaiting, Phase.path, (v.callOf spec s₁).next_stopEvent hnext]
      rfl
    rw [hfirst, hstopped] at hpath
    refine ⟨_, hhappened, ?_⟩
    rw [Phase.path_started, hpath]
    simp
  | interrupted hbuilt hrun haborted =>
    have hhappened := hbuilt.happened (Happened.interrupted (engineRun_aborted hrun ▸ haborted))
    rw [List.append_nil] at hhappened
    exact ⟨_, hhappened, rfl⟩
  | classified hbuilt hrun haborted hscan =>
    have hhappened := hbuilt.happened (Happened.finished (engineRun_aborted hrun ▸ haborted))
    rw [List.append_nil] at hhappened
    exact ⟨_, hhappened, rfl⟩

/-- **How a course ends** is told by its calls. It ends before the classification with the verdict `error` and exit code
    1, unless the engine was called and not interrupted; then it is classified and the exit code is 0. -/
theorem Course.ends (h : Course v i s calls s' (.ok (before, c))) :
    (before = .init :: (Stage.all.take calls.length).map Stage.phase ∧ c.verdict = .error ∧ c.exitCode = 1 ∧
      c.ruleId = none ∧ ∀ call, calls[3]? = some call → call.isAborted = true) ∨
    (calls.length = 4 ∧ before = .init :: Stage.all.map Stage.phase ++ [.classify] ∧ c.exitCode = 0 ∧
      c.ruleId.isSome = true ∧ ∃ call, calls[3]? = some call ∧ call.isAborted = false) := by
  cases h with
  | @stopped pre post spec made log s₁ text fs hsplit hbuilt hstop =>
    have hlength : (made ++ [v.callOf spec s₁]).length = pre.length + 1 := by
      rw [List.length_append, List.length_singleton, hbuilt.length_eq]
    have htake : (pre ++ [spec]).map (·.stage.phase) = (Stage.all.take (pre.length + 1)).map Stage.phase := by
      have hstages : (Plan.ofInput i).stages.take (pre.length + 1) = pre ++ [spec] := by
        rw [Plan.stages_eq hsplit, List.take_length_add_append]
        rfl
      rw [← hstages, ← Plan.stages_map_stage i, ← List.map_take, List.map_map]
      rfl
    have hbound : pre.length + 1 ≤ 3 := by
      have hbuild : (Plan.ofInput i).build.length = 3 := rfl
      rw [hsplit, List.length_append, List.length_cons] at hbuild
      omega
    refine .inl ⟨by rw [hlength, htake], rfl, rfl, rfl, ?_⟩
    intro call hcall
    have := (List.getElem?_eq_some_iff.mp hcall).1
    omega
  | @interrupted made log s₁ e hbuilt hrun haborted =>
    have hmade : made.length = 3 := hbuilt.length_eq
    refine .inl ⟨?_, rfl, rfl, rfl, ?_⟩
    · rw [List.length_append, hmade]
      rfl
    · intro call hcall
      obtain ⟨-, rfl⟩ := eq_last_of_fourth (Nat.le_of_eq hmade) hcall
      rw [← engineRun_aborted hrun, haborted]
  | @classified made log s₁ e evidence hbuilt hrun haborted hscan =>
    have hmade : made.length = 3 := hbuilt.length_eq
    refine .inr ⟨?_, rfl, rfl, rfl, v.callOf (Plan.engineSpec i) s₁, ?_, ?_⟩
    · rw [List.length_append, hmade]
      rfl
    · rw [List.getElem?_append_right (by omega), hmade]
      rfl
    · rw [← engineRun_aborted hrun, haborted]

/-- A course has between one and four calls. -/
theorem Course.length_calls {ending : Ending} (h : Course v i s calls s' ending) :
    calls.length = 1 ∨ calls.length = 2 ∨ calls.length = 3 ∨ calls.length = 4 := by
  have hmost := h.commands_isPrefix.length_le
  have hleast := List.length_pos_iff.mpr h.calls_ne_nil
  have hfour : (Plan.ofInput i).stages.length = 4 := rfl
  rw [List.length_map, List.length_map, hfour] at hmost
  omega

theorem history_stopped {n : Nat} (hn : n = 1 ∨ n = 2 ∨ n = 3 ∨ n = 4) :
    Phase.init :: (Stage.all.take n).map Stage.phase ++ [.report, .done] ∈ Phase.histories ∧
      (Phase.init :: (Stage.all.take n).map Stage.phase ++ [Phase.report, Phase.done]).filterMap Phase.stage? =
        Stage.all.take n ∧
      Phase.classify ∉ Phase.init :: (Stage.all.take n).map Stage.phase ++ [.report, .done] := by
  rcases hn with rfl | rfl | rfl | rfl <;> decide

/-- **A course comes to a conclusion** unless its last call was rejected without words or the evidence cannot be scanned
    where it is to be. -/
theorem Course.concluded {ending : Ending} (h : Course v i s calls s' ending)
    (hworded : ∀ call, calls.getLast? = some call → ∀ failure, call.reply = .error failure → failure.Worded)
    (hscanned : ∀ call, calls[3]? = some call → call.isAborted = false →
      (Evidence.scan call.files i.artifacts.engineOutDir).isOk = true) : ∃ last, ending = .ok last := by
  cases h with
  | lost hsplit hbuilt hr hlost =>
    exact absurd (hworded _ List.getLast?_concat _ hr) (Failure.not_worded_of_text hlost)
  | @unscanned made log s₁ e failure hbuilt hrun haborted hscan =>
    have hfourth : (made ++ [v.callOf (Plan.engineSpec i) s₁])[3]? = some (v.callOf (Plan.engineSpec i) s₁) := by
      have hmade : made.length = 3 := hbuilt.length_eq
      rw [List.getElem?_append_right (Nat.le_of_eq hmade), hmade]
      rfl
    have hok := hscanned _ hfourth (engineRun_aborted hrun ▸ haborted)
    rw [hscan] at hok
    cases hok
  | stopped | interrupted | classified => exact ⟨_, rfl⟩

/-! ## The whole run -/

variable {runId : String} {request : Request} {workDir : String}

/-- No event of a run is refused. -/
theorem execute_ne_transition (hcreated : (v.opened s).1 = .ok workDir) (hsink : s.sink.Worded)
    (hworded : ∀ call, (v.calls runId request s).getLast? = some call →
      ∀ failure, call.reply = .error failure → failure.Worded)
    (hscanned : ∀ call, (v.calls runId request s)[3]? = some call → call.isAborted = false →
      (Evidence.scan call.files (v.plan request s workDir).artifacts.engineOutDir).isOk = true)
    (e : InvalidTransition) :
    (v.execute runId (v.clock s.world.readings) request workDir (v.entered s)).1 ≠ .error (.transition e) := by
  obtain ⟨ending, hcourse, hexecute⟩ := exists_execute runId request hcreated
  obtain ⟨last, rfl⟩ := hcourse.concluded hworded hscanned
  have hsettled : (v.recording.settled runId request s.recording workDir).sink.Worded := by
    rw [hcourse.sink]
    exact hsink
  obtain ⟨o, s', hfinish, -⟩ :=
    v.recording.finish_isOk (Run.fresh runId request (v.clock s.world.readings) workDir) last hsettled
  have hentered : (v.entered s).recording = v.recording.entered s.recording := rfl
  rw [execute_eq_recording, hentered, hexecute, hfinish]
  exact fun h => by cases h

/-- **The history of a run.** In every run with a work directory, whose rejected calls and failed writes can be put into
    words and whose evidence can be scanned once the engine has answered:
    * no event is refused by the table of phases;
    * the history is the path along which what happened leads through the table, and one of five;
    * its stages are exactly those whose commands were issued, the first ones of the plan;
    * it contains the classification just if a rule decided, just if the exit code is 0, and just if the engine was
      called and not interrupted;
    * a verdict other than `error` comes with exit code 0. -/
theorem verify_history (hhoused : v.Housed runId request s workDir) (hsink : s.sink.Worded)
    (hworded : ∀ call ∈ v.calls runId request s, ∀ failure, call.reply = .error failure → failure.Worded)
    (hscanned : ∀ call, (v.calls runId request s)[3]? = some call → call.isAborted = false →
      (Evidence.scan call.files (v.plan request s workDir).artifacts.engineOutDir).isOk = true) :
    (∀ e, (v.execute runId (v.clock s.world.readings) request workDir (v.entered s)).1 ≠ .error (.transition e)) ∧
    ∃ o s', v.verify runId request s = (.ok o, s') ∧
      (∃ events, Happened (Plan.ofInput (v.plan request s workDir)).build (v.calls runId request s) events ∧
        Phase.path .init (.started :: events) = some o.history) ∧
      o.history ∈ Phase.histories ∧
      o.history.filterMap Phase.stage? = Stage.all.take (v.calls runId request s).length ∧
      s'.issued = s.issued ++
        ((Plan.ofInput (v.plan request s workDir)).stages.take (v.calls runId request s).length).map commandOf ∧
      (.classify ∈ o.history ↔ o.ruleId.isSome = true) ∧
      (o.ruleId.isSome = true ↔ o.exitCode = 0) ∧
      (o.exitCode = 0 ↔ ∃ call, (v.calls runId request s)[3]? = some call ∧ call.isAborted = false) ∧
      (o.verdict ≠ .error → o.exitCode = 0) := by
  replace hworded := fun call hcall => hworded call (List.mem_of_getLast? hcall)
  refine ⟨execute_ne_transition hhoused.created hsink hworded hscanned, ?_⟩
  have htells : ∀ call, (v.calls runId request s).getLast? = some call → call.Tells :=
    fun call hcall failure hr => (hworded call hcall failure hr).tellable
  obtain ⟨ending, report, s', hcourse, hemit, hverify⟩ := hhoused.verify_recorded hsink htells
  have hissued : s'.issued = s.issued ++ (v.calls runId request s).map (·.command) := by
    rw [← issued_verify hhoused.created, hverify]
  obtain ⟨⟨before, c⟩, rfl⟩ := hcourse.concluded hworded hscanned
  generalize v.calls runId request s = calls at hcourse hissued ⊢
  have hcommands : calls.map (·.command) =
      ((Plan.ofInput (v.plan request s workDir)).stages.take calls.length).map commandOf := by
    have htake := List.prefix_iff_eq_take.mp hcourse.commands_isPrefix
    rwa [List.length_map, ← List.map_take] at htake
  rw [hcommands] at hissued
  have hpath := hcourse.path_history
  have hreported := Sink.verdict_of_emit hsink hemit
  refine ⟨outcome runId report (.ok (before, c)), s', hverify, hpath, ?_⟩
  simp only [outcome]
  rcases hcourse.ends with ⟨rfl, hverdict, hexit, hrule, haborted⟩ | ⟨hfour, rfl, hexit, hrule, call, hcall, hnot⟩
  · -- the run was cut: nothing was classified, and the verdict is `error` however the report was written
    obtain ⟨hmem, hstages, hclassify⟩ := history_stopped hcourse.length_calls
    have herror : report.verdict = .error := by
      rcases hreported with h | h
      · rw [h, hverdict]
      · exact h
    refine ⟨hmem, hstages, hissued, ?_, ?_, ?_, fun h => absurd herror h⟩
    · refine ⟨fun h => absurd h hclassify, fun h => ?_⟩
      rw [hrule] at h
      cases h
    · simp [hrule, hexit]
    · refine ⟨fun h => absurd (hexit.symm.trans h) (by decide), ?_⟩
      rintro ⟨call, hcall, hnot⟩
      rw [haborted call hcall] at hnot
      cases hnot
  · rw [hfour] at hissued ⊢
    refine ⟨by decide, by decide, hissued, ?_, ?_, ?_, fun _ => hexit⟩
    · simp [hrule]
    · simp [hrule, hexit]
    · exact ⟨fun _ => ⟨call, hcall, hnot⟩, fun _ => hexit⟩

/-- A run whose engine explores every path is classified. -/
theorem explored_classified :
    ∃ o s', (prepared preparedClock).verify "run" .prepared (.prepared (preparedAnswers (.ok explored))) = (.ok o, s') ∧
      .classify ∈ o.history ∧ o.exitCode = 0 := by
  have hanswers : ((prepared preparedClock).calls "run" .prepared (.prepared (preparedAnswers (.ok explored)))).map
      (fun call => (call.reply.isOk, call.isAborted, (Evidence.scan call.files ((prepared preparedClock).plan .prepared
        (.prepared (preparedAnswers (.ok explored))) "/w/p4verdict-1").artifacts.engineOutDir).isOk)) =
        List.replicate 4 (true, false, true) := by
    rw [prepared_calls]
    decide +kernel
  have hall := fun call hmem => List.eq_of_mem_replicate (hanswers ▸ List.mem_map_of_mem (a := call) hmem)
  have hworded : ∀ call ∈ (prepared preparedClock).calls "run" .prepared (.prepared (preparedAnswers (.ok explored))),
      ∀ failure, call.reply = .error failure → failure.Worded := by
    intro call hmem failure hr
    have hok := congrArg Prod.fst (hall call hmem)
    rw [hr] at hok
    cases hok
  obtain ⟨-, o, s', hverify, -, -, -, -, hclassify, hrule, hexit, -⟩ :=
    verify_history (prepared_housed preparedClock (preparedAnswers (.ok explored)))
      (Sink.worded_of_open (RunState.prepared_open _)) hworded
      fun call hcall _ => congrArg (·.2.2) (hall call (List.mem_of_getElem? hcall))
  have hengine : ∃ call, ((prepared preparedClock).calls "run" .prepared
      (.prepared (preparedAnswers (.ok explored))))[3]? = some call ∧ call.isAborted = false := by
    have hfourth := congrArg (fun l => l[3]?) hanswers
    rw [List.getElem?_map] at hfourth
    obtain ⟨call, hcall, hpair⟩ := Option.map_eq_some_iff.mp hfourth
    exact ⟨call, hcall, congrArg (·.2.1) hpair⟩
  have hcode := hexit.mpr hengine
  exact ⟨o, s', hverify, hclassify.mpr (hrule.mpr hcode), hcode⟩

/-- A writer whose first attempt fails with a value that has no text. -/
def stubborn : Sink := { refuse := fun n => if n = 0 then some (.value .textless) else none }

/-- Rejections and failed writes without words leave no history at all, although the run has its work directory. -/
theorem history_lost :
    [] ∉ Phase.histories ∧
    (prepared preparedClock).Housed "run" .prepared (.prepared [{ reply := .error (.value .textless) }])
      "/w/p4verdict-1" ∧
    (∃ o s', (prepared preparedClock).verify "run" .prepared (.prepared [{ reply := .error (.value .textless) }]) =
      (.ok o, s') ∧ o.history = []) ∧
    (prepared preparedClock).Housed "run" .prepared (.prepared [] stubborn) "/w/p4verdict-1" ∧
    (∃ o s', (prepared preparedClock).verify "run" .prepared (.prepared [] stubborn) = (.ok o, s') ∧ o.history = []) :=
  ⟨by decide, prepared_housed _ _, exists_outcome (by decide +kernel), prepared_housed _ _ _,
    exists_outcome (by decide +kernel)⟩

end Verifier

end DataplaneVerdict
