import DataplaneVerdict.Proofs.EvidenceFiles

/-!
# `Proofs.EngineRejection` — the verdict on an engine that could not be called

A call of the engine that is rejected counts as a process that printed the reason and left without an exit code. Such a
process would be an `error`, but the reason is searched for the markers of an engine's output as well, and it may quote
anything, the name of the engine's command among it. So the verdict on a rejected call is `error` unless the reason
shows a marker, and then it is the one which that marker stands for (`rejectionVerdict`).

## Contents
- **Reasons.** What is put before a reason shows no marker; `rejectionVerdict`.
- **Outcomes.** Where the verdict of an outcome comes from, whatever clock, writer and directory do.
- **The whole run.** `Verifier.verify_rejected_engine`.
-/

namespace DataplaneVerdict

attribute [local irreducible] WorkDir.create WorkDir.remove Evidence.scan

/-! ## Reasons -/

/-- What is put before a reason neither adds nor hides a marker. -/
theorem shows_rejected_iff {marker : String} (h : marker ∈ markers) (reason : String) :
    Shows (StageResult.rejected reason).output marker ↔ Shows reason marker := by
  have hhead : ∃ x rest, marker.toList = x :: rest ∧ x ∉ "error: ".toList := by
    simp only [markers, List.mem_cons, List.not_mem_nil, or_false] at h
    rcases h with rfl | rfl | rfl
    · exact ⟨'A', _, rfl, by decide⟩
    · exact ⟨'a', _, rfl, by decide⟩
    · exact ⟨'K', _, rfl, by decide⟩
  obtain ⟨x, rest, hmarker, hx⟩ := hhead
  have houtput : (StageResult.rejected reason).output.toList = "error: ".toList ++ reason.toList :=
    String.toList_append
  rw [Shows, Shows, houtput, hmarker]
  exact infix_append_of_head_notMem hx

/-- **The verdict on a rejected call** of the engine without evidence, by the reason. -/
def rejectionVerdict (reason : String) : Verdict :=
  if Shows reason "ASSERTION FAIL" ∨ Shows reason "abort failure" then .violated
  else if Shows reason "KLEE: done:" then .holds
  else .error

theorem StageResult.verdict_rejected (reason : String) : (rejected reason).verdict [] = rejectionVerdict reason := by
  have hassertion : Shows (rejected reason).output "ASSERTION FAIL" ↔ Shows reason "ASSERTION FAIL" :=
    shows_rejected_iff (by decide) reason
  have habort : Shows (rejected reason).output "abort failure" ↔ Shows reason "abort failure" :=
    shows_rejected_iff (by decide) reason
  have hdone : Shows (rejected reason).output "KLEE: done:" ↔ Shows reason "KLEE: done:" :=
    shows_rejected_iff (by decide) reason
  have htime : ¬(rejected reason).status = .timedOut := fun h => by cases h
  have hexit : ¬(rejected reason).exitedCleanly = true := Bool.false_ne_true
  simp only [verdict, rejectionVerdict, ne_eq, not_true_eq_false, false_or, hassertion, habort, hdone, if_neg htime,
    if_neg hexit]

/-- Only a marker can make a rejected call anything but an `error`. -/
theorem rejectionVerdict_eq_error_iff {reason : String} :
    rejectionVerdict reason = .error ↔ ∀ marker ∈ markers, ¬Shows reason marker := by
  have hmarkers : (∀ marker ∈ markers, ¬Shows reason marker) ↔
      ¬(Shows reason "ASSERTION FAIL" ∨ Shows reason "abort failure") ∧ ¬Shows reason "KLEE: done:" := by
    simp only [markers, List.forall_mem_cons, List.not_mem_nil, false_implies, implies_true, and_true, not_or,
      and_assoc]
    exact Iff.rfl
  rw [hmarkers, rejectionVerdict]
  by_cases hviolated : Shows reason "ASSERTION FAIL" ∨ Shows reason "abort failure"
  · simp [hviolated]
  · by_cases hdone : Shows reason "KLEE: done:" <;> simp [hviolated, hdone]

namespace Verifier

variable {σ : Type} {v : Verifier σ} {runId : String} {request : Request} {s s' : RunState σ} {workDir : String}
  {o : Outcome}

/-! ## Outcomes -/

/-- **The course of a run and its verdict**, whatever clock, writer and directory do. -/
theorem course_of_opened (runId : String) (request : Request) (hcreated : (v.opened s).1 = .ok workDir) :
    ∃ ending, Course v.recording (v.plan request s workDir) (v.recording.entered s.recording)
        (v.calls runId request s) (v.recording.settled runId request s.recording workDir) ending ∧
      ∀ o s', v.verify runId request s = (.ok o, s') →
        o.verdict = .error ∨ ∃ before c, ending = .ok (before, c) ∧ o.verdict = c.verdict := by
  obtain ⟨ending, hcourse, hreflects⟩ := exists_course runId request hcreated
  refine ⟨ending, hcourse, fun o s' hverify => ?_⟩
  obtain ⟨herror, -⟩ | ⟨before, c, hending, hverdict | herror, -⟩ := hreflects o s' hverify
  · exact .inl herror
  · exact .inr ⟨before, c, hending, hverdict⟩
  · exact .inl herror

/-! ### Runs on a writer whose failures have words -/

theorem reportFailure_isOk {startedAt : Number} {failure : Failure} (hsink : s.sink.Worded) (hworded : failure.Worded) :
    ∃ o s', v.reportFailure runId startedAt failure s = (.ok o, s') := by
  obtain ⟨report, sink, hemit, -⟩ :=
    Sink.emit_of_worded hsink (draft startedAt (v.clock s.world.readings) (.error failure))
  exact ⟨_, _, reportFailure_eq hworded hemit⟩

/-- What a course that can be told leaves is a writer of the same kind, and a result or a failure that has words. -/
theorem finish_worded (v : Verifier σ) (run : Run) {ending : Ending} (hsink : s.sink.Worded) (htold : Told ending) :
    (v.finish run s ending).2.sink.Worded ∧
      ∀ failure, (v.finish run s ending).1 = .error failure → failure.Worded := by
  cases ending with
  | error failure => exact ⟨hsink, fun failure' h => Except.error.inj h ▸ htold failure rfl⟩
  | ok last =>
    obtain ⟨o, s', hfinish, hsame⟩ := v.finish_isOk run last hsink
    rw [hfinish]
    exact ⟨hsame, fun failure h => by cases h⟩

/-- A run whose work leaves a result or a failure that has words has an outcome, whether or not the directory can be
    given back. -/
theorem verify_isOk_of_worded (hcreated : (v.opened s).1 = .ok workDir)
    (hsink : (v.execute runId (v.clock s.world.readings) request workDir (v.entered s)).2.sink.Worded)
    (hworded : ∀ failure, (v.execute runId (v.clock s.world.readings) request workDir (v.entered s)).1 =
      .error failure → failure.Worded) :
    ∃ o s', v.verify runId request s = (.ok o, s') := by
  rw [verify_of_opened hcreated]
  cases hrelease : v.release runId request s workDir with
  | error failure => exact reportFailure_isOk hsink (WorkDir.worded_of_remove hrelease)
  | ok fs =>
    rcases hexecute : v.execute runId (v.clock s.world.readings) request workDir (v.entered s) with ⟨result, s₁⟩
    rw [hexecute] at hsink hworded
    cases result with
    | ok o => exact ⟨o, _, rfl⟩
    | error failure => exact reportFailure_isOk (s := HasFiles.setFiles s₁ fs) hsink (hworded failure rfl)

/-- A run whose directory was made has an outcome if its last call can be told. -/
theorem verify_isOk (hcreated : (v.opened s).1 = .ok workDir) (hsink : s.sink.Worded)
    (htells : ∀ call, (v.calls runId request s).getLast? = some call → call.Tells) :
    ∃ o s', v.verify runId request s = (.ok o, s') := by
  have hrecorded : (v.recording.opened s.recording).1 = .ok workDir := hcreated
  obtain ⟨ending, hcourse, hexecute⟩ := exists_execute runId request hcreated
  have hsettled : (v.recording.settled runId request s.recording workDir).sink.Worded := by
    rw [hcourse.sink]
    exact hsink
  have hended := v.recording.finish_worded (Run.fresh runId request (v.clock s.world.readings) workDir) hsettled
    (hcourse.told (plan_sound hrecorded) htells)
  rw [← hexecute] at hended
  obtain ⟨o, s', hverify⟩ := verify_isOk_of_worded hrecorded hended.1 hended.2
  exact ⟨o, _, by rw [verify_eq_recording, hverify]; rfl⟩

/-! ## The whole run -/

/-- What a rejected call of the engine ends with where there is no evidence: a failure outside of the stages, if the
    rejection has no words or the engine's directory may not be listed, and otherwise the verdict on the reason. -/
theorem Course.ending_of_rejected {i : PlanInput} {calls : List Call} {ending : Ending} {call : Call}
    {failure : Failure} {d : Location} (h : Course v i s calls s' ending) (hcall : calls[3]? = some call)
    (hr : call.reply = .error failure) (hd : d.Proper) (hne : d ≠ []) (hdir : i.artifacts.engineOutDir = d.text)
    (hnone : ∀ name, ¬Evidence.Present call.files d.text name) :
    (∃ g, ending = .error g ∧ (failure.text = .error g ∨ call.files.Unlistable d.text)) ∨
      ∃ reason before c, failure.text = .ok reason ∧ ending = .ok (before, c) ∧
        c.verdict = rejectionVerdict reason := by
  cases htext : failure.text with
  | error g =>
    obtain ⟨made, log, s₁, -, -, ⟨failure', g', hr', hlost, hending⟩ | ⟨e, before, report, hrun, -⟩ |
      ⟨e, g', hrun, -⟩ | ⟨e, evidence, before, hrun, -⟩⟩ := h.engine_cases hcall
    · obtain rfl := Except.error.inj (hr.symm.trans hr')
      rw [htext] at hlost
      exact .inl ⟨g', hending, .inl hlost⟩
    all_goals
      -- an answer that says something has words
      rw [hr, engineRun, htext] at hrun
      cases hrun
  | ok reason =>
    obtain ⟨hunscanned, hscanned⟩ :=
      h.of_counted hcall (Call.counted?_of_rejected hr htext) (fun h => by cases h)
    rw [hdir] at hunscanned hscanned
    cases hscan : Evidence.scan call.files d.text with
    | error g => exact .inl ⟨g, hunscanned g hscan, .inr ((Evidence.scan_eq_error_iff hd _).mp hscan).1⟩
    | ok evidence =>
      obtain ⟨r₀, r₁, r₂, before, ruleId, -, hending⟩ := hscanned evidence hscan
      have htexts := Evidence.texts_eq_nil hd hne hscan fun name hpresent => absurd hpresent (hnone name)
      rw [htexts, StageResult.verdict_rejected] at hending
      exact .inr ⟨reason, before, _, rfl, hending, rfl⟩

/-- A rejected call has the verdict on its reason where nothing else goes wrong. -/
theorem Housed.verdict_of_rejected {call : Call} {failure : Failure} {reason : String}
    (h : v.Housed runId request s workDir) (hclock : v.clock.Measures) (hsink : s.sink.Open)
    (hcall : (v.calls runId request s)[3]? = some call) (hr : call.reply = .error failure)
    (htext : failure.text = .ok reason)
    (hnone : ∀ name, ¬Evidence.Present call.files (v.plan request s workDir).artifacts.engineOutDir name)
    (hlistable : ¬call.files.Unlistable (v.plan request s workDir).artifacts.engineOutDir) :
    ∃ o s', v.verify runId request s = (.ok o, s') ∧ o.verdict = rejectionVerdict reason := by
  obtain ⟨d, hd, hne, hdir⟩ := exists_engineOutDir request h.created
  rw [hdir] at hnone hlistable
  have htells := tells_last h.created hcall (Call.tells_of_counted (Call.counted?_of_rejected hr htext))
  obtain ⟨finishedAt, ending, s', hcourse, -, -, hverify⟩ := h.verify_reported hclock hsink htells
  refine ⟨_, s', hverify, ?_⟩
  obtain ⟨g, -, hlost | hunlistable⟩ | ⟨reason', before, c, htext', rfl, hverdict⟩ :=
    hcourse.ending_of_rejected hcall hr hd hne hdir hnone
  · rw [htext] at hlost
    cases hlost
  · exact absurd hunlistable hlistable
  · rw [htext] at htext'
    rw [Except.ok.inj htext']
    exact hverdict

/-- **The verdict on an engine that could not be called.** In every run whose fourth call (the engine's, after three
build stages that passed) was rejected, and after which no evidence file is in the engine's directory:
    * whatever clock, writer and directory do, the verdict of an outcome is `error`, unless the reason shows a marker,
      and then it is `error` or the verdict on that reason;
    * if failures to write have words and the rejection can be told, there is an outcome;
    * if the directory can be given back, the clock measures, no write fails and the engine's directory may be listed,
      the verdict is the one on the reason. -/
theorem verify_rejected_engine {call : Call} {failure : Failure} (hcreated : (v.opened s).1 = .ok workDir)
    (hcall : (v.calls runId request s)[3]? = some call) (hr : call.reply = .error failure)
    (hnone : ∀ name, ¬Evidence.Present call.files (v.plan request s workDir).artifacts.engineOutDir name) :
    (∀ o s', v.verify runId request s = (.ok o, s') →
      o.verdict = .error ∨ ∃ reason, failure.text = .ok reason ∧ (∃ marker ∈ markers, Shows reason marker) ∧
        o.verdict = rejectionVerdict reason) ∧
    (s.sink.Worded → failure.Tellable → ∃ o s', v.verify runId request s = (.ok o, s')) ∧
    (v.Housed runId request s workDir → v.clock.Measures → s.sink.Open →
      ¬call.files.Unlistable (v.plan request s workDir).artifacts.engineOutDir → ∀ reason, failure.text = .ok reason →
      ∃ o s', v.verify runId request s = (.ok o, s') ∧ o.verdict = rejectionVerdict reason) := by
  refine ⟨?_, ?_, ?_⟩
  · intro o s' hverify
    obtain ⟨d, hd, hne, hdir⟩ := exists_engineOutDir request hcreated
    rw [hdir] at hnone
    obtain ⟨ending, hcourse, hverdict⟩ := course_of_opened runId request hcreated
    rcases hverdict o s' hverify with herror | ⟨before, c, rfl, hsame⟩
    · exact .inl herror
    · obtain ⟨g, hlost, -⟩ | ⟨reason, before', c', htext, hending, hreason⟩ :=
        hcourse.ending_of_rejected hcall hr hd hne hdir hnone
      · cases hlost
      · obtain ⟨-, rfl⟩ := Prod.mk.inj (Except.ok.inj hending)
        rw [hreason] at hsame
        by_cases hshown : ∃ marker ∈ markers, Shows reason marker
        · exact .inr ⟨reason, htext, hshown, hsame⟩
        · left
          rw [hsame, rejectionVerdict_eq_error_iff]
          exact fun marker hmarker hshows => hshown ⟨marker, hmarker, hshows⟩
  · intro hsink htellable
    refine verify_isOk hcreated hsink (tells_last hcreated hcall fun failure' hr' => ?_)
    exact Except.error.inj (hr.symm.trans hr') ▸ htellable
  · intro hhoused hclock hsink hlistable reason htext
    exact hhoused.verdict_of_rejected hclock hsink hcall hr htext hnone hlistable

/-! ### Commands that cannot be started -/

/-- The failure to start a command that does not exist. -/
def unstartable (command : String) : Failure := .spawn command ("spawn " ++ command ++ " ENOENT") (some "ENOENT")

/-- What can be seen of a rejected call in a prepared run: its reason, and whether the engine's directory is there. -/
def rejection? (c : Call) : Option String × Bool :=
  (match c.reply with
    | .error failure => failure.text.toOption
    | .ok _ => none, (c.files.find preparedOutDir.text).isOk)

theorem exists_rejection {script : List PlaybackStep} {reason : String}
    (h : ((prepared preparedClock).calls "run" .prepared (.prepared script))[3]?.map rejection? =
      some (some reason, false)) :
    ∃ call failure, ((prepared preparedClock).calls "run" .prepared (.prepared script))[3]? = some call ∧
      call.reply = .error failure ∧ failure.text = .ok reason ∧
      (∀ name, ¬Evidence.Present call.files ((prepared preparedClock).plan .prepared (.prepared script)
        "/w/p4verdict-1").artifacts.engineOutDir name) ∧
      ¬call.files.Unlistable ((prepared preparedClock).plan .prepared (.prepared script)
        "/w/p4verdict-1").artifacts.engineOutDir := by
  obtain ⟨call, hcall, hseen⟩ := Option.map_eq_some_iff.mp h
  obtain ⟨hreason, hfind⟩ := Prod.mk.inj hseen
  cases hr : call.reply with
  | ok r =>
    rw [hr] at hreason
    cases hreason
  | error failure =>
    rw [hr] at hreason
    rw [engineOutDir_prepared]
    have hmissing : ∀ l e, call.files.find preparedOutDir.text ≠ .ok (l, e) := by
      intro l e hfound
      rw [hfound] at hfind
      cases hfind
    refine ⟨call, failure, hcall, hr, eq_ok_of_toOption hreason, ?_, ?_⟩
    · intro name hpresent
      obtain ⟨l, e, hdirectory, -⟩ := hpresent.listed
      exact hmissing _ _ hdirectory
    · rintro ⟨l, hdirectory, -⟩
      exact hmissing _ _ hdirectory

/-- An engine that does not exist is an `error`. -/
theorem unstartable_error :
    ∃ o s', (prepared preparedClock).verify "run" .prepared
        (.prepared (preparedAnswers (.error (unstartable "klee")))) = (.ok o, s') ∧ o.verdict = .error := by
  have hseen : ((prepared preparedClock).calls "run" .prepared
      (.prepared (preparedAnswers (.error (unstartable "klee")))))[3]?.map rejection? =
      some (some "Failed to start klee: spawn klee ENOENT", false) := by
    rw [prepared_calls]
    decide +kernel
  obtain ⟨call, failure, hcall, hr, htext, hnone, hlistable⟩ := exists_rejection hseen
  obtain ⟨-, -, hverdict⟩ := verify_rejected_engine (prepared_housed preparedClock _).created hcall hr hnone
  exact hverdict (prepared_housed preparedClock _) preparedClock_measures (RunState.prepared_open _) hlistable _ htext

/-- The verdict on a prepared run without evidence whose engine is rejected because that command cannot be started. -/
def TakenFor (command : String) (verdict : Verdict) : Prop :=
  ∃ o s' call failure, (prepared preparedClock).verify "run" .prepared
      (.prepared (preparedAnswers (.error (unstartable command)))) = (.ok o, s') ∧
    ((prepared preparedClock).calls "run" .prepared
      (.prepared (preparedAnswers (.error (unstartable command)))))[3]? = some call ∧
    call.reply = .error failure ∧
    (∀ name, ¬Evidence.Present call.files ((prepared preparedClock).plan .prepared
      (.prepared (preparedAnswers (.error (unstartable command)))) "/w/p4verdict-1").artifacts.engineOutDir name) ∧
    o.verdict = verdict

theorem takenFor_of_rejection {command reason : String}
    (h : ((prepared preparedClock).calls "run" .prepared
      (.prepared (preparedAnswers (.error (unstartable command)))))[3]?.map rejection? = some (some reason, false)) :
    TakenFor command (rejectionVerdict reason) := by
  obtain ⟨call, failure, hcall, hr, htext, hnone, hlistable⟩ := exists_rejection h
  obtain ⟨o, s', hverify, hverdict⟩ := (prepared_housed preparedClock _).verdict_of_rejected preparedClock_measures
    (RunState.prepared_open _) hcall hr htext hnone hlistable
  exact ⟨o, s', call, failure, hverify, hcall, hr, hnone, hverdict⟩

/-- A reason that quotes a marker is taken for what an engine printed: a command that does not exist is reported to have
    explored every path, or to have found a violation, if its name is that of a marker. -/
theorem rejection_quotes_marker : TakenFor "KLEE: done:" .holds ∧ TakenFor "ASSERTION FAIL" .violated := by
  have hdone : ((prepared preparedClock).calls "run" .prepared
      (.prepared (preparedAnswers (.error (unstartable "KLEE: done:")))))[3]?.map rejection? =
      some (some "Failed to start KLEE: done:: spawn KLEE: done: ENOENT", false) := by
    rw [prepared_calls]
    decide +kernel
  have hassertion : ((prepared preparedClock).calls "run" .prepared
      (.prepared (preparedAnswers (.error (unstartable "ASSERTION FAIL")))))[3]?.map rejection? =
      some (some "Failed to start ASSERTION FAIL: spawn ASSERTION FAIL ENOENT", false) := by
    rw [prepared_calls]
    decide +kernel
  exact ⟨takenFor_of_rejection hdone, takenFor_of_rejection hassertion⟩

end Verifier

end DataplaneVerdict
