import DataplaneVerdict.Proofs.Course
import DataplaneVerdict.Proofs.Markers

/-!
# `Proofs.EngineVerdict` — the verdict on an engine that ran to its end

Once the build stages have passed and the engine has answered without being interrupted, the verdict follows from the
engine's result and from the evidence in its directory alone: `StageResult.verdict` says how, on the output as the
engine printed it, and the table of rules on the annotated output agrees with it (`StageResult.verdict_classify`). The
report bears this verdict, the evidence, and one log entry for each stage (`Verifier.verify_engine_verdict`).
-/

namespace DataplaneVerdict

attribute [local irreducible] WorkDir.create WorkDir.remove Evidence.scan

/-! ## The table of rules -/

/-- The built-in rules stand in the order in which they are tried. -/
theorem orderRules_builtin : orderRules Rule.builtin = Rule.builtin := by
  have hnumbers : ¬(Rule.builtin.any fun r => r.priority = .nan) = true := by decide
  rw [orderRules, if_neg hnumbers]
  apply List.mergeSort_of_pairwise
  decide

/-- The engine left with the exit code zero. -/
def StageResult.exitedCleanly (r : StageResult) : Bool := r.exitCode.any fun code => Number.eq code 0

/-- **The verdict on an engine's result**, given the texts of its evidence. A violation outranks everything, a timeout
    outranks the claim that every path was explored, and that claim outranks the exit code. -/
def StageResult.verdict (r : StageResult) (evidence : List String) : Verdict :=
  if evidence ≠ [] ∨ Shows r.output "ASSERTION FAIL" ∨ Shows r.output "abort failure" then .violated
  else if r.status = .timedOut then .unknown
  else if Shows r.output "KLEE: done:" then .holds
  else if r.exitedCleanly then .holds
  else .error

/-- The built-in rules on an observation: the first that recognises it decides. -/
theorem classify_builtin_eq (o : Observation) :
    classify o Rule.builtin =
      if Rule.violation.recognises o then ⟨.violated, "violation"⟩
      else if Rule.timeout.recognises o then ⟨.unknown, "timeout"⟩
      else if Rule.completed.recognises o then ⟨.holds, "completed"⟩
      else if Rule.engineFailure.recognises o then ⟨.error, "engine-failure"⟩
      else ⟨.holds, "clean-exit"⟩ := by
  rw [classify, orderRules_builtin]
  simp only [Rule.builtin, List.find?]
  cases Rule.violation.recognises o <;> cases Rule.timeout.recognises o <;> cases Rule.completed.recognises o <;>
    cases Rule.engineFailure.recognises o <;> rfl

theorem classify_builtin (o : Observation) :
    (classify o Rule.builtin).verdict =
      if Rule.violation.recognises o then .violated
      else if Rule.timeout.recognises o then .unknown
      else if Rule.completed.recognises o then .holds
      else if Rule.engineFailure.recognises o then .error
      else .holds := by
  simp only [classify_builtin_eq, apply_ite Classification.verdict]

namespace StageResult

/-- What the rules see of a result. -/
def observation (r : StageResult) (seconds : Number) (evidence : List String) : Observation :=
  ⟨r.annotated seconds, r.status = .timedOut, r.exitCode, evidence⟩

variable (r : StageResult) (seconds : Number) (evidence : List String)

/-- A search in the annotated output is one in the output. -/
theorem contains_annotated (marker : String) (h : marker ∈ markers) :
    Text.contains (r.annotated seconds) marker = decide (Shows r.output marker) := by
  rw [contains_eq_decide_shows, decide_eq_decide]
  exact shows_annotated_iff h r seconds

theorem recognises_violation_iff :
    Rule.violation.recognises (r.observation seconds evidence) = true ↔
      evidence ≠ [] ∨ Shows r.output "ASSERTION FAIL" ∨ Shows r.output "abort failure" := by
  have hassertion := r.contains_annotated seconds assertionFailureMarker (by decide)
  have habort := r.contains_annotated seconds abortFailureMarker (by decide)
  simp only [Rule.violation, observation, hassertion, habort, Bool.or_eq_true, decide_eq_true_iff,
    Bool.not_eq_true', List.isEmpty_eq_false_iff]
  exact or_comm

theorem recognises_timeout_iff :
    Rule.timeout.recognises (r.observation seconds evidence) = true ↔ r.status = .timedOut := by
  simp only [Rule.timeout, observation, decide_eq_true_iff]

theorem recognises_completed_iff :
    Rule.completed.recognises (r.observation seconds evidence) = true ↔
      Shows r.output "KLEE: done:" ∧ evidence = [] := by
  have hdone := r.contains_annotated seconds completionMarker (by decide)
  simp only [Rule.completed, observation, hdone, Bool.and_eq_true, decide_eq_true_iff, List.isEmpty_iff]
  exact Iff.rfl

theorem recognises_engineFailure_iff :
    Rule.engineFailure.recognises (r.observation seconds evidence) = true ↔ ¬r.exitedCleanly = true := by
  simp only [Rule.engineFailure, observation, exitedCleanly]
  cases r.exitCode with
  | none => simp
  | some code => simp

/-- **The rules agree** on the annotated output with the verdict on the output itself. -/
theorem verdict_classify : (classify (r.observation seconds evidence) Rule.builtin).verdict = r.verdict evidence := by
  rw [classify_builtin, verdict]
  simp only [recognises_violation_iff, recognises_timeout_iff, recognises_completed_iff, recognises_engineFailure_iff]
  by_cases hviolated : evidence ≠ [] ∨ Shows r.output "ASSERTION FAIL" ∨ Shows r.output "abort failure"
  · rw [if_pos hviolated, if_pos hviolated]
  · -- no evidence is left once this rule has passed, so the third rule is about its marker alone
    have hnone : evidence = [] := Classical.byContradiction fun h => hviolated (.inl h)
    rw [if_neg hviolated, if_neg hviolated]
    simp only [hnone, and_true]
    cases r.exitedCleanly <;> simp

end StageResult

/-! ## The log -/

/-- The log entry of a stage that ran, by its result. The translator's output is its product, so only its error stream
    is logged; an engine that ran out of time is labelled as such. -/
def Stage.entry (seconds : Number) (stage : Stage) (r : StageResult) : String :=
  match stage with
  | .translate => logEntry stage.label ("stderr: " ++ r.stderr)
  | .engine =>
    logEntry (if r.status = .timedOut then stage.label ++ " (Timeout)" else stage.label) (r.annotated seconds)
  | .frontend | .native => logEntry stage.label r.output

/-! ## What an answer counts as -/

/-- What a rejected call counts as: a process without an exit code that printed the reason. -/
def StageResult.rejected (reason : String) : StageResult := ⟨.failed, none, none, "", "", "error: " ++ reason⟩

/-- What the engine's answer counts as; a rejection without words counts as nothing. -/
def Call.counted? (c : Call) : Option StageResult :=
  match c.reply with
  | .ok r => some r
  | .error failure => failure.text.toOption.map .rejected

namespace Call

variable {c : Call} {r : StageResult} {failure : Failure} {reason : String}

theorem counted?_of_ok (hr : c.reply = .ok r) : c.counted? = some r := by
  rw [counted?, hr]

theorem counted?_of_rejected (hr : c.reply = .error failure) (htext : failure.text = .ok reason) :
    c.counted? = some (.rejected reason) := by
  rw [counted?, hr]
  dsimp only
  rw [htext]
  rfl

theorem worded_of_counted (hcounted : c.counted? = some r) (hr : c.reply = .error failure) : failure.Worded := by
  cases htext : failure.text with
  | ok reason => exact ⟨reason, htext⟩
  | error g =>
    rw [counted?, hr] at hcounted
    dsimp only at hcounted
    rw [htext] at hcounted
    cases hcounted

theorem tells_of_counted (hcounted : c.counted? = some r) : c.Tells :=
  fun _ hr => (worded_of_counted hcounted hr).tellable

theorem tells_of_ok (hr : c.reply = .ok r) : c.Tells := tells_of_counted (counted?_of_ok hr)

end Call

namespace Verifier

variable {σ : Type} {v : Verifier σ} {s s' : RunState σ} {calls : List Call} {log : List String}

/-- Three stages that passed have results, and the entries of these are the log. -/
theorem Built.three {a b c : StageSpec} (h : Built v [a, b, c] s calls log s') :
    ∃ r₀ r₁ r₂, calls.map (·.reply) = [.ok r₀, .ok r₁, .ok r₂] ∧
      log = [stageEntry a r₀, stageEntry b r₁, stageEntry c r₂] := by
  cases h with
  | @cons _ _ _ _ r₀ _ _ _ h₀ _ hrest =>
    cases hrest with
    | @cons _ _ _ _ r₁ _ _ _ h₁ _ hrest =>
      cases hrest with
      | @cons _ _ _ _ r₂ _ _ _ h₂ _ hrest =>
        cases hrest
        refine ⟨r₀, r₁, r₂, ?_, rfl⟩
        rw [List.map_cons, List.map_cons, List.map_cons, List.map_nil, h₀, h₁, h₂]

/-- What an engine's result says. -/
theorem engineRun_ok {spec : StageSpec} (hstage : spec.stage = .engine) (r : StageResult) :
    engineRun spec (.ok r) =
      .ok ⟨Stage.engine.entry spec.timeoutSeconds r, r.annotated spec.timeoutSeconds, r.status = .timedOut, r.exitCode,
        r.status = .aborted⟩ := by
  by_cases htimedOut : r.status = .timedOut
  · have habortion : r.status ≠ .aborted := by rw [htimedOut]; decide
    rw [engineRun, Stage.entry, StageResult.annotated, if_pos htimedOut, if_pos htimedOut, if_pos htimedOut, hstage,
      decide_eq_true htimedOut, decide_eq_false habortion]
    dsimp only [timeoutNote]
  · rw [engineRun, Stage.entry, StageResult.annotated, if_neg htimedOut, if_neg htimedOut, if_neg htimedOut, hstage,
      decide_eq_false htimedOut]

/-- An answer says what it counts as: to the rules a rejection is a failed process. -/
theorem engineRun_of_counted {spec : StageSpec} (hstage : spec.stage = .engine) {c : Call} {r : StageResult}
    (hcounted : c.counted? = some r) :
    engineRun spec c.reply =
      .ok ⟨Stage.engine.entry spec.timeoutSeconds r, r.annotated spec.timeoutSeconds, r.status = .timedOut, r.exitCode,
        r.status = .aborted⟩ := by
  cases hr : c.reply with
  | ok r' =>
    rw [Call.counted?_of_ok hr] at hcounted
    rw [Option.some.inj hcounted, engineRun_ok hstage]
  | error failure =>
    obtain ⟨reason, htext⟩ := Call.worded_of_counted hcounted hr
    rw [Call.counted?_of_rejected hr htext] at hcounted
    obtain rfl := Option.some.inj hcounted
    simp only [engineRun, htext, Except.map, hstage]
    rfl

/-! ## Courses -/

variable {i : PlanInput} {ending : Ending} {call : Call} {r : StageResult}

/-- **A course with a fourth call** has come to the engine. Its answer cannot be put into words, or it was
interrupted, or it has left a directory that may not be listed, or it is classified together with the evidence. -/
theorem Course.engine_cases (h : Course v i s calls s' ending) (hcall : calls[3]? = some call) :
    ∃ made log s₁, Built v (Plan.ofInput i).build s made log s₁ ∧ calls = made ++ [call] ∧
      ((∃ failure g, call.reply = .error failure ∧ failure.text = .error g ∧ ending = .error g) ∨
       (∃ e before report, engineRun (Plan.engineSpec i) call.reply = .ok e ∧ e.aborted = true ∧
          ending = .ok (before, ⟨.error, 1, report, [], none⟩)) ∨
       (∃ e failure, engineRun (Plan.engineSpec i) call.reply = .ok e ∧ e.aborted = false ∧
          Evidence.scan call.files i.artifacts.engineOutDir = .error failure ∧ ending = .error failure) ∨
       (∃ e evidence before, engineRun (Plan.engineSpec i) call.reply = .ok e ∧ e.aborted = false ∧
          Evidence.scan call.files i.artifacts.engineOutDir = .ok evidence ∧
          ending = .ok (before, ⟨(classify (e.observation evidence.texts) Rule.builtin).verdict, 0, log ++ [e.entry],
            evidence.texts, some (classify (e.observation evidence.texts) Rule.builtin).ruleId⟩))) := by
  cases h with
  | @stopped pre post spec made log s₁ text fs hsplit hbuilt hstop =>
    -- a build stage that stops the run is at most the third call
    have hthree : (Plan.ofInput i).build.length = 3 := rfl
    rw [hsplit, List.length_append, List.length_cons] at hthree
    have hmade := hbuilt.length_eq
    have hfull := (eq_last_of_fourth (by omega) hcall).1
    omega
  | @lost pre post spec made log s₁ failure g hsplit hbuilt hrejected hlost =>
    have hfour : (Plan.ofInput i).stages.length = 4 := rfl
    have hlength := congrArg List.length hsplit
    rw [hfour, List.length_append, List.length_cons] at hlength
    have hmade := hbuilt.length_eq
    obtain ⟨hfull, rfl⟩ := eq_last_of_fourth (by omega) hcall
    -- three stages came before it, and these are the build stages
    have hpre : (Plan.ofInput i).build = pre := by
      have hthree : (Plan.ofInput i).build.length = pre.length := hfull.symm.trans hmade
      exact (List.append_inj hsplit hthree).1
    exact ⟨made, log, s₁, hpre ▸ hbuilt, rfl, .inl ⟨failure, g, hrejected, hlost, rfl⟩⟩
  | @interrupted made log s₁ e hbuilt hrun haborted =>
    obtain ⟨-, rfl⟩ := eq_last_of_fourth (Nat.le_of_eq hbuilt.length_eq) hcall
    exact ⟨made, log, s₁, hbuilt, rfl, .inr (.inl ⟨e, _, _, hrun, haborted, rfl⟩)⟩
  | @unscanned made log s₁ e failure hbuilt hrun haborted hscan =>
    obtain ⟨-, rfl⟩ := eq_last_of_fourth (Nat.le_of_eq hbuilt.length_eq) hcall
    exact ⟨made, log, s₁, hbuilt, rfl, .inr (.inr (.inl ⟨e, failure, hrun, haborted, hscan, rfl⟩))⟩
  | @classified made log s₁ e evidence hbuilt hrun haborted hscan =>
    obtain ⟨-, rfl⟩ := eq_last_of_fourth (Nat.le_of_eq hbuilt.length_eq) hcall
    exact ⟨made, log, s₁, hbuilt, rfl, .inr (.inr (.inr ⟨e, evidence, _, hrun, haborted, hscan, rfl⟩))⟩

/-- The fourth call of a course is its last one. -/
theorem Course.getLast?_of_fourth (h : Course v i s calls s' ending) (hcall : calls[3]? = some call) :
    calls.getLast? = some call := by
  obtain ⟨made, -, -, -, rfl, -⟩ := h.engine_cases hcall
  exact List.getLast?_concat

/-- **An engine that was not interrupted** ends the course with a classification of what its answer counts as, together
    with its evidence; if its directory may not be listed, the course ends with that failure. -/
theorem Course.of_counted (h : Course v i s calls s' ending) (hcall : calls[3]? = some call)
    (hcounted : call.counted? = some r) (hst : r.status ≠ .aborted) :
    (∀ failure, Evidence.scan call.files i.artifacts.engineOutDir = .error failure → ending = .error failure) ∧
    (∀ evidence, Evidence.scan call.files i.artifacts.engineOutDir = .ok evidence →
      ∃ r₀ r₁ r₂ before ruleId, calls.map (·.reply) = [.ok r₀, .ok r₁, .ok r₂, call.reply] ∧
        ending = .ok (before, ⟨r.verdict evidence.texts, 0,
          [Stage.frontend.entry i.timeouts.engineSeconds r₀, Stage.translate.entry i.timeouts.engineSeconds r₁,
            Stage.native.entry i.timeouts.engineSeconds r₂, Stage.engine.entry i.timeouts.engineSeconds r],
          evidence.texts, ruleId⟩)) := by
  have hsame := engineRun_of_counted (show (Plan.engineSpec i).stage = .engine from rfl) hcounted
  obtain ⟨made, log, s₁, hbuilt, rfl, ⟨failure, g, hrejected, hlost, -⟩ | ⟨e, before, report, hrun, haborted, -⟩ |
    ⟨e, failure, -, -, hscan, rfl⟩ | ⟨e, evidence, before, hrun, -, hscan, rfl⟩⟩ := h.engine_cases hcall
  · exact absurd (Call.worded_of_counted hcounted hrejected) (Failure.not_worded_of_text hlost)
  · rw [hsame] at hrun
    rw [← Except.ok.inj hrun] at haborted
    exact absurd (of_decide_eq_true haborted) hst
  · rw [hscan]
    refine ⟨fun _ heq => congrArg Except.error (Except.error.inj heq), fun evidence heq => ?_⟩
    cases heq
  · rw [hscan]
    constructor
    · intro failure heq
      cases heq
    rintro evidence' heq
    obtain rfl := Except.ok.inj heq
    obtain ⟨r₀, r₁, r₂, hreplies, rfl⟩ := Built.three hbuilt
    rw [hsame] at hrun
    obtain rfl := Except.ok.inj hrun
    have hverdict := r.verdict_classify i.timeouts.engineSeconds evidence.texts
    refine ⟨r₀, r₁, r₂, before,
      some (classify (r.observation i.timeouts.engineSeconds evidence.texts) Rule.builtin).ruleId, ?_, ?_⟩
    · rw [List.map_append, hreplies, List.map_singleton]
      rfl
    · rw [← hverdict]
      rfl

/-! ## The whole run -/

variable {runId : String} {request : Request} {workDir : String}

/-- **The engine's directory is new**: whatever other runs have left, nothing stands at its path when a run starts. -/
theorem not_pathExists_engineOutDir (hcreated : (v.opened s).1 = .ok workDir) (htree : s.world.files.IsTree) :
    (v.opened s).2.pathExists (v.plan request s workDir).artifacts.engineOutDir = false := by
  have hname : Path.IsName "klee-out" := ⟨by decide, by decide, by decide, by decide⟩
  exact WorkDir.create_empty htree (v.isAbsolute_workRoot s) hname (create_of_opened hcreated)

/-- An elapsed time that the schema refuses makes any outcome an `error`. -/
theorem verdict_of_refused_time {sink sink' : Sink} (hsink : sink.Open) {a b : Number} {report : Report}
    (htime : (Check.wholeNumber 0 none (.num (elapsedMs a b))).isOk = false)
    (hemit : sink.emit (draft a b ending) = (.ok report, sink')) : (outcome runId report ending).verdict = .error := by
  cases ending with
  | error failure => rfl
  | ok last =>
    obtain ⟨before, c⟩ := last
    rw [Sink.emit_of_open hsink] at hemit
    have hreport : Report.ofDraft (draft a b (.ok (before, c))) = report := Except.ok.inj (Prod.mk.inj hemit).1
    cases hassemble : Report.assemble (draft a b (.ok (before, c))) with
    | ok assembled =>
      have haccepted : Check.wholeNumber 0 none (.num (elapsedMs a b)) = .ok assembled.timeMs :=
        Report.time_of_assemble hassemble
      rw [haccepted] at htime
      cases htime
    | error issues =>
      rw [Report.ofDraft, hassemble] at hreport
      rw [← hreport]
      rfl

/-- If the fourth call can be told, so can the last one. -/
theorem tells_last (hcreated : (v.opened s).1 = .ok workDir) (hcall : (v.calls runId request s)[3]? = some call)
    (htells : call.Tells) : ∀ last, (v.calls runId request s).getLast? = some last → last.Tells := by
  obtain ⟨ending, hcourse, -⟩ := exists_course runId request hcreated
  intro last hlast
  rw [hcourse.getLast?_of_fourth hcall] at hlast
  exact Option.some.inj hlast ▸ htells

/-- **The verdict on an engine that ran to its end.** In every run with a work directory, a clock that measures and a
    writer that never fails, whose fourth call (the engine's, after three build stages that passed) was answered with
    the result `r` and not by an interruption, let `evidence` be what the scan of the engine's directory right after
    that call gives:
    * the verdict is that of `r` and the texts of this evidence, and the exit code is 0;
    * the report bears the evidence just if there is some, and its details are the entries of the four stages;
    * the note about a timeout, which is in the last entry, neither adds nor hides a marker;
    * on a proper tree the engine's directory did not exist when the run started. -/
theorem verify_engine_verdict (hhoused : v.Housed runId request s workDir) (hclock : v.clock.Measures)
    (hsink : s.sink.Open) (hcall : (v.calls runId request s)[3]? = some call) (hr : call.reply = .ok r)
    (hst : r.status ≠ .aborted) {evidence : Evidence}
    (hscan : Evidence.scan call.files (v.plan request s workDir).artifacts.engineOutDir = .ok evidence) :
    ∃ o s' r₀ r₁ r₂, v.verify runId request s = (.ok o, s') ∧
      (v.calls runId request s).map (·.reply) = [.ok r₀, .ok r₁, .ok r₂, .ok r] ∧
      o.verdict = r.verdict evidence.texts ∧ o.report.verdict = o.verdict ∧ o.exitCode = 0 ∧
      o.report.assertionErrors = (if evidence.texts = [] then none else some evidence.texts) ∧
      o.report.details = Text.join "\n"
        [Stage.frontend.entry request.engineTimeoutSeconds r₀, Stage.translate.entry request.engineTimeoutSeconds r₁,
          Stage.native.entry request.engineTimeoutSeconds r₂, Stage.engine.entry request.engineTimeoutSeconds r] ∧
      (∀ marker ∈ markers, Shows (r.annotated request.engineTimeoutSeconds) marker ↔ Shows r.output marker) ∧
      (s.world.files.IsTree →
        (v.opened s).2.pathExists (v.plan request s workDir).artifacts.engineOutDir = false) := by
  have htells := tells_last hhoused.created hcall (Call.tells_of_ok hr)
  obtain ⟨finishedAt, ending, s', hcourse, -, -, hverify⟩ := hhoused.verify_reported hclock hsink htells
  obtain ⟨r₀, r₁, r₂, before, ruleId, hreplies, rfl⟩ :=
    (hcourse.of_counted hcall (Call.counted?_of_ok hr) hst).2 evidence hscan
  rw [hr] at hreplies
  refine ⟨_, s', r₀, r₁, r₂, hverify, hreplies, rfl, rfl, rfl, ?_, rfl, ?_, ?_⟩
  · simp only [outcome, reportOf, Report.ofRun, List.isEmpty_iff]
  · exact fun marker hmarker => r.shows_annotated_iff hmarker request.engineTimeoutSeconds
  · exact not_pathExists_engineOutDir hhoused.created

/-- The result of an engine that runs out of time when it has just explored every path. -/
def overdue : StageResult := ⟨.timedOut, none, none, "", "", "KLEE: done: paths = 1"⟩

/-- The verdict on that engine is `unknown`, and its directory was new. -/
theorem overdue_unknown :
    ∃ o s', (prepared preparedClock).verify "run" .prepared (.prepared (preparedAnswers (.ok overdue))) = (.ok o, s') ∧
      o.verdict = .unknown ∧ o.exitCode = 0 ∧
      ((prepared preparedClock).opened (.prepared (preparedAnswers (.ok overdue)))).2.pathExists
        ((prepared preparedClock).plan .prepared (.prepared (preparedAnswers (.ok overdue)))
          "/w/p4verdict-1").artifacts.engineOutDir = false := by
  have hreply : ((prepared preparedClock).calls "run" .prepared (.prepared (preparedAnswers (.ok overdue))))[3]?.map
      (·.reply.toOption) = some (some overdue) := by
    rw [prepared_calls]
    decide +kernel
  have htexts : ((prepared preparedClock).calls "run" .prepared (.prepared (preparedAnswers (.ok overdue))))[3]?.map
      (fun call => (Evidence.scan call.files ((prepared preparedClock).plan .prepared
        (.prepared (preparedAnswers (.ok overdue))) "/w/p4verdict-1").artifacts.engineOutDir).toOption.map (·.texts)) =
      some (some []) := by
    rw [prepared_calls]
    decide +kernel
  obtain ⟨call, hcall, hr⟩ := exists_reply hreply
  rw [hcall, Option.map_some] at htexts
  obtain ⟨evidence, hscanned, hnone⟩ := Option.map_eq_some_iff.mp (Option.some.inj htexts)
  obtain ⟨o, s', r₀, r₁, r₂, hverify, -, hverdict, -, hcode, -, -, -, hnew⟩ :=
    verify_engine_verdict (prepared_housed preparedClock _) preparedClock_measures (RunState.prepared_open _) hcall hr
      (by decide) (eq_ok_of_toOption hscanned)
  refine ⟨o, s', hverify, ?_, hcode, hnew preparedFiles_isTree⟩
  rw [hverdict, hnone]
  decide

/-- Whole readings alone are not enough: where they lie too far apart, the report of an engine that explored every path
    cannot be assembled, and the verdict `error` takes the place of the engine's. -/
theorem explored_refused :
    (∀ i, (Clock.extremes i).isInteger = true) ∧
    (RunState.prepared (preparedAnswers (.ok explored))).sink.Open ∧
    (prepared .extremes).Housed "run" .prepared (.prepared (preparedAnswers (.ok explored))) "/w/p4verdict-1" ∧
    ∃ o s' call, (prepared .extremes).verify "run" .prepared (.prepared (preparedAnswers (.ok explored))) =
        (.ok o, s') ∧
      ((prepared .extremes).calls "run" .prepared (.prepared (preparedAnswers (.ok explored))))[3]? = some call ∧
      call.reply = .ok explored ∧ ∀ evidence, o.verdict ≠ explored.verdict evidence := by
  have hsink := RunState.prepared_open (preparedAnswers (.ok explored))
  have hhoused := prepared_housed .extremes (preparedAnswers (.ok explored))
  refine ⟨Clock.isInteger_extremes, hsink, hhoused, ?_⟩
  have hreply : ((prepared .extremes).calls "run" .prepared (.prepared (preparedAnswers (.ok explored))))[3]?.map
      (·.reply.toOption) = some (some explored) := by
    rw [prepared_calls]
    decide +kernel
  have hreadings : ((prepared .extremes).recording.settled "run" .prepared
      (RunState.prepared (preparedAnswers (.ok explored))).recording "/w/p4verdict-1").world.readings = 1 := by
    decide +kernel
  obtain ⟨call, hcall, hr⟩ := exists_reply hreply
  have htells := tells_last hhoused.created hcall (Call.tells_of_ok hr)
  obtain ⟨ending, report, s', hcourse, hemit, hverify⟩ := hhoused.verify_recorded (Sink.worded_of_open hsink) htells
  -- what the run has to report does not matter: its time alone is refused
  rw [hreadings] at hemit
  refine ⟨_, s', call, hverify, hcall, hr, fun evidence => ?_⟩
  rw [verdict_of_refused_time hsink (by decide +kernel) hemit]
  have hoptimistic : explored.verdict evidence = .violated ∨ explored.verdict evidence = .holds := by
    unfold StageResult.verdict
    split
    · exact .inl rfl
    · exact .inr (by decide)
  rcases hoptimistic with h | h <;> rw [h] <;> decide

end Verifier

end DataplaneVerdict
