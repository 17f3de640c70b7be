import DataplaneVerdict.Proofs.EngineVerdict
import DataplaneVerdict.Proofs.Interruption

/-!
# `Proofs.Streams` — markers in the output and markers in the streams

The rules search the output of the engine, which is its output stream with its error stream right behind it. Nothing
stands at the joint, so the end of the one stream and the beginning of the other can spell a marker that neither of
them has: `Straddles` says when, and `shows_append_iff` that nothing else can happen. So a run without evidence is
decided by a marker only if a stream has that marker or the joint makes it (`Verifier.verify_streams`).
-/

namespace DataplaneVerdict

attribute [local irreducible] WorkDir.create WorkDir.remove Evidence.scan

/-! ## The joint -/

/-- The end of `left` and the beginning of `right` spell `marker`, and each of them has a part in it. -/
def Straddles (marker left right : String) : Prop :=
  ∃ a b, a ≠ [] ∧ b ≠ [] ∧ marker.toList = a ++ b ∧ a <:+ left.toList ∧ b <+: right.toList

theorem shows_append_iff {left right marker : String} :
    Shows (left ++ right) marker ↔ Shows left marker ∨ Shows right marker ∨ Straddles marker left right := by
  rw [Shows, String.toList_append]
  exact List.infix_append_iff_ne_nil

/-- A marker stands in one of the two streams, or over their joint. -/
def StageResult.Displays (r : StageResult) (marker : String) : Prop :=
  Shows r.stdout marker ∨ Shows r.stderr marker ∨ Straddles marker r.stdout r.stderr

theorem StageResult.shows_output_iff {r : StageResult} (h : r.output = r.stdout ++ r.stderr) (marker : String) :
    Shows r.output marker ↔ r.Displays marker := by
  rw [h]
  exact shows_append_iff

/-- **The output of a supervised process** is its output stream and then its error stream. -/
theorem ProcessHost.output_of_call {σ : Type} {host : ProcessHost σ} {c : Command} {w : World} {m : Signalled σ}
    {r : StageResult} (h : (host.call c w m).1 = .ok r) : r.output = r.stdout ++ r.stderr := by
  cases hbudget : isBudget c.timeoutSeconds with
  | false =>
    rw [call_of_excess hbudget] at h
    cases h
  | true =>
    cases hraised : m.raised with
    | true =>
      -- nothing was started, and nothing was written
      rw [call_of_raised hbudget hraised] at h
      obtain rfl : abortedResult = r := Except.ok.inj h
      rfl
    | false =>
      rw [call_of_calm hbudget hraised] at h
      cases hlaunch : (host.attempt c w m).1 with
      | refused f =>
        rw [hlaunch] at h
        cases h
      | started pid before finish later =>
        rw [hlaunch, settle_fst] at h
        have hsettled :
            (Supervision.ofEvents c.command pid (before ++ finish.event :: later)).settled = some (.ok r) := by
          rw [Supervision.settled_finish]
          exact congrArg some h
        obtain ⟨_, _, _, hclosed⟩ := Supervision.closed_of_settled hsettled
        exact hclosed.output

/-! ## The rules -/

section Rules

variable {o : Observation}

theorem ruleId_eq_violation_iff :
    (classify o Rule.builtin).ruleId = "violation" ↔ Rule.violation.recognises o = true := by
  rw [classify_builtin_eq]
  by_cases hviolation : Rule.violation.recognises o = true
  · simp [hviolation]
  · rw [if_neg hviolation]
    refine iff_of_false ?_ hviolation
    repeat' split
    all_goals decide

/-- Only one rule finds violations. -/
theorem ruleId_of_violated (h : (classify o Rule.builtin).verdict = .violated) :
    (classify o Rule.builtin).ruleId = "violation" := by
  rw [classify_builtin_eq] at h ⊢
  by_cases hviolation : Rule.violation.recognises o = true
  · rw [if_pos hviolation]
  · rw [if_neg hviolation] at h
    repeat' split at h
    all_goals cases h

theorem recognises_of_ruleId_completed (h : (classify o Rule.builtin).ruleId = "completed") :
    Rule.completed.recognises o = true := by
  apply Classical.byContradiction
  intro hcompleted
  rw [classify_builtin_eq, if_neg hcompleted] at h
  revert h
  repeat' split
  all_goals decide

end Rules

namespace StageResult

variable {r : StageResult} {seconds : Number}

/-- Without evidence it takes a failure marker to find a violation. -/
theorem ruleId_violation_iff :
    (classify (r.observation seconds []) Rule.builtin).ruleId = "violation" ↔
      Shows r.output assertionFailureMarker ∨ Shows r.output abortFailureMarker := by
  rw [ruleId_eq_violation_iff, recognises_violation_iff]
  exact or_iff_right fun hevidence => hevidence rfl

theorem shows_of_ruleId_completed
    (h : (classify (r.observation seconds []) Rule.builtin).ruleId = "completed") :
    Shows r.output completionMarker := by
  have hcompleted := recognises_of_ruleId_completed h
  rw [recognises_completed_iff] at hcompleted
  exact hcompleted.1

end StageResult

/-! ## Runs -/

namespace Verifier

variable {σ : Type} {v : Verifier σ} {s s' : RunState σ} {i : PlanInput} {calls : List Call} {call : Call}
  {ending : Ending} {r : StageResult} {evidence : Evidence}

/-- The fourth call has the reply that the executor gave. -/
theorem Course.reply_of_fourth (h : Course v i s calls s' ending) (hcall : calls[3]? = some call) :
    ∃ w m, (v.executor.call call.command w m).1 = call.reply := by
  obtain ⟨pre, spec, post, before, log, s₁, fs, hstages, hbuilt, rfl, -⟩ := h.last_call
  have hfour : (Plan.ofInput i).stages.length = 4 := rfl
  rw [hstages, List.length_append, List.length_cons] at hfour
  have hbefore := hbuilt.length_eq
  obtain ⟨-, rfl⟩ := eq_last_of_fourth (by omega) hcall
  exact ⟨s₁.world, s₁.memory, rfl⟩

/-- **An engine with a result** was interrupted, and then no rule is asked, or the rules are asked about the result and
    the evidence that was found. -/
theorem Course.ruled_of_result (h : Course v i s calls s' ending) (hcall : calls[3]? = some call)
    (hr : call.reply = .ok r) (hscan : Evidence.scan call.files i.artifacts.engineOutDir = .ok evidence) :
    ∃ before c, ending = .ok (before, c) ∧
      ((c.verdict = .error ∧ c.ruleId = none) ∨
       (c.verdict = (classify (r.observation i.timeouts.engineSeconds evidence.texts) Rule.builtin).verdict ∧
        c.ruleId = some (classify (r.observation i.timeouts.engineSeconds evidence.texts) Rule.builtin).ruleId)) := by
  have hsame := engineRun_ok (show (Plan.engineSpec i).stage = .engine from rfl) r
  obtain ⟨made, log, s₁, -, -, ⟨failure, g, hrejected, -, -⟩ | ⟨e, before, report, -, -, rfl⟩ |
    ⟨e, failure, -, -, hunscanned, -⟩ | ⟨e, evidence', before, hrun, -, hscan', rfl⟩⟩ := h.engine_cases hcall
  · rw [hr] at hrejected
    cases hrejected
  · exact ⟨before, _, rfl, .inl ⟨rfl, rfl⟩⟩
  · rw [hscan] at hunscanned
    cases hunscanned
  · rw [hr, hsame] at hrun
    obtain rfl := Except.ok.inj hrun
    obtain rfl : evidence' = evidence := Except.ok.inj (hscan'.symm.trans hscan)
    exact ⟨before, _, rfl, .inr ⟨rfl, rfl⟩⟩

/-- The engine of a run was answered with the result `r` and left no evidence. -/
def Unevidenced (v : Verifier σ) (runId : String) (request : Request) (s : RunState σ) (r : StageResult) : Prop :=
  ∃ workDir call evidence, (v.opened s).1 = .ok workDir ∧ (v.calls runId request s)[3]? = some call ∧
    call.reply = .ok r ∧
    Evidence.scan call.files (v.plan request s workDir).artifacts.engineOutDir = .ok evidence ∧ evidence.texts = []

/-- What the outcome of such a run shows: no rule and no verdict of one, or the rule that decides on the result, and its
    verdict unless that has become an `error`. -/
theorem Unevidenced.decided {runId : String} {request : Request} {o : Outcome} (h : v.Unevidenced runId request s r)
    (hverify : v.verify runId request s = (.ok o, s')) :
    (o.verdict = .error ∧ o.ruleId = none) ∨
    ∃ seconds, o.ruleId = some (classify (r.observation seconds []) Rule.builtin).ruleId ∧
      (o.verdict = (classify (r.observation seconds []) Rule.builtin).verdict ∨ o.verdict = .error) := by
  obtain ⟨workDir, call, evidence, hcreated, hcall, hr, hscan, hnone⟩ := h
  obtain ⟨ending, hcourse, hreflects⟩ := exists_course runId request hcreated
  rcases hreflects o s' hverify with hlost | ⟨before, c, rfl, hverdict, hrule⟩
  · exact .inl hlost
  · obtain ⟨before', c', heq, hdecided⟩ := hcourse.ruled_of_result hcall hr hscan
    obtain rfl : c = c' := (Prod.mk.inj (Except.ok.inj heq)).2
    rcases hdecided with ⟨herror, hno⟩ | ⟨hclassified, hruled⟩
    · rw [herror, or_self] at hverdict
      exact .inl ⟨hverdict, hrule.trans hno⟩
    · rw [hnone] at hclassified hruled
      exact .inr ⟨_, hrule.trans hruled, hclassified ▸ hverdict⟩

/-- The result of an engine that a host ran has its streams in its output. -/
theorem Unevidenced.shows_iff {v : Verifier (Signalled σ)} {s : RunState (Signalled σ)} {host : ProcessHost σ}
    (hexecutor : v.executor = host.executor) {runId : String} {request : Request}
    (h : v.Unevidenced runId request s r) (marker : String) : Shows r.output marker ↔ r.Displays marker := by
  obtain ⟨workDir, call, evidence, hcreated, hcall, hr, -, -⟩ := h
  obtain ⟨ending, hcourse, -⟩ := exists_course runId request hcreated
  obtain ⟨w, m, hreply⟩ := hcourse.reply_of_fourth hcall
  have hresult : (host.call call.command w m.1).1 = .ok r := by
    rw [← hr, ← hreply]
    show (host.executor.call call.command w m.1).1 = (v.executor.call call.command w m.1).1
    rw [hexecutor]
  exact r.shows_output_iff (ProcessHost.output_of_call hresult) marker

/-- **Markers in the streams decide**, or at their joint. A marker stands in the output that a supervised process is
    settled with just if it stands in one of the two streams or the end of the output stream and the beginning of the
    error stream spell it. So in every run whose engine was answered with a result and left no evidence: `violated` is
    found by its rule alone; the rule that decides is this one just if a failure marker is in a stream or at the
    joint; and it is `completed` only if the completion marker is. -/
theorem verify_streams (host : ProcessHost σ) :
    (∀ c w m r, (host.call c w m).1 = .ok r → ∀ marker ∈ markers,
      (Shows r.output marker ↔ Shows r.stdout marker ∨ Shows r.stderr marker ∨ Straddles marker r.stdout r.stderr)) ∧
    (∀ (v : Verifier (Signalled σ)) runId request s r o s', v.executor = host.executor →
      v.Unevidenced runId request s r → v.verify runId request s = (.ok o, s') →
      (o.verdict = .violated → o.ruleId = some "violation") ∧
      (∀ rule, o.ruleId = some rule →
        (rule = "violation" ↔ r.Displays assertionFailureMarker ∨ r.Displays abortFailureMarker)) ∧
      (o.ruleId = some "completed" → r.Displays completionMarker)) := by
  constructor
  · intro c w m r hr marker _
    exact r.shows_output_iff (ProcessHost.output_of_call hr) marker
  · intro v runId request s r o s' hexecutor h hverify
    have hshows := h.shows_iff hexecutor
    obtain ⟨herror, hno⟩ | ⟨seconds, hrule, hverdict⟩ := h.decided hverify
    · rw [herror, hno]
      exact ⟨nofun, nofun, nofun⟩
    · rw [hrule]
      refine ⟨fun hviolated => ?_, fun rule hrule => ?_, fun hcompleted => ?_⟩
      · rcases hverdict with hverdict | hverdict
        · rw [hverdict] at hviolated
          rw [ruleId_of_violated hviolated]
        · rw [hverdict] at hviolated
          cases hviolated
      · rw [← Option.some.inj hrule, StageResult.ruleId_violation_iff, hshows, hshows]
      · rw [← hshows]
        exact StageResult.shows_of_ruleId_completed (Option.some.inj hcompleted)

/-! ### A marker at the joint -/

/-- Tools that leave their artifacts, and an engine that writes one half of a marker to each stream. -/
def halved : ProcessHost Nat where
  launch c w n :=
    (.started (some 7) (if n = 3 then [.stdout (Utf8.encode "ASSERTION"), .stderr (Utf8.encode " FAIL")] else [])
        (.close (some 0) none) [],
      { w with files := (w.files.writeBytes (c.args.getLast?.getD "") []).toOption.getD w.files }, n + 1)

/-- The result of that engine. -/
def halvedResult : StageResult := ⟨.success, some 0, none, "ASSERTION", " FAIL", "ASSERTION FAIL"⟩

/-- A run with these tools. -/
def halvedRun : Verifier (Signalled Nat) := (prepared preparedClock).withExecutor halved.executor

theorem halved_unevidenced : halvedRun.Unevidenced "run" .prepared (.preparedFor ⟨false, 0⟩) halvedResult := by
  have hcreated : (halvedRun.opened (.preparedFor ⟨false, 0⟩)).1 = .ok "/w/p4verdict-1" :=
    (preparedFor_housed preparedClock halved.executor ⟨false, 0⟩).created
  have hseen : (halvedRun.calls "run" .prepared (.preparedFor ⟨false, 0⟩))[3]?.map (fun call =>
      (call.reply.toOption, (Evidence.scan call.files (halvedRun.plan .prepared (.preparedFor ⟨false, 0⟩)
        "/w/p4verdict-1").artifacts.engineOutDir).toOption.map (·.texts))) = some (some halvedResult, some []) := by
    rw [calls_of_opened hcreated]
    decide +kernel
  obtain ⟨call, hcall, hpair⟩ := Option.map_eq_some_iff.mp hseen
  obtain ⟨hreply, htexts⟩ := Prod.mk.inj hpair
  obtain ⟨evidence, hscan, hnone⟩ := Option.map_eq_some_iff.mp htexts
  exact ⟨_, call, evidence, hcreated, hcall, eq_ok_of_toOption hreply, eq_ok_of_toOption hscan, hnone⟩

theorem halved_reported :
    ∃ o s', halvedRun.verify "run" .prepared (.preparedFor ⟨false, 0⟩) = (.ok o, s') ∧ o.verdict = .violated := by
  obtain ⟨workDir, call, evidence, hcreated, hcall, hr, hscan, -⟩ := halved_unevidenced
  have hhoused := preparedFor_housed preparedClock halved.executor ⟨false, 0⟩
  obtain rfl : workDir = "/w/p4verdict-1" := Except.ok.inj (hcreated.symm.trans hhoused.created)
  obtain ⟨finishedAt, ending, s', hcourse, -, -, hverify⟩ :=
    hhoused.verify_reported preparedClock_measures (fun _ => rfl) (tells_last hcreated hcall (Call.tells_of_ok hr))
  obtain ⟨r₀, r₁, r₂, before, ruleId, -, rfl⟩ :=
    (hcourse.of_counted hcall (Call.counted?_of_ok hr) (by decide)).2 evidence hscan
  have hfailure : Shows halvedResult.output "ASSERTION FAIL" := by decide
  exact ⟨_, s', hverify, if_pos (.inr (.inl hfailure))⟩

/-- The rule finds a violation, and the halves of the marker are what it finds. -/
theorem halved_displayed :
    halvedRun.executor = halved.executor ∧
    halvedRun.Unevidenced "run" .prepared (.preparedFor ⟨false, 0⟩) halvedResult ∧
    ∃ o s', halvedRun.verify "run" .prepared (.preparedFor ⟨false, 0⟩) = (.ok o, s') ∧ o.ruleId = some "violation" ∧
      (halvedResult.Displays assertionFailureMarker ∨ halvedResult.Displays abortFailureMarker) := by
  obtain ⟨o, s', hverify, hviolated⟩ := halved_reported
  obtain ⟨hrule, hmarker, -⟩ :=
    (verify_streams halved).2 halvedRun "run" .prepared _ halvedResult o s' rfl halved_unevidenced hverify
  exact ⟨rfl, halved_unevidenced, o, s', hverify, hrule hviolated, (hmarker "violation" (hrule hviolated)).mp rfl⟩

/-- Neither of the two streams has a marker, and yet the output has one and the verdict is `violated`. -/
theorem violated_at_joint :
    halvedRun.Unevidenced "run" .prepared (.preparedFor ⟨false, 0⟩) halvedResult ∧
    (∀ marker ∈ markers, ¬Shows halvedResult.stdout marker ∧ ¬Shows halvedResult.stderr marker) ∧
    Shows halvedResult.output assertionFailureMarker ∧
    ∃ o s', halvedRun.verify "run" .prepared (.preparedFor ⟨false, 0⟩) = (.ok o, s') ∧ o.verdict = .violated ∧
      o.ruleId = some "violation" := by
  obtain ⟨o, s', hverify, hviolated⟩ := halved_reported
  refine ⟨halved_unevidenced, by decide, by decide, o, s', hverify, hviolated, ?_⟩
  obtain ⟨herror, -⟩ | ⟨seconds, hrule, hverdict | herror⟩ := halved_unevidenced.decided hverify
  · rw [herror] at hviolated
    cases hviolated
  · rw [hrule, ruleId_of_violated (hverdict.symm.trans hviolated)]
  · rw [herror] at hviolated
    cases hviolated

end Verifier

end DataplaneVerdict
