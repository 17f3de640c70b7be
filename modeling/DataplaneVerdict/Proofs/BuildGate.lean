import DataplaneVerdict.Proofs.Course

/-!
# `Proofs.BuildGate` — which tools are started, and what a failed build says

The commands of a run are the first commands of its plan. Behind each build stage stands a gate: the next command is
issued just if the stage passed, that is, its call succeeded, its output could be kept and its artifacts are there. A
run that such a gate ends says nothing but the one text of the cause.
-/

namespace DataplaneVerdict

attribute [local irreducible] WorkDir.create WorkDir.remove Evidence.scan

namespace Verifier

variable {σ : Type} {v : Verifier σ} {s s' : RunState σ} {calls : List Call} {specs : List StageSpec}
  {log : List String}

/-- Each of the stages that passed did pass. -/
theorem Built.passes (h : Built v specs s calls log s') {k : Nat} {spec : StageSpec} {c : Call}
    (hspec : specs[k]? = some spec) (hcall : calls[k]? = some c) : spec.Passes c := by
  induction h generalizing k with
  | nil => cases hspec
  | @cons _ _ _ _ r kept _ _ hr haccepts hrest ih =>
    cases k with
    | zero =>
      obtain rfl := Option.some.inj hspec
      obtain rfl := Option.some.inj hcall
      exact ⟨r, kept, hr, haccepts⟩
    | succ k => exact ih hspec hcall

/-- The last of the stages that passed and one more call is the one more. -/
theorem Built.eq_last (h : Built v specs s calls log s') {spec₀ spec : StageSpec} {post : List StageSpec} {c₀ c : Call}
    {k : Nat} (hspec : (specs ++ spec₀ :: post)[k]? = some spec) (hcall : (calls ++ [c₀])[k]? = some c)
    (hlast : k + 1 = (calls ++ [c₀]).length) : spec = spec₀ ∧ c = c₀ := by
  have hlen := h.length_eq
  have heq : k = specs.length := by
    rw [List.length_append, List.length_singleton] at hlast
    omega
  subst heq
  rw [List.getElem?_append_right (Nat.le_refl _), Nat.sub_self] at hspec
  rw [← hlen, List.getElem?_append_right (Nat.le_refl _), Nat.sub_self] at hcall
  exact ⟨(Option.some.inj hspec).symm, (Option.some.inj hcall).symm⟩

/-- Among them, a stage that did not pass is that last one. -/
theorem Built.eq_last_of_not_passes (h : Built v specs s calls log s') {spec₀ spec : StageSpec}
    {post : List StageSpec} {c₀ c : Call} {k : Nat} (hspec : (specs ++ spec₀ :: post)[k]? = some spec)
    (hcall : (calls ++ [c₀])[k]? = some c) (hnot : ¬spec.Passes c) : k = specs.length ∧ spec = spec₀ ∧ c = c₀ := by
  have hlen := h.length_eq
  by_cases hk : k < specs.length
  · rw [List.getElem?_append_left hk] at hspec
    rw [List.getElem?_append_left (hlen ▸ hk)] at hcall
    exact absurd (h.passes hspec hcall) hnot
  · have hbound : k < (calls ++ [c₀]).length := (List.getElem?_eq_some_iff.mp hcall).1
    have hlast : k + 1 = (calls ++ [c₀]).length := by
      rw [List.length_append, List.length_singleton] at hbound ⊢
      omega
    rw [List.length_append, List.length_singleton] at hbound
    exact ⟨by omega, h.eq_last hspec hcall hlast⟩

variable {i : PlanInput} {ending : Ending} {k : Nat} {spec : StageSpec} {c : Call}

theorem stages_getElem? (hspec : (Plan.ofInput i).build[k]? = some spec) : (Plan.ofInput i).stages[k]? = some spec := by
  rw [Plan.stages, List.getElem?_append_left (List.getElem?_eq_some_iff.mp hspec).1, hspec]

/-- The call with which a course ends is not that of a build stage that passed. -/
theorem Course.last_not_passes (h : Course v i s calls s' ending) (hspec : (Plan.ofInput i).build[k]? = some spec)
    (hcall : calls[k]? = some c) (hlast : k + 1 = calls.length) : ¬spec.Passes c := by
  have hstages := stages_getElem? hspec
  cases h with
  | stopped hsplit hbuilt hstop =>
    rw [hsplit] at hspec
    obtain ⟨rfl, rfl⟩ := hbuilt.eq_last hspec hcall hlast
    exact hstop.not_passes
  | lost hsplit hbuilt hr hlost =>
    rw [hsplit] at hstages
    obtain ⟨rfl, rfl⟩ := hbuilt.eq_last hstages hcall hlast
    rintro ⟨r, kept, hr', -⟩
    exact absurd (hr'.symm.trans hr) (by simp)
  | interrupted hbuilt | unscanned hbuilt | classified hbuilt =>
    have hbound := (List.getElem?_eq_some_iff.mp hspec).1
    rw [List.length_append, List.length_singleton, hbuilt.length_eq] at hlast
    omega

/-- **A build stage that did not pass** ends the run: with the text of its cause, or with what came instead of the words
    if its call was rejected without any. -/
theorem Course.stop_of_not_passes (h : Course v i s calls s' ending)
    (hspec : (Plan.ofInput i).build[k]? = some spec) (hcall : calls[k]? = some c) (hnot : ¬spec.Passes c) :
    k + 1 = calls.length ∧
      ((∃ before text, spec.StopsWith c text ∧ ending = .ok (before, ⟨.error, 1, [text], [], none⟩)) ∨
        (∃ failure g, c.reply = .error failure ∧ failure.text = .error g ∧ ending = .error g)) := by
  have hstages := stages_getElem? hspec
  cases h with
  | @stopped pre post spec₀ before log s₁ text fs hsplit hbuilt hstop =>
    rw [hsplit] at hspec
    obtain ⟨rfl, rfl, rfl⟩ := hbuilt.eq_last_of_not_passes hspec hcall hnot
    refine ⟨?_, .inl ⟨_, text, hstop, rfl⟩⟩
    rw [List.length_append, List.length_singleton, hbuilt.length_eq]
  | @lost pre post spec₀ before log s₁ failure g hsplit hbuilt hr hlost =>
    rw [hsplit] at hstages
    obtain ⟨rfl, rfl, rfl⟩ := hbuilt.eq_last_of_not_passes hstages hcall hnot
    refine ⟨?_, .inr ⟨failure, g, hr, hlost, rfl⟩⟩
    rw [List.length_append, List.length_singleton, hbuilt.length_eq]
  | interrupted hbuilt | unscanned hbuilt | classified hbuilt =>
    -- every build stage passed, so the one that did not would be the engine
    obtain ⟨rfl, -, -⟩ := hbuilt.eq_last_of_not_passes hstages hcall hnot
    exact absurd (List.getElem?_eq_some_iff.mp hspec).1 (Nat.lt_irrefl _)

/-- **The gate behind a build stage**: the next command is issued just if the stage passed. -/
theorem Course.next_call_iff (h : Course v i s calls s' ending) (hspec : (Plan.ofInput i).build[k]? = some spec)
    (hcall : calls[k]? = some c) : k + 1 < calls.length ↔ spec.Passes c := by
  have hbound : k < calls.length := (List.getElem?_eq_some_iff.mp hcall).1
  constructor
  · intro hnext
    refine Classical.byContradiction fun hnot => ?_
    have hlast := (h.stop_of_not_passes hspec hcall hnot).1
    omega
  · intro hpasses
    have hlast : k + 1 ≠ calls.length := fun hlast => h.last_not_passes hspec hcall hlast hpasses
    omega

/-! ## The whole run -/

variable {runId : String} {request : Request} {workDir : String}

/-- **The build gate.** In every run with a work directory, a clock that measures and a writer that never fails:
    * the commands issued are those of the calls, and the first commands of the plan, at least one;
    * behind each build stage, the next command is issued just if the stage passed;
    * a build stage that did not pass ends the run. Unless its call was rejected in a way that cannot be told, the run
      has an outcome, with the verdict `error`, exit code 1 and no evidence; and unless the rejection has no words, the
      details are the one text of the cause. -/
theorem verify_build_gate (hhoused : v.Housed runId request s workDir) (hclock : v.clock.Measures)
    (hsink : s.sink.Open) :
    (v.verify runId request s).2.issued = s.issued ++ (v.calls runId request s).map (·.command) ∧
    v.calls runId request s ≠ [] ∧
    (v.calls runId request s).map (·.command) <+:
      (Plan.ofInput (v.plan request s workDir)).stages.map commandOf ∧
    ∀ k spec c, (Plan.ofInput (v.plan request s workDir)).build[k]? = some spec →
      (v.calls runId request s)[k]? = some c →
      (k + 1 < (v.calls runId request s).length ↔ spec.Passes c) ∧
      (¬spec.Passes c → c.Tells → ∃ o s', v.verify runId request s = (.ok o, s') ∧
        o.verdict = .error ∧ o.exitCode = 1 ∧ o.report.verdict = .error ∧ o.report.assertionErrors = none ∧
        ((∀ failure, c.reply = .error failure → failure.Worded) →
          ∀ text, spec.StopsWith c text ↔ text = o.report.details)) := by
  obtain ⟨ending, hcourse, -⟩ := exists_course runId request hhoused.created
  refine ⟨issued_verify hhoused.created, hcourse.calls_ne_nil, hcourse.commands_isPrefix, ?_⟩
  intro k spec c hspec hcall
  refine ⟨hcourse.next_call_iff hspec hcall, fun hnot htells => ?_⟩
  have hlast := (hcourse.stop_of_not_passes hspec hcall hnot).1
  obtain ⟨finishedAt, ending, s', hcourse, -, -, hverify⟩ := hhoused.verify_reported hclock hsink (by
    intro call hcall'
    rw [List.getLast?_eq_getElem?, ← hlast, Nat.add_sub_cancel, hcall] at hcall'
    exact Option.some.inj hcall' ▸ htells)
  refine ⟨_, s', hverify, ?_⟩
  obtain ⟨-, ⟨before, text, hstop, rfl⟩ | ⟨failure, g, hr, hlost, rfl⟩⟩ :=
    hcourse.stop_of_not_passes hspec hcall hnot
  · refine ⟨rfl, rfl, rfl, rfl, fun _ text' => ⟨fun hstop' => hstop'.unique hstop, ?_⟩⟩
    rintro rfl
    exact hstop
  · refine ⟨rfl, rfl, rfl, rfl, fun hworded => ?_⟩
    exact absurd (hworded failure hr) (Failure.not_worded_of_text hlost)

/-- The front end leaves its artifact, then the translator runs out of time. -/
def slowTranslation : List PlaybackStep :=
  [{ artifact := some "", reply := .ok ⟨.success, some 0, none, "", "", ""⟩ },
   { reply := .ok ⟨.timedOut, none, none, "", "", ""⟩ }]

/-- The gate behind the translator stays closed in that run. -/
theorem slowTranslation_stopped :
    ∃ o s' c, (prepared preparedClock).verify "run" .prepared (.prepared slowTranslation) = (.ok o, s') ∧
      ((prepared preparedClock).calls "run" .prepared (.prepared slowTranslation))[1]? = some c ∧
      o.verdict = .error ∧ o.exitCode = 1 ∧
      (Plan.translateSpec ((prepared preparedClock).plan .prepared (.prepared slowTranslation)
        "/w/p4verdict-1")).StopsWith c o.report.details := by
  have hsecond : ((prepared preparedClock).calls "run" .prepared (.prepared slowTranslation)).map (·.reply.isOk) =
      [true, true] := by decide +kernel
  obtain ⟨-, -, -, hgate⟩ :=
    verify_build_gate (prepared_housed preparedClock slowTranslation) preparedClock_measures fun _ => rfl
  generalize (prepared preparedClock).calls "run" .prepared (.prepared slowTranslation) = calls at hsecond hgate ⊢
  obtain ⟨c₀, rest, rfl, -, hrest⟩ := List.map_eq_cons_iff.mp hsecond
  obtain ⟨c, rest, rfl, hok, hnil⟩ := List.map_eq_cons_iff.mp hrest
  obtain rfl := List.map_eq_nil_iff.mp hnil
  have hworded : ∀ failure, c.reply = .error failure → failure.Worded := by
    intro failure hr
    rw [hr] at hok
    cases hok
  obtain ⟨hnext, hstop⟩ := hgate 1 _ c rfl rfl
  obtain ⟨o, s', hverify, hverdict, hcode, -, -, htext⟩ :=
    hstop (fun hpasses => Nat.lt_irrefl 2 (hnext.mpr hpasses)) fun failure hr => (hworded failure hr).tellable
  exact ⟨o, s', c, hverify, rfl, hverdict, hcode, (htext hworded _).mpr rfl⟩

/-- The result of a front end that does not accept the source. -/
def unaccepted : StageResult := ⟨.failed, some 1, none, "syntax error", "", "syntax error"⟩

/-- Whole readings alone are not enough, and neither is any rejection: where the readings lie too far apart, the details
    are not the text of the stage that stopped the run; and a call that was rejected with a value without a text has no
    such text, so the details are another one. If what comes instead of the text has none either, there is no outcome.
    -/
theorem details_not_of_stage :
    (∀ i, (Clock.extremes i).isInteger = true) ∧
    (prepared .extremes).Housed "run" .prepared (.prepared [{ reply := .ok unaccepted }]) "/w/p4verdict-1" ∧
    (∃ o s' c text, (prepared .extremes).verify "run" .prepared (.prepared [{ reply := .ok unaccepted }]) =
        (.ok o, s') ∧
      ((prepared .extremes).calls "run" .prepared (.prepared [{ reply := .ok unaccepted }]))[0]? = some c ∧
      (Plan.frontendSpec ((prepared .extremes).plan .prepared (.prepared [{ reply := .ok unaccepted }])
        "/w/p4verdict-1")).StopsWith c text ∧ o.report.details ≠ text) ∧
    (prepared preparedClock).Housed "run" .prepared (.prepared [{ reply := .error (.value .textless) }])
      "/w/p4verdict-1" ∧
    (∃ o s', (prepared preparedClock).verify "run" .prepared (.prepared [{ reply := .error (.value .textless) }]) =
        (.ok o, s') ∧
      o.report.details = "Pipeline error: Cannot convert object to primitive value") ∧
    ((prepared preparedClock).verify "run" .prepared
      (.prepared [{ reply := .error (.wordless (.value .textless)) }])).1.isOk = false := by
  refine ⟨Clock.isInteger_extremes, prepared_housed _ _, ?_, prepared_housed _ _, exists_outcome (by decide +kernel),
    by decide +kernel⟩
  have hreply : ((prepared .extremes).calls "run" .prepared (.prepared [{ reply := .ok unaccepted }]))[0]?.map
      (·.reply.toOption) = some (some unaccepted) := by decide +kernel
  have hdetails : ((prepared .extremes).verify "run" .prepared (.prepared [{ reply := .ok unaccepted }])).1.toOption.map
      (fun o => decide (o.report.details =
        Stage.frontend.label ++ " failed:\n" ++ Stage.frontend.diagnostic unaccepted)) = some false := by decide +kernel
  obtain ⟨o, s', hverify, hne⟩ := exists_outcome hdetails
  obtain ⟨c, hcall, hr⟩ := exists_reply hreply
  exact ⟨o, s', c, _, hverify, hcall, .failed hr rfl, of_decide_eq_false hne⟩

end Verifier

end DataplaneVerdict
