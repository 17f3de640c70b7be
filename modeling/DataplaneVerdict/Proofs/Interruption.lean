import DataplaneVerdict.Proofs.History
import DataplaneVerdict.Proofs.Settlement

/-!
# `Proofs.Interruption` — runs whose abort signal is raised

The signal can be raised before a run, while one of its processes runs, and after any of them. It is looked at in two
places: before a process is started, and while one is watched. `Verifier.launches` is the record of the attempts to
start a process, and `Heard` says how the signal and that record belong together: whoever raised it was the last to be
started. One call carries this on (`Heard.call`), and so does a run.

## Contents
- **Budgets.** Accepted timeouts are budgets that a timer can hold.
- **Launches.** `ProcessHost.recording`, `Verifier.launches`.
- **One call.** `call_of_raised`, `call_of_calm`, `Heard.call`.
- **Courses.** `CutShort`: the signal was raised in time; such a course is not classified.
- **After the engine's close.** `SameUntilEnd`: what happens after the end of the engine makes no difference.
- **The whole run.** `Verifier.verify_interrupted`.
-/

namespace DataplaneVerdict

attribute [local irreducible] WorkDir.create WorkDir.remove Evidence.scan

/-! ## Budgets -/

/-- Timeouts as the schemas accept them. -/
structure StageTimeouts.Accepted (t : StageTimeouts) : Prop where
  frontend : ∃ value, Settings.seconds Settings.mostBuildSeconds value = .ok t.frontendSeconds
  translate : ∃ value, Settings.seconds Settings.mostBuildSeconds value = .ok t.translateSeconds
  native : ∃ value, Settings.seconds Settings.mostBuildSeconds value = .ok t.nativeSeconds
  engine : ∃ value, Settings.engineTimeout value = .ok t.engineSeconds

theorem Number.ofNat_eq {n : Nat} (h : n ≤ Nat.pow 2 53) : Number.ofNat n = .finite (n : Rat) := by
  have hcast : ((n : Int) : Rat) = (n : Rat) := rfl
  rw [Number.ofNat, ← hcast]
  exact Number.round_intCast (by simpa using h)

/-- **What the schema accepts** is a whole number of seconds between its bounds. -/
theorem Settings.seconds_eq_ok {most : Nat} (hmost : most ≤ Nat.pow 2 53) {value : Value} {t : Number}
    (h : seconds most value = .ok t) : ∃ n : Nat, t = .finite (n : Rat) ∧ 1 ≤ n ∧ n ≤ most := by
  obtain ⟨-, hwhole, hleast, hbound⟩ := Check.wholeNumber_eq_ok h
  have hgreatest := hbound most rfl
  rw [Number.ofNat_eq (by decide)] at hleast
  rw [Number.ofNat_eq hmost] at hgreatest
  cases t with
  | nan => cases hwhole
  | infinity s => cases hwhole
  | negativeZero => exact absurd hleast (by decide)
  | finite r =>
    simp only [Number.lt, decide_eq_false_iff_not, Rat.not_lt] at hleast hgreatest
    obtain ⟨m, rfl⟩ : ∃ m : Int, r = (m : Rat) := ⟨r.num, Rat.ext rfl (of_decide_eq_true hwhole)⟩
    rw [← Rat.intCast_natCast, Rat.intCast_le_intCast] at hleast hgreatest
    have hnat : (m.toNat : Int) = m := Int.toNat_of_nonneg (by omega)
    refine ⟨m.toNat, ?_, by omega, by omega⟩
    rw [← Rat.intCast_natCast, hnat]

namespace ProcessHost

theorem isBudget_natCast {n : Nat} (hleast : 1 ≤ n) (hmost : n ≤ mostSeconds) :
    isBudget (.finite (n : Rat)) = true := by
  have hbound : mostSeconds ≤ Nat.pow 2 53 := by decide
  unfold isBudget
  rw [show (0 : Number) = Number.ofNat 0 from rfl, Number.ofNat_eq (by decide), Number.ofNat_eq hbound]
  have hpositive : ((0 : Nat) : Rat) < (n : Rat) := Rat.natCast_lt_natCast.mpr hleast
  have hle : (n : Rat) ≤ (mostSeconds : Rat) := Rat.natCast_le_natCast.mpr hmost
  simp only [Number.lt, Number.le, Number.eq, Bool.and_eq_true, Bool.or_eq_true, decide_eq_true_iff]
  exact ⟨hpositive, Rat.le_iff_lt_or_eq.mp hle⟩

/-- **Accepted timeouts are budgets.** -/
theorem isBudget_of_seconds {most : Nat} (hmost : most ≤ mostSeconds) {value : Value} {t : Number}
    (h : Settings.seconds most value = .ok t) : isBudget t = true := by
  obtain ⟨n, rfl, hleast, hgreatest⟩ := Settings.seconds_eq_ok (Nat.le_trans hmost (by decide)) h
  exact isBudget_natCast hleast (Nat.le_trans hgreatest hmost)

end ProcessHost

namespace Plan

/-- The budgets of a plan with accepted timeouts. -/
theorem isBudget_of_mem {i : PlanInput} (h : i.timeouts.Accepted) {spec : StageSpec}
    (hspec : spec ∈ (ofInput i).stages) : ProcessHost.isBudget spec.timeoutSeconds = true := by
  obtain ⟨⟨_, hfrontend⟩, ⟨_, htranslate⟩, ⟨_, hnative⟩, ⟨_, hengine⟩⟩ := h
  simp only [stages, ofInput, List.cons_append, List.nil_append, List.mem_cons, List.not_mem_nil, or_false] at hspec
  rcases hspec with rfl | rfl | rfl | rfl
  · exact ProcessHost.isBudget_of_seconds (by decide) hfrontend
  · exact ProcessHost.isBudget_of_seconds (by decide) htranslate
  · exact ProcessHost.isBudget_of_seconds (by decide) hnative
  · exact ProcessHost.isBudget_of_seconds (by decide) hengine

theorem isBudget_of_split {i : PlanInput} (h : i.timeouts.Accepted) {pre post : List StageSpec} {spec : StageSpec}
    (hstages : (ofInput i).stages = pre ++ spec :: post) :
    (∀ earlier ∈ pre, ProcessHost.isBudget earlier.timeoutSeconds = true) ∧
      ProcessHost.isBudget spec.timeoutSeconds = true := by
  refine ⟨fun earlier hmem => isBudget_of_mem h ?_, isBudget_of_mem h ?_⟩
  · rw [hstages]
    exact List.mem_append_left _ hmem
  · rw [hstages]
    exact List.mem_append_right _ List.mem_cons_self

end Plan

/-! ## One call -/

variable {σ τ : Type}

namespace ProcessHost

variable {host : ProcessHost σ} {c : Command} {w : World} {m : Signalled σ}

/-- The attempt to start a process that a call makes unless it is kept from it. -/
def attempt (host : ProcessHost σ) (c : Command) (w : World) (m : Signalled σ) : Launch × World × σ :=
  host.launch c (readClock w) m.host

theorem call_of_excess (h : isBudget c.timeoutSeconds = false) :
    host.call c w m = (.error (.budget c.command c.timeoutSeconds mostSeconds), readClock w, m) := by
  simp [call, h]

/-- After the signal no process is started. -/
theorem call_of_raised (hbudget : isBudget c.timeoutSeconds = true) (hraised : m.raised = true) :
    host.call c w m = (.ok abortedResult, readClock w, m) := by
  simp [call, hbudget, hraised]

/-- Before the signal a process is started, and what happens to it settles the reply and may raise the signal. -/
theorem call_of_calm (hbudget : isBudget c.timeoutSeconds = true) (hcalm : m.raised = false) :
    host.call c w m =
      ((settle c.command (host.attempt c w m).1 (host.attempt c w m).2.1).1,
        (settle c.command (host.attempt c w m).1 (host.attempt c w m).2.1).2,
        ⟨(host.attempt c w m).1.raisesAbort, (host.attempt c w m).2.2⟩) := by
  simp [call, attempt, hbudget, hcalm]

/-- A host as operating systems are: the reason of a refusal has words, and nothing follows the end of a process but
    what happens after it. -/
structure Orderly (host : ProcessHost σ) : Prop where
  refused : ∀ c w memory f, (host.launch c w memory).1 = .refused f → f.Worded
  started : ∀ c w memory pid before finish later, (host.launch c w memory).1 = .started pid before finish later →
    Running before

theorem settle_close {before : List ProcessEvent} (h : Running before) (command : String) (pid : Option Nat)
    (code : Option Number) (signal : Option String) (later : List ProcessEvent) (w : World) :
    ∃ r, (settle command (.started pid before (.close code signal) later) w).1 = .ok r ∧
      Supervision.Closed before code signal r := by
  obtain ⟨r, hr, hclosed⟩ := Supervision.settled_close command pid h code signal later
  have hreply := Supervision.settled_finish command pid before later (.close code signal)
  exact ⟨r, (settle_fst ..).trans (Option.some.inj (hr.symm.trans hreply)).symm, hclosed⟩

theorem settle_error {before : List ProcessEvent} (h : Running before) (command : String) (pid : Option Nat)
    (reason : String) (code : Option String) (later : List ProcessEvent) (w : World) :
    (settle command (.started pid before (.error reason code) later) w).1 =
      .error (.spawn command reason code) := by
  have hreply := Supervision.settled_finish command pid before later (.error reason code)
  have hsettled := Supervision.settled_error command pid h reason code later
  exact (settle_fst ..).trans (Option.some.inj (hsettled.symm.trans hreply)).symm

end ProcessHost

namespace Launch

/-- Whether no process was started. -/
def isRefused : Launch → Bool
  | refused _ => true
  | started _ _ _ _ => false

/-- Whether the signal was raised while the process ran, up to its close. -/
def isInterrupted : Launch → Bool
  | started _ before (.close _ _) _ => before.any isAbort
  | _ => false

theorem any_isAbort {events : List ProcessEvent} (h : events.any isAbort = true) : ProcessEvent.abort ∈ events := by
  obtain ⟨e, he, habort⟩ := List.any_eq_true.mp h
  cases e with
  | abort => exact he
  | stdout chunk | stderr chunk | timer | error reason code | close code signal => cases habort

end Launch

namespace ProcessHost

variable {host : ProcessHost σ} {c : Command} {w : World} {m : Signalled σ}

/-- The reply to a process that was interrupted says so. -/
theorem Orderly.settle_interrupted (h : host.Orderly) (hinterrupted : (host.attempt c w m).1.isInterrupted = true)
    (command : String) (w' : World) :
    ∃ r, (settle command (host.attempt c w m).1 w').1 = .ok r ∧ r.status = .aborted := by
  cases hlaunch : (host.attempt c w m).1 with
  | refused f =>
    rw [hlaunch] at hinterrupted
    cases hinterrupted
  | started pid before finish later =>
    rw [hlaunch] at hinterrupted
    cases finish with
    | error reason code => cases hinterrupted
    | close code signal =>
      obtain ⟨r, hr, hclosed⟩ := settle_close (h.started _ _ _ _ _ _ _ hlaunch) command pid code signal later w'
      exact ⟨r, hr, hclosed.aborted.mpr (Launch.any_isAbort hinterrupted)⟩

/-- **No interruption passes unnoticed**: if the reply is none, the signal had not been raised before the call, nor was
    it while the process ran. -/
theorem Orderly.calm_of_reply (h : host.Orderly) (hbudget : isBudget c.timeoutSeconds = true)
    (hreply : ∀ r, (host.call c w m).1 = .ok r → r.status ≠ .aborted) :
    m.raised = false ∧ (host.attempt c w m).1.isInterrupted = false := by
  cases hraised : m.raised with
  | true =>
    rw [call_of_raised hbudget hraised] at hreply
    exact absurd rfl (hreply abortedResult rfl)
  | false =>
    rw [call_of_calm hbudget hraised] at hreply
    refine ⟨rfl, Bool.eq_false_iff.mpr fun hinterrupted => ?_⟩
    obtain ⟨r, hr, haborted⟩ := h.settle_interrupted hinterrupted c.command (host.attempt c w m).2.1
    exact hreply r hr haborted

/-- A refusal is no result. -/
theorem isRefused_of_reply (hbudget : isBudget c.timeoutSeconds = true) (hcalm : m.raised = false) {r : StageResult}
    (hr : (host.call c w m).1 = .ok r) : (host.attempt c w m).1.isRefused = false := by
  rw [call_of_calm hbudget hcalm] at hr
  cases hlaunch : (host.attempt c w m).1 with
  | refused f =>
    rw [hlaunch] at hr
    cases hr
  | started pid before finish later => rfl

/-- All rejections of an orderly host have words. -/
theorem Orderly.worded (h : host.Orderly) (hbudget : isBudget c.timeoutSeconds = true) {f : Failure}
    (hr : (host.call c w m).1 = .error f) : f.Worded := by
  cases hraised : m.raised with
  | true =>
    rw [call_of_raised hbudget hraised] at hr
    cases hr
  | false =>
    rw [call_of_calm hbudget hraised] at hr
    cases hlaunch : (host.attempt c w m).1 with
    | refused g =>
      rw [hlaunch] at hr
      obtain rfl : g = f := Except.error.inj hr
      exact h.refused _ _ _ _ hlaunch
    | started pid before finish later =>
      have hrunning := h.started _ _ _ _ _ _ _ hlaunch
      rw [hlaunch] at hr
      cases finish with
      | error reason code =>
        rw [settle_error hrunning] at hr
        exact Except.error.inj hr ▸ ⟨_, rfl⟩
      | close code signal =>
        obtain ⟨r, hok, -⟩ := settle_close hrunning c.command pid code signal later (host.attempt c w m).2.1
        rw [hok] at hr
        cases hr

end ProcessHost

/-! ## Launches -/

/-- The same signal with another view of the host's memory. -/
def Signalled.map (f : σ → τ) (m : Signalled σ) : Signalled τ := ⟨m.raised, f m.host⟩

/-- The host with a record of the attempts to start a process. -/
def ProcessHost.recording (host : ProcessHost σ) : ProcessHost (σ × List Launch) where
  launch c w m :=
    let answer := host.launch c w m.1
    (answer.1, answer.2.1, answer.2.2, m.2 ++ [answer.1])

theorem ProcessHost.Orderly.recording {host : ProcessHost σ} (h : host.Orderly) : host.recording.Orderly :=
  ⟨fun c w m => h.refused c w m.1, fun c w m => h.started c w m.1⟩

/-- The state with an empty record. -/
def RunState.launching (s : RunState (Signalled σ)) : RunState (Signalled (σ × List Launch)) :=
  s.mapMemory (Signalled.map fun memory => (memory, []))

namespace Verifier

/-- The same run on a recording host. -/
def launching (v : Verifier (Signalled σ)) (host : ProcessHost σ) : Verifier (Signalled (σ × List Launch)) :=
  v.withExecutor host.recording.executor

/-- The attempts of a run to start a process, in order. -/
def launches (v : Verifier (Signalled σ)) (host : ProcessHost σ) (runId : String) (request : Request)
    (s : RunState (Signalled σ)) : List Launch :=
  ((v.launching host).verify runId request s.launching).2.memory.host.2

/-- Forgetting the record gives the host's own answers. -/
theorem answers_launching (v : Verifier (Signalled σ)) (host : ProcessHost σ) :
    Answers (v.launching host) host.executor (Signalled.map Prod.fst) := by
  intro c w m
  show host.call c w (m.map Prod.fst) =
    ((host.recording.call c w m).1, (host.recording.call c w m).2.1, (host.recording.call c w m).2.2.map Prod.fst)
  cases hbudget : ProcessHost.isBudget c.timeoutSeconds with
  | false => rw [ProcessHost.call_of_excess hbudget, ProcessHost.call_of_excess hbudget]
  | true =>
    have hsame : (m.map Prod.fst).raised = m.raised := rfl
    cases hraised : m.raised with
    | true => rw [ProcessHost.call_of_raised hbudget hraised, ProcessHost.call_of_raised hbudget (hsame.trans hraised)]
    | false =>
      rw [ProcessHost.call_of_calm hbudget hraised, ProcessHost.call_of_calm hbudget (hsame.trans hraised)]
      rfl

end Verifier

/-! ## The signal and the record -/

/-- **How the signal and the record belong together**: the signal was raised from the start, and then nothing was
    started, or it was raised by the last that was. -/
structure Heard (atStart : Bool) (m : Signalled (σ × List Launch)) : Prop where
  raised : m.raised = (atStart || m.host.2.any Launch.raisesAbort)
  silent : atStart = true → m.host.2 = []
  last : ∀ k l, m.host.2[k]? = some l → l.raisesAbort = true → m.host.2.length = k + 1

/-- One call carries it on. -/
theorem Heard.call {host : ProcessHost σ} {v : Verifier (Signalled σ)} {atStart : Bool}
    {m : Signalled (σ × List Launch)} (h : Heard atStart m) {spec : StageSpec}
    (hbudget : ProcessHost.isBudget spec.timeoutSeconds = true) (w : World) :
    Heard atStart ((v.launching host).executor.call (Verifier.commandOf spec) w m).2.2 := by
  generalize hc : Verifier.commandOf spec = c
  replace hbudget : ProcessHost.isBudget c.timeoutSeconds = true := hc ▸ hbudget
  show Heard atStart (host.recording.call c w m).2.2
  cases hraised : m.raised with
  | true =>
    rw [ProcessHost.call_of_raised hbudget hraised]
    exact h
  | false =>
    rw [ProcessHost.call_of_calm hbudget hraised]
    have hcalm := h.raised
    rw [hraised, eq_comm, Bool.or_eq_false_iff, List.any_eq_false] at hcalm
    obtain ⟨hstart, hnone⟩ := hcalm
    have hrecord : (host.recording.attempt c w m).2.2.2 = m.host.2 ++ [(host.recording.attempt c w m).1] := rfl
    refine ⟨?_, fun hyes => ?_, ?_⟩
    · have hany : m.host.2.any Launch.raisesAbort = false := List.any_eq_false.mpr hnone
      simp [hrecord, hstart, hany]
    · rw [hstart] at hyes
      cases hyes
    · intro k l hl hraises
      rw [hrecord] at hl ⊢
      by_cases hk : k < m.host.2.length
      · -- what was started before had not raised it, or this call would not have started anything
        rw [List.getElem?_append_left hk] at hl
        exact absurd hraises (hnone l (List.mem_of_getElem? hl))
      · have hbound := (List.getElem?_eq_some_iff.mp hl).1
        rw [List.length_append, List.length_singleton] at hbound ⊢
        omega

/-! ## Courses -/

/-- **The signal comes in time**, or too late to be needed: it is raised before the first process is started, or in the
    course of a build stage, or while the engine's process runs; or a build stage cannot be started at all, which ends
    the run just as well. -/
def CutShort (atStart : Bool) (launches : List Launch) : Prop :=
  atStart = true ∨
    (∃ k l, k < 3 ∧ launches[k]? = some l ∧ (l.raisesAbort = true ∨ l.isRefused = true)) ∨
    ∃ l, launches[3]? = some l ∧ l.isInterrupted = true

namespace Verifier

section Courses

variable {host : ProcessHost σ} {v : Verifier (Signalled σ)} {s s' : RunState (Signalled (σ × List Launch))}
  {calls : List Call} {specs : List StageSpec} {log : List String} {i : PlanInput} {atStart : Bool}
  {ending : Ending}

/-- Every stage that passed has started its process. -/
theorem Built.launched (hhost : host.Orderly) (h : Built (v.launching host) specs s calls log s')
    (hbudget : ∀ spec ∈ specs, ProcessHost.isBudget spec.timeoutSeconds = true) :
    ∃ ls, s'.memory.host.2 = s.memory.host.2 ++ ls ∧ ls.length = specs.length ∧ ∀ l ∈ ls, l.isRefused = false := by
  induction h with
  | nil => exact ⟨[], by simp, rfl, fun _ hl => absurd hl List.not_mem_nil⟩
  | @cons spec _ s _ r kept _ _ hr haccepts hrest ih =>
    obtain ⟨hfirst, hbudget⟩ := List.forall_mem_cons.mp hbudget
    obtain ⟨ls, hrecord, hlength, hstarted⟩ := ih hbudget
    have hreply : (host.recording.call (commandOf spec) s.world s.memory).1 = .ok r := hr
    obtain ⟨hcalm, -⟩ := hhost.recording.calm_of_reply hfirst (c := commandOf spec) (w := s.world) (m := s.memory) (by
      intro r' hr' haborted
      have hsuccess := haccepts.success
      rw [Except.ok.inj (hreply.symm.trans hr'), haborted] at hsuccess
      cases hsuccess)
    have hlaunched := ProcessHost.isRefused_of_reply (c := commandOf spec) hfirst hcalm hreply
    have hmemory : ((v.launching host).answered spec s).memory =
        (host.recording.call (commandOf spec) s.world s.memory).2.2 := rfl
    rw [ProcessHost.call_of_calm (c := commandOf spec) hfirst hcalm] at hmemory
    refine ⟨(host.recording.attempt (commandOf spec) s.world s.memory).1 :: ls, ?_, ?_, ?_⟩
    · rw [hrecord]
      show ((v.launching host).answered spec s).memory.host.2 ++ ls = _
      rw [hmemory]
      show (s.memory.host.2 ++ [_]) ++ ls = _
      rw [List.append_assoc]
      rfl
    · rw [List.length_cons, hlength, List.length_cons]
    · exact List.forall_mem_cons.mpr ⟨hlaunched, hstarted⟩

/-- A course starts the processes of the stages that passed, and after them at most one. -/
theorem Course.launched (hhost : host.Orderly) (htimeouts : i.timeouts.Accepted)
    (h : Course (v.launching host) i s calls s' ending) (hempty : s.memory.host.2 = []) :
    ∃ ls last, s'.memory.host.2 = ls ++ last ∧ (∀ l ∈ ls, l.isRefused = false) ∧ last.length ≤ 1 := by
  obtain ⟨pre, spec, post, before, log, s₁, fs, hstages, hbuilt, rfl, rfl⟩ := h.last_call
  obtain ⟨hpre, hlast⟩ := Plan.isBudget_of_split htimeouts hstages
  obtain ⟨ls, hrecord, -, hstarted⟩ := hbuilt.launched hhost hpre
  rw [hempty, List.nil_append] at hrecord
  show ∃ ls last, (host.recording.call (commandOf spec) s₁.world s₁.memory).2.2.host.2 = ls ++ last ∧ _
  cases hraised : s₁.memory.raised with
  | true =>
    rw [ProcessHost.call_of_raised (c := commandOf spec) hlast hraised]
    exact ⟨ls, [], by rw [hrecord, List.append_nil], hstarted, Nat.zero_le _⟩
  | false =>
    rw [ProcessHost.call_of_calm (c := commandOf spec) hlast hraised]
    exact ⟨ls, [(host.recording.attempt (commandOf spec) s₁.world s₁.memory).1], by rw [← hrecord]; rfl, hstarted,
      Nat.le_refl _⟩

/-- **A signal in time is noticed**: a course whose engine was called and not interrupted was not cut short. -/
theorem Course.not_cutShort (hhost : host.Orderly) (htimeouts : i.timeouts.Accepted)
    (h : Course (v.launching host) i s calls s' ending) (hheard : Heard atStart s.memory)
    (hempty : s.memory.host.2 = []) {call : Call} (hcall : calls[3]? = some call) (hanswered : call.isAborted = false) :
    ¬CutShort atStart s'.memory.host.2 := by
  obtain ⟨pre, spec, post, made, log, s₁, fs, hstages, hbuilt, rfl, rfl⟩ := h.last_call
  obtain ⟨hpre, hlast⟩ := Plan.isBudget_of_split htimeouts hstages
  have hmade : made.length ≤ 3 := by
    have hfour : (Plan.ofInput i).stages.length = 4 := rfl
    rw [hstages, List.length_append, List.length_cons] at hfour
    rw [hbuilt.length_eq]
    omega
  obtain ⟨hthree, rfl⟩ := eq_last_of_fourth hmade hcall
  -- three processes were started for the build, and the engine's call found the signal not raised
  obtain ⟨ls, hrecord, hlength, hstarted⟩ := hbuilt.launched hhost hpre
  rw [hempty, List.nil_append] at hrecord
  rw [← hbuilt.length_eq, hthree] at hlength
  obtain ⟨hcalm, hrunning⟩ := hhost.recording.calm_of_reply (c := commandOf spec) (w := s₁.world) (m := s₁.memory)
    hlast (by
      intro r hr haborted
      have hreply : ((v.launching host).callOf spec s₁).reply = .ok r := hr
      rw [Call.isAborted, hreply] at hanswered
      exact absurd haborted (of_decide_eq_false hanswered))
  have hheard₁ := hbuilt.memory (P := Heard atStart) (fun earlier hmem w m hm => hm.call (hpre earlier hmem) w) hheard
  have hquiet := hheard₁.raised
  rw [hcalm, hrecord, eq_comm, Bool.or_eq_false_iff, List.any_eq_false] at hquiet
  obtain ⟨hstart, hnone⟩ := hquiet
  have hall : (HasFiles.setFiles ((v.launching host).answered spec s₁) fs).memory.host.2 =
      ls ++ [(host.recording.attempt (commandOf spec) s₁.world s₁.memory).1] := by
    show (host.recording.call (commandOf spec) s₁.world s₁.memory).2.2.host.2 = _
    rw [ProcessHost.call_of_calm (c := commandOf spec) hlast hcalm, ← hrecord]
    rfl
  rw [hall]
  rintro (hyes | ⟨k, l, hk, hl, hcut⟩ | ⟨l, hl, hinterrupted⟩)
  · rw [hstart] at hyes
    cases hyes
  · rw [List.getElem?_append_left (hlength ▸ hk)] at hl
    have hmem := List.mem_of_getElem? hl
    rcases hcut with hraises | hrefused
    · exact hnone l hmem hraises
    · rw [hstarted l hmem] at hrefused
      cases hrefused
  · rw [List.getElem?_append_right (Nat.le_of_eq hlength), hlength] at hl
    rw [← Option.some.inj hl, hrunning] at hinterrupted
    cases hinterrupted

/-- The rejections of an orderly host have words. -/
theorem Course.worded_last (hhost : host.Orderly) (htimeouts : i.timeouts.Accepted)
    (h : Course (v.launching host) i s calls s' ending) {call : Call} (hcall : calls.getLast? = some call)
    {failure : Failure} (hr : call.reply = .error failure) : failure.Worded := by
  obtain ⟨pre, spec, post, made, log, s₁, fs, hstages, hbuilt, rfl, rfl⟩ := h.last_call
  rw [List.getLast?_concat] at hcall
  obtain rfl := Option.some.inj hcall
  exact hhost.recording.worded (c := commandOf spec) (Plan.isBudget_of_split htimeouts hstages).2 hr

/-- Whatever raises the signal, and whatever cannot be started, is the last that was to be started. -/
theorem Course.last_launch (hhost : host.Orderly) (htimeouts : i.timeouts.Accepted)
    (h : Course (v.launching host) i s calls s' ending) (hheard : Heard atStart s.memory)
    (hempty : s.memory.host.2 = []) {k : Nat} {l : Launch} (hl : s'.memory.host.2[k]? = some l)
    (hends : l.raisesAbort = true ∨ l.isRefused = true) : s'.memory.host.2.length = k + 1 := by
  rcases hends with hraises | hrefused
  · have hheard' := h.memory (P := Heard atStart)
      (fun spec hspec w m hm => hm.call (Plan.isBudget_of_mem htimeouts hspec) w) hheard
    exact hheard'.last k l hl hraises
  · obtain ⟨ls, last, hrecord, hstarted, hone⟩ := h.launched hhost htimeouts hempty
    have hbound := (List.getElem?_eq_some_iff.mp hl).1
    rw [hrecord] at hl hbound ⊢
    rw [List.length_append] at hbound ⊢
    by_cases hk : k < ls.length
    · rw [List.getElem?_append_left hk] at hl
      rw [hstarted l (List.mem_of_getElem? hl)] at hrefused
      cases hrefused
    · omega

end Courses

end Verifier

/-! ## After the engine's close -/

/-- Two attempts with the same end, whatever happens after it. -/
def Launch.SameUntilEnd : Launch → Launch → Prop
  | refused f, refused g => f = g
  | started pid before finish _, started pid' before' finish' _ => pid = pid' ∧ before = before' ∧ finish = finish'
  | _, _ => False

/-- Two hosts that differ at most in what happens after the end of one command's process. -/
structure ProcessHost.SameUntilEnd (c : Command) (host host' : ProcessHost σ) : Prop where
  others : ∀ d w memory, d ≠ c → host'.launch d w memory = host.launch d w memory
  launch : ∀ w memory, Launch.SameUntilEnd (host.launch c w memory).1 (host'.launch c w memory).1
  effects : ∀ w memory, (host'.launch c w memory).2 = (host.launch c w memory).2

/-- What happens after the end is not in the reply. -/
theorem Launch.reply_later (command : String) (pid : Option Nat) (before later : List ProcessEvent) (finish : Finish) :
    (started pid before finish later).reply command = (started pid before finish []).reply command := by
  have hlater : (Supervision.ofEvents command pid ((before ++ [finish.event]) ++ later)).settled = _ :=
    (Supervision.ofEvents_of_ended (Supervision.not_running_finish before [] finish) later).1
  rw [← List.append_cons, Supervision.settled_finish, Supervision.settled_finish] at hlater
  exact Option.some.inj hlater

theorem Launch.SameUntilEnd.settle {l l' : Launch} (h : SameUntilEnd l l') (command : String) (w : World) :
    ProcessHost.settle command l' w = ProcessHost.settle command l w := by
  cases l with
  | refused f =>
    cases l' with
    | refused g =>
      obtain rfl : f = g := h
      rfl
    | started pid before finish later => exact absurd h id
  | started pid before finish later =>
    cases l' with
    | refused g => exact absurd h id
    | started pid' before' finish' later' =>
      obtain ⟨rfl, rfl, rfl⟩ := h
      rw [ProcessHost.settle, Launch.reply_later command pid before later', ProcessHost.settle,
        Launch.reply_later command pid before later]

namespace ProcessHost.SameUntilEnd

variable {host host' : ProcessHost σ} {c : Command}

theorem call_of_ne (h : SameUntilEnd c host host') {d : Command} (hd : d ≠ c) (w : World) (m : Signalled σ) :
    host'.call d w m = host.call d w m := by
  simp only [call, h.others d _ _ hd]

/-- The reply and the effects are the same; only the signal may differ afterwards. -/
theorem call (h : SameUntilEnd c host host') (w : World) (m : Signalled σ) :
    (host'.call c w m).1 = (host.call c w m).1 ∧ (host'.call c w m).2.1 = (host.call c w m).2.1 := by
  cases hbudget : isBudget c.timeoutSeconds with
  | false =>
    rw [call_of_excess hbudget, call_of_excess hbudget]
    exact ⟨rfl, rfl⟩
  | true =>
    cases hraised : m.raised with
    | true =>
      rw [call_of_raised hbudget hraised, call_of_raised hbudget hraised]
      exact ⟨rfl, rfl⟩
    | false =>
      have hworld : (host'.attempt c w m).2 = (host.attempt c w m).2 := h.effects _ _
      have hsettle : settle c.command (host'.attempt c w m).1 (host.attempt c w m).2.1 =
          settle c.command (host.attempt c w m).1 (host.attempt c w m).2.1 := (h.launch _ _).settle _ _
      rw [call_of_calm hbudget hraised, call_of_calm hbudget hraised, hworld, hsettle]
      exact ⟨rfl, rfl⟩

end ProcessHost.SameUntilEnd

/-- The engine's command is none of the build. -/
theorem Plan.command_ne_engine {i : PlanInput} (hdistinct : i.artifacts.irFile ≠ i.artifacts.bitcodeFile)
    {spec : StageSpec} (hspec : spec ∈ (ofInput i).build) :
    Verifier.commandOf spec ≠ Verifier.commandOf (engineSpec i) := by
  intro heq
  simp only [ofInput, List.mem_cons, List.not_mem_nil, or_false] at hspec
  rcases hspec with rfl | rfl | rfl
  · have hargs : (frontendSpec i).args.getLast? = (engineSpec i).args.getLast? :=
      congrArg (fun c : Command => c.args.getLast?) heq
    have hfrontend : (frontendSpec i).args.getLast? = some i.artifacts.irFile := by simp [frontendSpec]
    have hengine : (engineSpec i).args.getLast? = some i.artifacts.bitcodeFile := List.getLast?_concat ..
    exact hdistinct (Option.some.inj (hfrontend.symm.trans (hargs.trans hengine)))
  · cases congrArg Command.cwd heq
  · have hargs : (nativeSpec i).args.head? = (engineSpec i).args.head? :=
      congrArg (fun c : Command => c.args.head?) heq
    have hfirst : "-emit-llvm" = "--search=" ++ i.toolchain.engine.searchStrategy := Option.some.inj hargs
    have hchars := congrArg (fun p : String => p.toList[1]?) hfirst
    simp [String.toList_append] at hchars

namespace Verifier

/-- The intermediate representation and the bitcode have different names. -/
theorem irFile_ne_bitcodeFile {v : Verifier σ} {request : Request} {s : RunState σ} {workDir : String}
    (hcreated : (v.opened s).1 = .ok workDir) :
    (v.plan request s workDir).artifacts.irFile ≠ (v.plan request s workDir).artifacts.bitcodeFile := by
  obtain ⟨l, hl, hpath⟩ := WorkDir.create_path (v.isAbsolute_workRoot s) (create_of_opened hcreated)
  generalize hsource : (Path.resolve (v.opened s).2.cwd request.sourceFile).text = source
  have hir := Path.isName_stem source (show ".json".toList.getLast? = some 'n' by decide) (by decide) (by decide)
  have hbitcode := Path.isName_stem source (show ".bc".toList.getLast? = some 'c' by decide) (by decide) (by decide)
  obtain ⟨hir, hirFile⟩ := Path.join_name hl hpath hir
  obtain ⟨hbitcode, hbitcodeFile⟩ := Path.join_name hl hpath hbitcode
  have hnames : (v.plan request s workDir).artifacts = Artifacts.derive workDir source := by
    rw [← hsource]
    rfl
  rw [hnames]
  show Path.join workDir (Path.stem source ++ ".json") ≠ Path.join workDir (Path.stem source ++ ".bc")
  rw [hirFile, hbitcodeFile]
  intro heq
  have hsame := Location.normalSegments_text hir
  rw [heq, Location.normalSegments_text hbitcode] at hsame
  simp at hsame

end Verifier

/-- The state without the executor's memory. -/
def RunState.seen (s : RunState σ) : RunState Unit := s.mapMemory fun _ => ()

namespace Verifier

section Forgetting

variable {v : Verifier σ} {e : Executor σ} {s s' : RunState σ}

/-- A result without the executor's memory. -/
def seen {α : Type} (p : α × RunState σ) : α × RunState Unit := mapResult (fun _ => ()) p

/-- An executor without a memory that is never called. -/
def idle : Executor Unit := ⟨fun _ w m => (.error .emptyCommand, w, m)⟩

/-- What no longer calls the executor does not see its memory. -/
theorem seen_congr {left right : Except Failure Outcome × RunState σ}
    {tail : RunState Unit → Except Failure Outcome × RunState Unit} (h : s'.seen = s.seen)
    (hleft : tail s'.seen = seen left) (hright : tail s.seen = seen right) : seen left = seen right := by
  rw [← hleft, ← hright, h]

/-- Executors that answer the same commands alike build alike. -/
theorem runBuild_congr {specs : List StageSpec}
    (h : ∀ spec ∈ specs, ∀ w m, e.call (commandOf spec) w m = v.executor.call (commandOf spec) w m)
    (log : List String) (run : Run) (s : RunState σ) :
    (v.withExecutor e).runBuild log run specs s = v.runBuild log run specs s := by
  induction specs generalizing log run s with
  | nil => rfl
  | cons spec rest ih =>
    obtain ⟨hfirst, hrest⟩ := List.forall_mem_cons.mp h
    have hstage : (v.withExecutor e).runBuildStage spec s = v.runBuildStage spec s := by
      simp only [runBuildStage, issue, withExecutor, hfirst]
    simp only [runBuild, hstage, ih hrest]

/-- If the engine's reply and effects are the same, so is what is seen of the rest of the run. -/
theorem seen_runEngine {i : PlanInput}
    (h : ∀ w m, (e.call (commandOf (Plan.engineSpec i)) w m).1 =
      (v.executor.call (commandOf (Plan.engineSpec i)) w m).1 ∧
      (e.call (commandOf (Plan.engineSpec i)) w m).2.1 = (v.executor.call (commandOf (Plan.engineSpec i)) w m).2.1)
    (run : Run) (log : List String) (s : RunState σ) :
    seen ((v.withExecutor e).runEngine i run log s) = seen (v.runEngine i run log s) := by
  obtain ⟨hreply, hworld⟩ := h s.world s.memory
  have hsame : ((v.withExecutor e).callOf (Plan.engineSpec i) s).reply =
    (v.callOf (Plan.engineSpec i) s).reply := hreply
  have hstate : ((v.withExecutor e).answered (Plan.engineSpec i) s).seen = (v.answered (Plan.engineSpec i) s).seen := by
    simp only [RunState.seen, RunState.mapMemory, answered, withExecutor, hworld]
  rw [runEngine, runEngine, issue_eq, issue_eq, hsame]
  dsimp only
  cases engineRun (Plan.engineSpec i) (v.callOf (Plan.engineSpec i) s).reply with
  | error failure => exact congrArg (Prod.mk _) hstate
  | ok r =>
    dsimp only
    cases r.aborted with
    | false => exact seen_congr hstate (classifyAndReport_mapMemory (e := idle) ..) (classifyAndReport_mapMemory ..)
    | true =>
      rw [if_pos rfl, if_pos rfl]
      cases move run .aborted with
      | error failure => exact congrArg (Prod.mk _) hstate
      | ok run₁ => exact seen_congr hstate (conclude_mapMemory (e := idle) ..) (conclude_mapMemory ..)

variable {runId : String} {request : Request} {workDir : String}

theorem seen_execute {startedAt : Number}
    (hbuild : ∀ spec ∈ (Plan.ofInput (v.planFor request workDir s.world.files)).build, ∀ w m,
      e.call (commandOf spec) w m = v.executor.call (commandOf spec) w m)
    (hengine : ∀ w m,
      (e.call (commandOf (Plan.engineSpec (v.planFor request workDir s.world.files))) w m).1 =
        (v.executor.call (commandOf (Plan.engineSpec (v.planFor request workDir s.world.files))) w m).1 ∧
      (e.call (commandOf (Plan.engineSpec (v.planFor request workDir s.world.files))) w m).2.1 =
        (v.executor.call (commandOf (Plan.engineSpec (v.planFor request workDir s.world.files))) w m).2.1) :
    seen ((v.withExecutor e).execute runId startedAt request workDir s) =
      seen (v.execute runId startedAt request workDir s) := by
  have hplan : (v.withExecutor e).planFor request workDir s.world.files = v.planFor request workDir s.world.files := rfl
  simp only [execute, hplan]
  cases move (Run.fresh runId request startedAt workDir) .started with
  | error failure => rfl
  | ok run =>
    dsimp only
    rw [runBuild_congr hbuild]
    rcases v.runBuild [] run _ s with ⟨result, s₁⟩
    cases result with
    | error failure => rfl
    | ok ending =>
      cases ending with
      | stopped run₁ failure =>
        exact seen_congr (rfl : s₁.seen = s₁.seen) (conclude_mapMemory (e := idle) ..) (conclude_mapMemory ..)
      | built run₁ log => exact seen_runEngine hengine run₁ log s₁

/-- What is seen of the work in a directory decides what is seen of the whole run. -/
theorem seen_verify (hcreated : (v.opened s).1 = .ok workDir)
    (hexecute : seen ((v.withExecutor e).execute runId (v.clock s.world.readings) request workDir (v.entered s)) =
      seen (v.execute runId (v.clock s.world.readings) request workDir (v.entered s))) :
    seen ((v.withExecutor e).verify runId request s) = seen (v.verify runId request s) := by
  have hopened : ((v.withExecutor e).opened s).1 = .ok workDir := hcreated
  have hrelease : (v.withExecutor e).release runId request s workDir = v.release runId request s workDir :=
    congrArg (fun p : Except Failure Outcome × RunState Unit =>
      WorkDir.remove p.2.world.files (v.workRoot s) workDir) hexecute
  rw [verify_of_opened hopened, verify_of_opened hcreated, hrelease]
  have hentered : (v.withExecutor e).entered s = v.entered s := rfl
  have hclock : (v.withExecutor e).clock s.world.readings = v.clock s.world.readings := rfl
  rw [hentered, hclock]
  generalize (v.withExecutor e).execute runId (v.clock s.world.readings) request workDir
    (v.entered s) = left at hexecute ⊢
  generalize v.execute runId (v.clock s.world.readings) request workDir (v.entered s) = right at hexecute ⊢
  obtain ⟨result, s₁⟩ := left
  obtain ⟨result', s₂⟩ := right
  obtain ⟨rfl, hstate⟩ : result = result' ∧ s₁.seen = s₂.seen := Prod.mk.inj hexecute
  cases v.release runId request s workDir with
  | error failure => exact seen_congr hstate (reportFailure_mapMemory (e := idle) ..) (reportFailure_mapMemory ..)
  | ok fs =>
    have hset : (HasFiles.setFiles s₁ fs).seen = (HasFiles.setFiles s₂ fs).seen :=
      congrArg (fun s : RunState Unit => HasFiles.setFiles s fs) hstate
    cases result with
    | ok outcome => exact congrArg (Prod.mk _) hset
    | error failure => exact seen_congr hset (reportFailure_mapMemory (e := idle) ..) (reportFailure_mapMemory ..)

end Forgetting

/-! ## The whole run -/

/-- How an interrupted run ends. -/
structure Interrupted (o : Outcome) : Prop where
  verdict : o.verdict = .error
  exitCode : o.exitCode = 1
  ruleId : o.ruleId = none
  evidence : o.report.assertionErrors = none
  history : .classify ∉ o.history ∧ [.report, .done] <:+ o.history

section Interruption

variable {host : ProcessHost σ} {v : Verifier (Signalled σ)} {runId : String} {request : Request}
  {s : RunState (Signalled σ)} {workDir : String}

/-- **The whole run and its launches.** The course of a run is one on a recording host. -/
theorem Housed.verify_launching (h : v.Housed runId request s workDir) (hexecutor : v.executor = host.executor)
    (hhost : host.Orderly) (htimeouts : (v.plan request s workDir).timeouts.Accepted) (hsink : s.sink.Worded) :
    ∃ calls s₁ ending finishedAt report s',
      Course (v.launching host) (v.plan request s workDir) ((v.launching host).entered s.launching) calls s₁ ending ∧
      s₁.memory.host.2 = v.launches host runId request s ∧
      s.sink.emit (draft (v.clock s.world.readings) finishedAt ending) = (.ok report, s'.sink) ∧
      v.verify runId request s = (.ok (outcome runId report ending), s') := by
  have hown : (v.launching host).withExecutor host.executor = v := by
    rw [← hexecutor]
    rfl
  have hhoused : (v.launching host).Housed runId request s.launching workDir := by
    refine Housed.of_mapMemory (answers_launching v host) ?_
    rw [hown]
    exact h
  obtain ⟨calls, ending, hcourse, hends⟩ := hhoused.verify_course hsink
  obtain ⟨report, s', hemit, hmemory, hverify⟩ := hends (hcourse.told (plan_sound hhoused.created)
    fun call hcall failure hr => (hcourse.worded_last hhost htimeouts hcall hr).tellable)
  refine ⟨calls, _, ending, _, report, s'.mapMemory (Signalled.map Prod.fst), hcourse, ?_, hemit, ?_⟩
  · rw [launches, hverify, hmemory]
  · have hsame := verify_mapMemory (answers_launching v host) runId request s.launching
    rw [hown, hverify] at hsame
    exact hsame

/-- A course that was not classified ends as an interrupted run does, if its report can be written. -/
theorem Course.interrupted_of_cut {w : Verifier τ} {i : PlanInput} {s s' : RunState τ} {calls : List Call}
    {before : List Phase} {c : Conclusion} (h : Course w i s calls s' (.ok (before, c)))
    (hcut : ∀ call, calls[3]? = some call → call.isAborted = true) {sink sink' : Sink} (hsink : sink.Worded)
    {startedAt finishedAt : Number} {report : Report}
    (hemit : sink.emit (draft startedAt finishedAt (.ok (before, c))) = (.ok report, sink')) :
    Interrupted (outcome runId report (.ok (before, c))) := by
  have hevidence : c.evidence = [] := by
    cases h with
    | stopped hsplit hbuilt hstop => rfl
    | interrupted hbuilt hrun haborted => rfl
    | @classified made log s₁ e evidence hbuilt hrun haborted hscan =>
      have hmade : made.length = 3 := hbuilt.length_eq
      have hfourth : (made ++ [w.callOf (Plan.engineSpec i) s₁])[3]? = some (w.callOf (Plan.engineSpec i) s₁) := by
        rw [List.getElem?_append_right (Nat.le_of_eq hmade), hmade]
        rfl
      rw [engineRun_aborted hrun, hcut _ hfourth] at haborted
      cases haborted
  rcases h.ends with ⟨rfl, hverdict, hexit, hrule, -⟩ | ⟨-, -, -, -, call, hcall, hnot⟩
  · obtain ⟨-, -, hclassify⟩ := history_stopped h.length_calls
    refine ⟨?_, hexit, hrule, ?_, hclassify, List.suffix_append _ _⟩
    · show report.verdict = .error
      rcases Sink.verdict_of_emit hsink hemit with hsame | herror
      · rw [hsame, hverdict]
      · exact herror
    · rw [draft, hevidence] at hemit
      exact Sink.evidence_of_emit hemit
  · rw [hcut call hcall] at hnot
    cases hnot

/-- **Interrupted runs.** On an orderly host, with accepted timeouts, a work directory, and a writer whose failures have
    words, whenever the abort signal is raised:
    * if it is raised from the start, nothing is started; whatever raises it, and whatever cannot be started, is the
      last that was to be started;
    * if it comes before the engine is called, or before a started engine has closed, the run ends with the verdict
      `error`, exit code 1, no rule, no evidence, and a history without classification that ends with the report;
    * what happens after the engine's end, the signal included, changes nothing that is seen of the run. -/
theorem verify_interrupted (hhost : host.Orderly) (hexecutor : v.executor = host.executor)
    (htimeouts : StageTimeouts.Accepted { v.settings.timeouts with engineSeconds := request.engineTimeoutSeconds })
    (hhoused : v.Housed runId request s workDir) (hsink : s.sink.Worded) :
    (s.memory.raised = true → v.launches host runId request s = []) ∧
    (∀ k l, (v.launches host runId request s)[k]? = some l → l.raisesAbort = true ∨ l.isRefused = true →
      (v.launches host runId request s).length = k + 1) ∧
    (CutShort s.memory.raised (v.launches host runId request s) →
      ∃ o s', v.verify runId request s = (.ok o, s') ∧ Interrupted o) ∧
    ∀ host' : ProcessHost σ,
      host.SameUntilEnd (commandOf (Plan.engineSpec (v.plan request s workDir))) host' →
      seen ((v.withExecutor host'.executor).verify runId request s) = seen (v.verify runId request s) := by
  obtain ⟨calls, s₁, ending, finishedAt, report, s', hcourse, hlaunches, hemit, hverify⟩ :=
    hhoused.verify_launching hexecutor hhost htimeouts hsink
  have hempty : ((v.launching host).entered s.launching).memory.host.2 = [] := rfl
  have hheard : Heard s.memory.raised ((v.launching host).entered s.launching).memory := by
    refine ⟨?_, fun _ => rfl, fun k l hl => by cases hl⟩
    show s.memory.raised = (s.memory.raised || false)
    rw [Bool.or_false]
  have hbudget : ∀ spec ∈ (Plan.ofInput (v.plan request s workDir)).stages,
      ProcessHost.isBudget spec.timeoutSeconds = true := fun spec => Plan.isBudget_of_mem htimeouts
  rw [← hlaunches]
  refine ⟨?_, ?_, ?_, ?_⟩
  · have hheard₁ := hcourse.memory (P := Heard s.memory.raised)
      (fun spec hspec w m hm => hm.call (hbudget spec hspec) w)
      hheard
    exact hheard₁.silent
  · intro k l hl hends
    exact hcourse.last_launch hhost htimeouts hheard hempty hl hends
  · intro hcut
    have haborted : ∀ call, calls[3]? = some call → call.isAborted = true := by
      intro call hcall
      cases haborted : call.isAborted with
      | true => rfl
      | false => exact absurd hcut (hcourse.not_cutShort hhost htimeouts hheard hempty hcall haborted)
    -- an engine that was interrupted leaves nothing to be scanned
    obtain ⟨⟨before, c⟩, rfl⟩ := hcourse.concluded (fun call hcall failure hr =>
      hcourse.worded_last hhost htimeouts hcall hr) (fun call hcall hnot => by
        rw [haborted call hcall] at hnot
        cases hnot)
    exact ⟨_, s', hverify, hcourse.interrupted_of_cut haborted hsink hemit⟩
  · intro host' hsame
    refine seen_verify hhoused.created (seen_execute (fun spec hspec w m => ?_) (fun w m => ?_))
    · rw [hexecutor]
      exact hsame.call_of_ne (Plan.command_ne_engine (irFile_ne_bitcodeFile hhoused.created) hspec) w m
    · rw [hexecutor]
      exact hsame.call w m

end Interruption

/-- A host whose processes write the files that their last arguments name, until the signal comes while the fourth of
    them runs. -/
def lateSignal : ProcessHost Nat where
  launch c w n :=
    (if n = 3 then .started (some 7) [.timer, .stdout [], .abort] (.close none (some "SIGKILL")) [.stdout []]
      else .started (some 7) [] (.close (some 0) none) [],
      { w with files := (w.files.writeBytes (c.args.getLast?.getD "") []).toOption.getD w.files }, n + 1)

theorem lateSignal_orderly : lateSignal.Orderly := by
  refine ⟨fun c w n f h => ?_, fun c w n pid before finish later h => ?_⟩
  · simp only [lateSignal] at h
    split at h <;> cases h
  · simp only [lateSignal] at h
    split at h
    · cases h
      intro e he
      simp only [List.mem_cons, List.not_mem_nil, or_false] at he
      rcases he with rfl | rfl | rfl <;> exact id
    · cases h
      exact running_nil

theorem accepted_prepared : StageTimeouts.Accepted ⟨60, 120, 60, 300⟩ :=
  ⟨⟨.num 60, eq_ok_of_toOption (by decide)⟩, ⟨.num 120, eq_ok_of_toOption (by decide)⟩,
    ⟨.num 60, eq_ok_of_toOption (by decide)⟩, ⟨.num 300, eq_ok_of_toOption (by decide)⟩⟩

/-- All four processes are started, and the run ends as an interrupted one although the engine's time was up as well. -/
theorem lateSignal_interrupted :
    (((prepared preparedClock).withExecutor lateSignal.executor).launches lateSignal "run" .prepared
      (.preparedFor ⟨false, 0⟩)).length = 4 ∧
    ∃ o s', ((prepared preparedClock).withExecutor lateSignal.executor).verify "run" .prepared
      (.preparedFor ⟨false, 0⟩) = (.ok o, s') ∧ Interrupted o := by
  have hseen : (((prepared preparedClock).withExecutor lateSignal.executor).launches lateSignal "run" .prepared
      (.preparedFor ⟨false, 0⟩)).map (fun l => (l.raisesAbort, l.isInterrupted)) =
        [(false, false), (false, false), (false, false), (true, true)] := by decide +kernel
  obtain ⟨-, -, hends, -⟩ := verify_interrupted lateSignal_orderly rfl accepted_prepared
    (preparedFor_housed preparedClock lateSignal.executor ⟨false, 0⟩) (Sink.worded_of_open fun _ => rfl)
  refine ⟨by simpa using congrArg List.length hseen, hends (.inr (.inr ?_))⟩
  have hfourth := congrArg (fun l => l[3]?) hseen
  rw [List.getElem?_map] at hfourth
  obtain ⟨l, hl, hpair⟩ := Option.map_eq_some_iff.mp hfourth
  exact ⟨l, hl, congrArg Prod.snd hpair⟩

/-- A failed write without words leaves no history, although the signal was raised from the start. -/
theorem interruption_unrecorded :
    ((prepared preparedClock).withExecutor lateSignal.executor).Housed "run" .prepared (.preparedFor ⟨true, 0⟩ stubborn)
      "/w/p4verdict-1" ∧
    ∃ o s', ((prepared preparedClock).withExecutor lateSignal.executor).verify "run" .prepared
      (.preparedFor ⟨true, 0⟩ stubborn) = (.ok o, s') ∧ o.history = [] :=
  ⟨preparedFor_housed _ _ _ _, exists_outcome (by decide +kernel)⟩

end Verifier

end DataplaneVerdict
