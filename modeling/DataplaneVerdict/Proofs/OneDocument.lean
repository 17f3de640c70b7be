import DataplaneVerdict.CommandLine.Run
import DataplaneVerdict.Proofs.EngineVerdict

/-!
# `Proofs.OneDocument` — every call of the command prints one document

Whatever its arguments, its environment, its files and its tools are, the command that verifies a program prints exactly
one line: an error document if nothing could be started, else the report of the run. The executor may answer each call
in any way, and a value that it rejects with may even have no text, as long as what says so has one.

## Contents
- **Runs.** `Verifier.verify_one_report`: a run writes the report that it returns, which is a valid one.
- **Refusals.** The message of each refusal says something, so that the error document is a valid one.
- **The command.** `RunCommand.execute_one_document`.
-/

namespace DataplaneVerdict

attribute [local irreducible] WorkDir.create WorkDir.remove

/-! ## Runs -/

namespace Verifier

variable {σ : Type} {v : Verifier σ} {runId : String} {request : Request} {s : RunState σ}

/-- The exit code of a course is 0 or 1. -/
theorem Course.exitCode {i : PlanInput} {calls : List Call} {s s' : RunState σ}
    {ending : Ending} (h : Course v i s calls s' ending) (report : Report) :
    (outcome runId report ending).exitCode = 0 ∨ (outcome runId report ending).exitCode = 1 := by
  cases h with
  | stopped hsplit hbuilt hstop => exact .inr rfl
  | lost hsplit hbuilt hr hlost => exact .inr rfl
  | interrupted hbuilt hrun haborted => exact .inr rfl
  | unscanned hbuilt hrun haborted hscan => exact .inr rfl
  | classified hbuilt hrun haborted hscan => exact .inl rfl

theorem report_outcome (runId : String) (report : Report) (ending : Ending) :
    (outcome runId report ending).report = report := by
  cases ending <;> rfl

/-- **One report.** A run whose work directory, if it has one, can be given back and whose last answer can be told ends
    with an outcome, and what it wrote is the line of that outcome's report. -/
theorem verify_one_report (hclock : v.clock.Measures) (hsink : s.sink.Open)
    (hrelease : ∀ workDir, (v.opened s).1 = .ok workDir → (v.release runId request s workDir).isOk = true)
    (htells : ∀ call, (v.calls runId request s).getLast? = some call → call.Tells) :
    ∃ o s', v.verify runId request s = (.ok o, s') ∧ (o.exitCode = 0 ∨ o.exitCode = 1) ∧
      Report.check o.report.toValue = .ok o.report ∧ s'.sink = s.sink.wrote o.report.line := by
  cases hcreated : (v.opened s).1 with
  | ok workDir =>
    have hhoused : v.Housed runId request s workDir := ⟨hcreated, hrelease workDir hcreated⟩
    obtain ⟨finishedAt, ending, s', hcourse, hfinite, hwrote, hverify⟩ := hhoused.verify_reported hclock hsink htells
    refine ⟨_, s', hverify, hcourse.exitCode _, ?_, ?_⟩
    · rw [report_outcome]
      exact Report.check_toValue (reportOf_valid hfinite ending)
    · rw [report_outcome, hwrote]
  | error failure =>
    -- no directory: the failure of the file operation is all there is to report
    have hopened : WorkDir.create (HasFiles.files s.begun) (v.workRoot s) WorkDir.series (v.ids s.world.draws) =
        (.error failure, (v.opened s).2) := Prod.ext hcreated rfl
    obtain ⟨e, rfl⟩ := WorkDir.create_eq_error hopened
    have hfinite := hclock s.world.readings (s.world.readings + 1)
    have hemit := emit_draft hsink hfinite (.error (.file e))
    have hvalid := reportOf_valid hfinite (.error (.file e))
    have hreport : v.reportFailure runId (v.clock s.world.readings) (.file e)
        (HasFiles.setFiles s.begun (v.opened s).2) = _ := reportFailure_eq ⟨_, rfl⟩ hemit
    exact ⟨_, _, (verify_of_unopened hcreated).trans hreport, .inr rfl, Report.check_toValue hvalid, rfl⟩

end Verifier

/-! ## Refusals -/

theorem append_ne_empty {a : String} (h : a ≠ "") (b : String) : a ++ b ≠ "" :=
  fun hab => h (String.append_eq_empty_iff.mp hab).1

theorem Settings.load_message_ne_empty {env : Environment} {failure : Failure} (h : load env = .error failure) :
    failure.message ≠ "" := by
  unfold load at h
  split at h
  · exact absurd h (by simp)
  · obtain rfl := Except.error.inj h
    exact append_ne_empty (by decide) _

theorem FileError.message_ne_empty (e : FileError) : e.message ≠ "" := by
  unfold message
  split
  · exact append_ne_empty (append_ne_empty (append_ne_empty (by decide) _) _) _
  · have hcode : e.problem.code ≠ "" := by cases e.problem <;> decide
    exact append_ne_empty (append_ne_empty (append_ne_empty (append_ne_empty (append_ne_empty hcode _) _) _) _) _

theorem Toolchain.parse_message_ne_empty {content path : String} {failure : Failure}
    (h : parse content path = .error failure) : failure.message ≠ "" := by
  unfold parse at h
  split at h
  · obtain rfl := Except.error.inj h
    exact append_ne_empty (append_ne_empty (append_ne_empty (append_ne_empty (by decide) _) _) _) _
  · split at h
    · exact absurd h (by simp)
    · obtain rfl := Except.error.inj h
      exact append_ne_empty (append_ne_empty (append_ne_empty (by decide) _) _) _

theorem Toolchain.load_message_ne_empty {fs : FileSystem} {path : Option String} {failure : Failure}
    (h : load fs path = .error failure) : failure.message ≠ "" := by
  unfold load at h
  split at h
  · exact absurd h (by simp)
  · split at h
    · exact absurd h (by simp)
    · split at h
      · exact parse_message_ne_empty h
      · rename_i e hread
        split at h
        · obtain rfl := Except.error.inj h
          exact append_ne_empty (by decide) _
        · obtain rfl := Except.error.inj h
          exact e.message_ne_empty

namespace RunCommand

variable {σ : Type} {c : RunCommand σ}

/-- A refusal to start has something to say. -/
theorem configure_message_ne_empty {fs : FileSystem} {failure : Failure} (h : c.configure fs = .error failure) :
    failure.message ≠ "" := by
  unfold configure at h
  split at h
  · rename_i hload
    rw [← Except.error.inj h]
    exact Settings.load_message_ne_empty hload
  · split at h
    · rename_i htools
      rw [← Except.error.inj h]
      exact Toolchain.load_message_ne_empty htools
    · exact absurd h (by simp)

theorem timeoutProblem_ne_empty {a : RunArguments} {message : String} (h : timeoutProblem a = some message) :
    message ≠ "" := by
  unfold timeoutProblem at h
  split at h
  · exact absurd h (by simp)
  · split at h
    · exact absurd h (by simp)
    · obtain rfl := Option.some.inj h
      exact append_ne_empty (append_ne_empty (append_ne_empty (by decide) _) _) _

/-! ## The command -/

/-- The verifier of the command. -/
def verifier (c : RunCommand σ) (settings : Settings) (toolchain : Toolchain) : Verifier σ :=
  ⟨settings, toolchain, c.executor, c.clock, c.ids⟩

/-- What the command asks to verify. -/
def request (a : RunArguments) (settings : Settings) : Request :=
  ⟨a.sourceFile, a.rulesFile, a.timeoutSeconds.getD settings.timeouts.engineSeconds⟩

/-- If the command comes to make a work directory, it can give it back. -/
def Releases (c : RunCommand σ) (inputs : List String) (s : RunState σ) : Prop :=
  ∀ a settings toolchain workDir, RunArguments.parse? inputs = some a →
    c.configure s.world.files = .ok (settings, toolchain) →
    ((c.verifier settings toolchain).opened s).1 = .ok workDir →
    ((c.verifier settings toolchain).release c.runId (request a settings) s workDir).isOk = true

/-- If the command comes to run its tools, their last answer can be told. -/
def Tells (c : RunCommand σ) (inputs : List String) (s : RunState σ) : Prop :=
  ∀ a settings toolchain call, RunArguments.parse? inputs = some a →
    c.configure s.world.files = .ok (settings, toolchain) →
    ((c.verifier settings toolchain).calls c.runId (request a settings) s).getLast? = some call → call.Tells

/-- The arguments name no source: there are none, or the first is empty. -/
def NoSource (inputs : List String) : Prop := inputs.head?.getD "" = ""

theorem parse?_eq_none_iff {inputs : List String} : RunArguments.parse? inputs = none ↔ NoSource inputs := by
  cases inputs with
  | nil => simp [RunArguments.parse?, NoSource]
  | cons source rest => simp [RunArguments.parse?, NoSource]

/-- **What the command can do**: say how to be called, refuse with a message, or run. -/
theorem execute_cases (c : RunCommand σ) (inputs : List String) (s : RunState σ) (stderr : Sink) :
    (NoSource inputs ∧
      c.execute inputs s stderr = { code := 1, outcome := none, state := s, stderr := (stderr.emitError usage).2 }) ∨
    (¬NoSource inputs ∧ ∃ message, message ≠ "" ∧ c.execute inputs s stderr = refuse message s stderr) ∨
    (¬NoSource inputs ∧ ∃ a settings toolchain, RunArguments.parse? inputs = some a ∧
      c.configure s.world.files = .ok (settings, toolchain) ∧
      c.execute inputs s stderr =
        match (c.verifier settings toolchain).verify c.runId (request a settings) s with
        | (.ok outcome, s) => { code := outcome.exitCode, outcome := some outcome, state := s, stderr := stderr }
        | (.error f, s) => { code := 1, outcome := none, state := s, stderr := stderr, failure := some f }) := by
  unfold execute
  cases hparse : RunArguments.parse? inputs with
  | none => exact .inl ⟨parse?_eq_none_iff.mp hparse, rfl⟩
  | some a =>
    have hsource : ¬NoSource inputs := fun h => by
      rw [parse?_eq_none_iff.mpr h] at hparse
      cases hparse
    dsimp only
    cases htimeout : timeoutProblem a with
    | some message => exact .inr (.inl ⟨hsource, message, timeoutProblem_ne_empty htimeout, rfl⟩)
    | none =>
      dsimp only
      cases s.world.files.isFile a.sourceFile with
      | false => exact .inr (.inl ⟨hsource, _, append_ne_empty (by decide) _, rfl⟩)
      | true =>
        rw [Bool.not_true, if_neg Bool.false_ne_true]
        cases hconfigure : c.configure s.world.files with
        | error failure => exact .inr (.inl ⟨hsource, _, configure_message_ne_empty hconfigure, rfl⟩)
        | ok configured => exact .inr (.inr ⟨hsource, a, configured.1, configured.2, rfl, rfl, rfl⟩)

/-- **One document.** With writers that never fail, a clock whose readings lie a finite time apart, a work directory
    that can be given back and tools whose last answer can be told, the command never fails, its code is 0 or 1, and it
    writes exactly one line. Either that line is a valid error document, the code is 1 and nothing was done; or it is
    the report of the run's outcome, which is a valid report. The error stream is used just when no source is named.
    -/
theorem execute_one_document (c : RunCommand σ) (inputs : List String) (s : RunState σ) (stderr : Sink)
    (hclock : c.clock.Measures) (hout : s.sink.Open) (herr : stderr.Open) (hrelease : c.Releases inputs s)
    (htells : c.Tells inputs s) :
    (c.execute inputs s stderr).failure = none ∧
    ((c.execute inputs s stderr).code = 0 ∨ (c.execute inputs s stderr).code = 1) ∧
    ((∃ d : ErrorDocument, ErrorDocument.check d.toValue = .ok d ∧ (c.execute inputs s stderr).code = 1 ∧
        (c.execute inputs s stderr).outcome = none ∧
        (c.execute inputs s stderr).state.world = s.world ∧ (c.execute inputs s stderr).state.memory = s.memory ∧
        (c.execute inputs s stderr).state.issued = s.issued ∧
        ((NoSource inputs ∧ (c.execute inputs s stderr).stderr = stderr.wrote d.line ∧
            (c.execute inputs s stderr).state.sink = s.sink) ∨
          (¬NoSource inputs ∧ (c.execute inputs s stderr).stderr = stderr ∧
            (c.execute inputs s stderr).state.sink = s.sink.wrote d.line))) ∨
      (¬NoSource inputs ∧ ∃ o : Outcome, (c.execute inputs s stderr).outcome = some o ∧
        (c.execute inputs s stderr).code = o.exitCode ∧ Report.check o.report.toValue = .ok o.report ∧
        (c.execute inputs s stderr).state.sink = s.sink.wrote o.report.line ∧
        (c.execute inputs s stderr).stderr = stderr)) := by
  obtain ⟨hsource, heq⟩ | ⟨hsource, message, hmessage, heq⟩ |
    ⟨hsource, a, settings, toolchain, hparse, hconfigure, heq⟩ := c.execute_cases inputs s stderr
  · rw [heq]
    refine ⟨rfl, .inr rfl, .inl ⟨⟨usage⟩, ?_, rfl, rfl, rfl, rfl, rfl, .inl ⟨hsource, ?_, rfl⟩⟩⟩
    · exact ErrorDocument.check_toValue (by decide)
    · rw [Sink.emitError_of_open herr]
  · rw [heq]
    refine ⟨rfl, .inr rfl, .inl ⟨⟨message⟩, ?_, rfl, rfl, rfl, rfl, rfl, .inr ⟨hsource, rfl, ?_⟩⟩⟩
    · exact ErrorDocument.check_toValue hmessage
    · rw [refuse, Sink.emitError_of_open hout]
  · obtain ⟨o, s', hverify, hcode, hcheck, hsink⟩ := Verifier.verify_one_report (v := c.verifier settings toolchain)
      hclock hout (fun workDir => hrelease a settings toolchain workDir hparse hconfigure)
      fun call => htells a settings toolchain call hparse hconfigure
    rw [heq, hverify]
    exact ⟨rfl, hcode, .inr ⟨hsource, o, rfl, rfl, hcheck, hsink, rfl⟩⟩

/-- The command in a directory with a source and a work root, with prepared answers. -/
def prepared (clock : Clock) : RunCommand Playback where
  environment := [("P4VERDICT_WORK_ROOT", "/w")]
  config := none
  executor := Playback.executor
  clock := clock
  ids := fun _ => "1"
  runId := "run"

theorem prepared_releases (clock : Clock) (script : List PlaybackStep) :
    (prepared clock).Releases ["/p.p4"] (.prepared script) := by
  intro a settings toolchain workDir hparse hconfigure hcreated
  have hroot : settings.workRoot = "/w" := by
    have hread : ((prepared preparedClock).configure preparedFiles).toOption.map (·.1.workRoot) = some "/w" := by
      decide
    have hsame : (prepared clock).configure (RunState.prepared script).world.files =
        (prepared preparedClock).configure preparedFiles := rfl
    rw [hsame] at hconfigure
    rw [hconfigure] at hread
    exact Option.some.inj hread
  refine Verifier.release_isOk preparedRoot_proper (List.cons_ne_nil _ _) ?_ isName_preparedDirectory hcreated
  show (Path.resolve [] settings.workRoot).text = Location.text ["w"]
  rw [hroot]
  decide

/-- A tool that cannot be started says so. -/
theorem prepared_tells : (prepared preparedClock).Tells ["/p.p4"] (.prepared []) := by
  intro a settings toolchain call hparse hconfigure hlast
  have hseen : ((prepared preparedClock).configure preparedFiles).toOption.all (fun x =>
      (((prepared preparedClock).verifier x.1 x.2).calls "run" (request ⟨"/p.p4", none, none, []⟩ x.1)
        (.prepared [])).getLast?.all (·.counted?.isSome)) = true := by
    decide +kernel
  obtain rfl : RunArguments.mk "/p.p4" none none [] = a := Option.some.inj hparse
  have hread : (prepared preparedClock).configure preparedFiles = .ok (settings, toolchain) := hconfigure
  have hcalls : (((prepared preparedClock).verifier settings toolchain).calls "run"
      (request ⟨"/p.p4", none, none, []⟩ settings) (.prepared [])).getLast? = some call := hlast
  rw [hread, Except.toOption, Option.all_some, hcalls, Option.all_some] at hseen
  obtain ⟨r, hr⟩ := Option.isSome_iff_exists.mp hseen
  exact Call.tells_of_counted hr

/-- A run that cannot start its first tool still prints its report. -/
theorem prepared_one_document :
    ((prepared preparedClock).execute ["/p.p4"] (.prepared []) {}).outcome.isSome = true ∧
      ((prepared preparedClock).execute ["/p.p4"] (.prepared []) {}).failure = none ∧
      ∃ o : Outcome, ((prepared preparedClock).execute ["/p.p4"] (.prepared []) {}).outcome = some o ∧
        Report.check o.report.toValue = .ok o.report ∧
        ((prepared preparedClock).execute ["/p.p4"] (.prepared []) {}).state.sink = Sink.wrote {} o.report.line := by
  have hran : ((prepared preparedClock).execute ["/p.p4"] (.prepared []) {}).outcome.isSome = true := by decide +kernel
  obtain ⟨hfailure, -, ⟨d, -, -, hnone, -⟩ | ⟨-, o, houtcome, -, hcheck, hsink, -⟩⟩ :=
    execute_one_document (prepared preparedClock) ["/p.p4"] (.prepared []) {} preparedClock_measures
      (fun _ => rfl) (fun _ => rfl) (prepared_releases preparedClock []) prepared_tells
  · rw [hnone] at hran
    cases hran
  · exact ⟨hran, hfailure, o, houtcome, hcheck, hsink⟩

/-- Whole readings alone are not enough: where they lie too far apart, the line that the command prints is no valid
    report. The error stream is used although there is an argument, if that argument is empty. And a rejection that
    cannot be told leaves nothing to print. -/
theorem extremes_report_refused :
    (∀ i, (Clock.extremes i).isInteger = true) ∧ (prepared .extremes).Releases ["/p.p4"] (.prepared []) ∧
      ((prepared .extremes).execute ["/p.p4"] (.prepared []) {}).state.issued.length = 1 ∧
      ((prepared .extremes).execute ["/p.p4"] (.prepared []) {}).outcome.map
        (fun o => (Report.check o.report.toValue).isOk) = some false ∧
      ((prepared preparedClock).execute [""] (.prepared []) {}).stderr.lines.length = 1 ∧
      (prepared preparedClock).Releases ["/p.p4"] (.prepared [{ reply := .error (.wordless (.value .textless)) }]) ∧
      ((prepared preparedClock).execute ["/p.p4"]
        (.prepared [{ reply := .error (.wordless (.value .textless)) }]) {}).failure.isSome = true ∧
      ((prepared preparedClock).execute ["/p.p4"]
        (.prepared [{ reply := .error (.wordless (.value .textless)) }]) {}).state.sink.lines = [] := by
  refine ⟨Clock.isInteger_extremes, prepared_releases .extremes [], ?_, ?_, ?_, prepared_releases _ _, ?_, ?_⟩ <;>
    decide +kernel

end RunCommand

end DataplaneVerdict
