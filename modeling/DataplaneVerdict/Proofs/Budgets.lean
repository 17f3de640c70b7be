import DataplaneVerdict.Proofs.Interruption
import DataplaneVerdict.Proofs.OneDocument

/-!
# `Proofs.Budgets` — the time budgets of the commands that are run

A budget travels from a variable or an argument, as text, through a schema into the settings or the request, from there
into the plan, and with a command of the plan to the executor, which checks it once more before it sets a timer. The
schema lets only whole seconds from one up to a bound through (`Settings.seconds_eq_ok`), a default is used only where
a variable is not set and passes the same schema (`Settings.accepted_of_load`), and nothing on the way changes a
number. So that last check never fails (`RunCommand.calls_budgeted`).

## Contents
- **Milliseconds.** What a timer is set to.
- **Settings and arguments.** Where the numbers come from.
- **Plans.** Where they go.
- **The command.** `RunCommand.calls`, the record of everything that reaches the executor.
-/

namespace DataplaneVerdict

attribute [local irreducible] WorkDir.create WorkDir.remove Evidence.scan

/-! ## Milliseconds -/

/-- Milliseconds are exact as long as they have at most 53 bits. -/
theorem Number.mul_thousand {n : Nat} (hpos : 1 ≤ n) (h : n * 1000 ≤ Nat.pow 2 53) :
    Number.mul (.finite (n : Rat)) 1000 = .finite ((n * 1000 : Nat) : Rat) := by
  have hthousand : (1000 : Number) = .finite ((1000 : Nat) : Rat) := Number.ofNat_eq (by decide)
  have hnonzero : ¬((n : Rat).num = 0 ∨ ((1000 : Nat) : Rat).num = 0) := by
    rw [Rat.num_natCast, Rat.num_natCast]
    omega
  rw [hthousand, Number.mul, if_neg hnonzero, ← Rat.natCast_mul]
  exact Number.ofNat_eq h

/-! ## Settings and arguments -/

namespace Check

variable {α : Type} {check : Check α} {default a : α}

/-- A field with a default that passes the check has a value that does. -/
theorem exists_of_orDefault {name : String} {fields : Fields} (hdefault : ∃ value, check value = .ok default)
    (h : field name (orDefault default check) fields = .ok a) : ∃ value, check value = .ok a := by
  have hvalue := within_eq_ok h
  revert hvalue
  generalize Value.field name fields = value
  intro hvalue
  cases value with
  | undefined =>
    obtain rfl : default = a := Except.ok.inj hvalue
    exact hdefault
  | null | bool b | num n | str t | list items | object fs | special k => exact ⟨_, hvalue⟩

end Check

/-- **The timeouts of accepted settings** are accepted ones, whether they were set or not. -/
theorem Settings.accepted_of_load {env : Environment} {settings : Settings} (h : load env = .ok settings) :
    settings.timeouts.Accepted := by
  have hread : read env = .ok settings := by
    unfold load at h
    split at h
    · rename_i hread
      rw [hread, Except.ok.inj h]
    · cases h
  obtain ⟨⟨timeouts, rest⟩, hall, rfl⟩ := map_eq_ok hread
  obtain ⟨⟨f, t, n, e⟩, hfour, rfl⟩ := map_eq_ok (within_eq_ok (both_eq_ok hall).1)
  obtain ⟨hfrontend, hthree⟩ := both_eq_ok hfour
  obtain ⟨htranslate, htwo⟩ := both_eq_ok hthree
  obtain ⟨hnative, hengine⟩ := both_eq_ok htwo
  obtain ⟨hf, ht, hn, he⟩ := Verifier.accepted_prepared
  exact ⟨Check.exists_of_orDefault hf hfrontend, Check.exists_of_orDefault ht htranslate,
    Check.exists_of_orDefault hn hnative, Check.exists_of_orDefault he hengine⟩

namespace RunCommand

variable {σ : Type} {c : RunCommand σ} {a : RunArguments} {settings : Settings}

/-- The timeouts of a run: those of the settings, but an argument outranks the engine's. -/
def timeouts (a : RunArguments) (settings : Settings) : StageTimeouts :=
  { settings.timeouts with engineSeconds := a.timeoutSeconds.getD settings.timeouts.engineSeconds }

theorem engineTimeout_of_argument {n : Number} (hargument : a.timeoutSeconds = some n) (h : timeoutProblem a = none) :
    Settings.engineTimeout (.num n) = .ok n := by
  unfold timeoutProblem at h
  rw [hargument] at h
  dsimp only at h
  split at h
  · rename_i t haccepted
    rw [haccepted]
    exact congrArg Except.ok (Value.num.inj (Check.wholeNumber_eq_ok haccepted).1).symm
  · cases h

theorem accepted_timeouts (hsettings : settings.timeouts.Accepted) (h : timeoutProblem a = none) :
    (timeouts a settings).Accepted := by
  refine ⟨hsettings.frontend, hsettings.translate, hsettings.native, ?_⟩
  cases hargument : a.timeoutSeconds with
  | none =>
    obtain ⟨value, hvalue⟩ := hsettings.engine
    refine ⟨value, ?_⟩
    rw [timeouts, hargument]
    exact hvalue
  | some n =>
    refine ⟨.num n, ?_⟩
    rw [timeouts, hargument]
    exact engineTimeout_of_argument hargument h

end RunCommand

/-! ## Plans -/

/-- The budget of a stage. -/
def StageTimeouts.ofStage (t : StageTimeouts) : Stage → Number
  | .frontend => t.frontendSeconds
  | .translate => t.translateSeconds
  | .native => t.nativeSeconds
  | .engine => t.engineSeconds

/-- An accepted budget: up to an hour for a build stage and up to a day for the engine. -/
theorem StageTimeouts.Accepted.seconds {t : StageTimeouts} (h : t.Accepted) (stage : Stage) :
    ∃ n : Nat, t.ofStage stage = .finite (n : Rat) ∧ 1 ≤ n ∧ n ≤ (if stage = .engine then 86400 else 3600) := by
  obtain ⟨⟨_, hfrontend⟩, ⟨_, htranslate⟩, ⟨_, hnative⟩, ⟨_, hengine⟩⟩ := h
  cases stage with
  | frontend => exact Settings.seconds_eq_ok (by decide) hfrontend
  | translate => exact Settings.seconds_eq_ok (by decide) htranslate
  | native => exact Settings.seconds_eq_ok (by decide) hnative
  | engine => exact Settings.seconds_eq_ok (by decide) hengine

/-- The stages of a plan come in order, each with its budget. -/
theorem Plan.stage_of_getElem? {i : PlanInput} {k : Nat} {spec : StageSpec} (h : (ofInput i).stages[k]? = some spec) :
    Stage.all[k]? = some spec.stage ∧ spec.timeoutSeconds = i.timeouts.ofStage spec.stage := by
  constructor
  · rw [← stages_map_stage i, List.getElem?_map, h]
    rfl
  · have hmem := List.mem_of_getElem? h
    simp only [stages, ofInput, List.cons_append, List.nil_append, List.mem_cons, List.not_mem_nil, or_false] at hmem
    rcases hmem with rfl | rfl | rfl | rfl <;> rfl

/-- Every command that reaches the executor is the one that the plan of the run has in its place. -/
theorem Verifier.command_of_call {σ : Type} {v : Verifier σ} {runId : String} {request : Request} {s : RunState σ}
    {k : Nat} {call : Call} (h : (v.calls runId request s)[k]? = some call) :
    ∃ workDir spec, (v.opened s).1 = .ok workDir ∧
      (Plan.ofInput (v.plan request s workDir)).stages[k]? = some spec ∧ call.command = commandOf spec := by
  cases hcreated : (v.opened s).1 with
  | error f =>
    rw [calls_of_unopened hcreated] at h
    cases h
  | ok workDir =>
    obtain ⟨ending, hcourse, -⟩ := exists_course runId request hcreated
    have hcommand : ((v.calls runId request s).map (·.command))[k]? = some call.command := by
      rw [List.getElem?_map, h]
      rfl
    obtain ⟨hk, hsame⟩ := List.getElem?_eq_some_iff.mp hcommand
    have hplanned := List.prefix_iff_getElem?.mp hcourse.commands_isPrefix k hk
    rw [hsame, List.getElem?_map] at hplanned
    obtain ⟨spec, hspec, hcommandOf⟩ := Option.map_eq_some_iff.mp hplanned
    exact ⟨workDir, spec, rfl, hspec, hcommandOf.symm⟩

/-! ## The command -/

namespace RunCommand

variable {σ : Type} {c : RunCommand σ} {inputs : List String} {s : RunState σ} {stderr : Sink}

/-- The command with an executor that keeps a record. -/
def recording (c : RunCommand σ) : RunCommand (σ × List Call) :=
  ⟨c.environment, c.config, c.executor.recording, c.clock, c.ids, c.runId⟩

/-- Everything that reaches the executor when the command runs. -/
def calls (c : RunCommand σ) (inputs : List String) (s : RunState σ) (stderr : Sink) : List Call :=
  (c.recording.execute inputs s.recording stderr).state.memory.2

/-- **Only an accepted call runs anything**: nothing reaches the executor, or the arguments and the settings have been
    accepted and it is what the run of the request sends. -/
theorem calls_cases (c : RunCommand σ) (inputs : List String) (s : RunState σ) (stderr : Sink) :
    c.calls inputs s stderr = [] ∨
    ∃ a settings toolchain, RunArguments.parse? inputs = some a ∧ timeoutProblem a = none ∧
      c.configure s.world.files = .ok (settings, toolchain) ∧
      c.calls inputs s stderr = (c.verifier settings toolchain).calls c.runId (request a settings) s := by
  have hsame : c.recording.configure s.recording.world.files = c.configure s.world.files := rfl
  unfold calls execute
  cases hparse : RunArguments.parse? inputs with
  | none => exact .inl rfl
  | some a =>
    dsimp only
    cases hproblem : timeoutProblem a with
    | some message => exact .inl rfl
    | none =>
      dsimp only
      cases s.recording.world.files.isFile a.sourceFile with
      | false => exact .inl rfl
      | true =>
        rw [Bool.not_true, if_neg Bool.false_ne_true, hsame]
        cases hconfigure : c.configure s.world.files with
        | error f => exact .inl rfl
        | ok configured =>
          refine .inr ⟨a, configured.1, configured.2, rfl, hproblem, rfl, ?_⟩
          dsimp only
          show _ = ((c.verifier configured.1 configured.2).recording.verify c.runId (request a configured.1)
            s.recording).2.memory.2
          split
          · rename_i hverify
            exact congrArg (fun p => p.2.memory.2) hverify.symm
          · rename_i hverify
            exact congrArg (fun p => p.2.memory.2) hverify.symm

theorem load_of_configure {fs : FileSystem} {settings : Settings} {toolchain : Toolchain}
    (h : c.configure fs = .ok (settings, toolchain)) : Settings.load c.environment = .ok settings := by
  unfold configure at h
  split at h
  · cases h
  · rename_i hload
    split at h
    · cases h
    · rw [hload, (Prod.mk.inj (Except.ok.inj h)).1]

/-- **Every command that is run has a budget.** Whatever the environment, the arguments, the files and the tools are,
the command that reaches the executor in the `k`-th place is that of the `k`-th stage of the run of accepted arguments
with accepted settings. Its budget is the one that the settings have for the stage, or for the engine the argument if
one was given. It is a whole number of seconds, at least one, and at most an hour for a build stage and a day for the
engine; the executor's check accepts it; and its milliseconds are exact and no more than a timer can hold. -/
theorem calls_budgeted (c : RunCommand σ) (inputs : List String) (s : RunState σ)
    (stderr : Sink) {k : Nat} {call : Call}
    (hcall : (c.calls inputs s stderr)[k]? = some call) :
    ∃ a settings toolchain stage, ∃ n : Nat,
      RunArguments.parse? inputs = some a ∧ c.configure s.world.files = .ok (settings, toolchain) ∧
      Stage.all[k]? = some stage ∧
      call.command.timeoutSeconds =
        (if stage = .engine then a.timeoutSeconds.getD settings.timeouts.engineSeconds
          else settings.timeouts.ofStage stage) ∧
      call.command.timeoutSeconds = .finite (n : Rat) ∧ 1 ≤ n ∧ n ≤ (if stage = .engine then 86400 else 3600) ∧
      ProcessHost.isBudget call.command.timeoutSeconds = true ∧
      Number.mul call.command.timeoutSeconds 1000 = .finite ((n * 1000 : Nat) : Rat) ∧ n * 1000 ≤ 2147483647 := by
  rcases c.calls_cases inputs s stderr with hnone | ⟨a, settings, toolchain, hparse, hproblem, hconfigure, hcalls⟩
  · rw [hnone] at hcall
    cases hcall
  · rw [hcalls] at hcall
    obtain ⟨workDir, spec, -, hspec, hcommand⟩ := Verifier.command_of_call hcall
    obtain ⟨hstage, hseconds⟩ := Plan.stage_of_getElem? hspec
    have haccepted : (timeouts a settings).Accepted :=
      accepted_timeouts (Settings.accepted_of_load (load_of_configure hconfigure)) hproblem
    have hbudget : call.command.timeoutSeconds = (timeouts a settings).ofStage spec.stage := by
      rw [hcommand]
      exact hseconds
    have hchecked : ProcessHost.isBudget call.command.timeoutSeconds = true := by
      rw [hcommand]
      exact Plan.isBudget_of_mem haccepted (List.mem_of_getElem? hspec)
    obtain ⟨n, hn, hleast, hmost⟩ := haccepted.seconds spec.stage
    have hday : n ≤ 86400 := by
      refine Nat.le_trans hmost ?_
      split <;> decide
    have hmilliseconds : n * 1000 ≤ Nat.pow 2 53 := Nat.le_trans (Nat.mul_le_mul_right 1000 hday) (by decide)
    refine ⟨a, settings, toolchain, spec.stage, n, hparse, hconfigure, hstage, ?_, hbudget.trans hn, hleast, hmost,
      hchecked, ?_, by omega⟩
    · rw [hbudget]
      cases spec.stage <;> rfl
    · rw [hbudget, hn]
      exact Number.mul_thousand hleast hmilliseconds

/-- A command with budgets from both sources, one of them written as no whole number usually is. -/
def preparedBudgets : RunCommand Playback :=
  { prepared preparedClock with
    environment := [("P4VERDICT_WORK_ROOT", "/w"), ("P4VERDICT_NATIVE_TIMEOUT_SECONDS", " 3.6e3 "),
      ("P4VERDICT_ENGINE_TIMEOUT_SECONDS", "1")] }

/-- The engine has the day that the argument gives it and not the second of the environment. -/
theorem preparedBudgets_kept :
    ∃ call, (preparedBudgets.calls ["/p.p4", "rules.txt", "086400"]
        (.prepared (preparedAnswers (.ok ProcessHost.abortedResult))) {})[3]? = some call ∧
      call.command.timeoutSeconds = 86400 ∧ ProcessHost.isBudget call.command.timeoutSeconds = true ∧
      ∃ n : Nat, call.command.timeoutSeconds = .finite (n : Rat) ∧ 1 ≤ n ∧ n * 1000 ≤ 2147483647 := by
  have hseen : (preparedBudgets.calls ["/p.p4", "rules.txt", "086400"]
      (.prepared (preparedAnswers (.ok ProcessHost.abortedResult))) {}).map (·.command.timeoutSeconds) =
        [60, 120, 3600, 86400] := by
    decide +kernel
  have hfourth := congrArg (fun l => l[3]?) hseen
  rw [List.getElem?_map] at hfourth
  obtain ⟨call, hcall, hseconds⟩ := Option.map_eq_some_iff.mp hfourth
  obtain ⟨a, settings, toolchain, stage, n, -, -, -, -, hn, hleast, -, hbudget, -, hmilliseconds⟩ :=
    calls_budgeted preparedBudgets _ _ _ hcall
  exact ⟨call, hcall, hseconds, hbudget, n, hn, hleast, hmilliseconds⟩

end RunCommand

end DataplaneVerdict
