import DataplaneVerdict.Proofs.Renaming

/-!
# `Proofs.Reproducibility` — runs with another id

The id of a work directory is drawn at random. Two runs of one request that differ in this id only are compared here,
with executors that do the same up to the name of the directory. Every step of the one run has its counterpart in the
other: the directories are made or not, each stage goes alike, the engine's evidence reads the same, the directories are
given back or not. The id shows in five messages only, all of which quote a path in the directory (`Renaming.Quotes`),
and all of which report an error.

## Contents
- **Messages and reports.** `Renaming.Quotes`, `Renaming.Reports`; `Sinks.emit` writes corresponding reports.
- **Stages.** `Renaming.judge_cases`: results count alike.
- **Runs.** `Renaming.States`, `Renaming.Mirrors`, and from one build stage (`Steps.cases`) to the build part
  (`runBuild_agree`), the engine (`runEngine_agree`) and all of the work (`execute_agree`).
- **Whole runs.** `Renaming.Runs` and `Renaming.verify_reproduced`; a run whose report shows the id.
-/

namespace DataplaneVerdict

attribute [local irreducible] WorkDir.create WorkDir.remove Evidence.scan

/-! ## Runs in another directory -/

/-- The plan of a run in another directory. -/
def PlanInput.inDirectory (i : PlanInput) (workDir : String) : PlanInput :=
  { i with artifacts := Artifacts.derive workDir i.sourceFile }

theorem PlanInput.engineOutDir_inDirectory (i : PlanInput) (workDir : String) :
    (i.inDirectory workDir).artifacts.engineOutDir = Path.join workDir "klee-out" := rfl

theorem Verifier.engineRun_inDirectory (i : PlanInput) (workDir workDir' : String) (reply : Reply) :
    engineRun (Plan.engineSpec (i.inDirectory workDir')) reply =
      engineRun (Plan.engineSpec (i.inDirectory workDir)) reply := by
  have hstage : ∀ j, (Plan.engineSpec j).stage = .engine := fun _ => rfl
  have hseconds : ∀ w, (Plan.engineSpec (i.inDirectory w)).timeoutSeconds = i.timeouts.engineSeconds := fun _ => rfl
  cases reply with
  | error failure => simp only [engineRun, hstage]
  | ok x => simp only [engineRun, hstage, hseconds]

/-- The run in another directory. -/
def Run.inDirectory (run : Run) (workDir : String) : Run := { run with workDir := workDir }

namespace Verifier

variable {σ : Type} {v : Verifier σ} {runId : String} {request : Request} {s : RunState σ} {workDir : String}

/-- The call of the engine is one of the calls of the run. -/
theorem callOf_engine_mem_calls {run : Run} {log : List String} {s₁ : RunState σ}
    (hcreated : (v.opened s).1 = .ok workDir)
    (hbuilt : v.runBuild [] ((Run.fresh runId request (v.clock s.world.readings) workDir).standing .frontend [.init])
      (Plan.ofInput (v.plan request s workDir)).build (v.entered s) = (.ok (.built run log), s₁)) :
    v.callOf (Plan.engineSpec (v.plan request s workDir)) s₁ ∈ v.calls runId request s := by
  have hrecorded := runBuild_mapMemory (answers_recording v) []
    ((Run.fresh runId request (v.clock s.world.readings) workDir).standing .frontend [.init])
    (Plan.ofInput (v.plan request s workDir)).build (v.recording.entered s.recording)
  have hsame : (v.recording.withExecutor v.executor).runBuild []
      ((Run.fresh runId request (v.clock s.world.readings) workDir).standing .frontend [.init])
      (Plan.ofInput (v.plan request s workDir)).build ((v.recording.entered s.recording).mapMemory Prod.fst) =
      (.ok (.built run log), s₁) := hbuilt
  rw [hsame] at hrecorded
  have hplan : v.recording.plan request s.recording workDir = v.plan request s workDir := rfl
  have hclock : v.recording.clock s.recording.world.readings = v.clock s.world.readings := rfl
  rw [calls_of_opened hcreated, settled, afterCalls, hplan, hclock]
  revert hrecorded
  rcases v.recording.runBuild [] _ _ (v.recording.entered s.recording) with ⟨result, s₂⟩
  intro hrecorded
  obtain ⟨rfl, rfl⟩ := Prod.mk.inj hrecorded
  exact List.mem_append_right _ List.mem_cons_self

end Verifier

theorem WorkDir.cwd_create {fs fs' : FileSystem} {root name id path : String}
    (h : create fs root name id = (.ok path, fs')) : fs'.cwd = fs.cwd := by
  obtain ⟨-, fs₁, hroot, hmade⟩ := create_eq_ok h
  rw [(FileSystem.mkdir?_taken hmade).2.1, (FileSystem.mkdirRecursive_taken hroot).2.1]

namespace Renaming

variable {r : Renaming} {root : Location}

/-! ## Texts that quote a path -/

/-- The messages that quote a path in the work directory. -/
inductive Quotes : (String → String) → Prop
  /-- a stage left out its artifact -/
  | missing (label output : String) : Quotes fun p => (StageFailure.compilation label output (some p)).details
  /-- the output of a stage could not be kept -/
  | unkept (label : String) {problem : FileProblem} (h : problem ≠ .zeroByte) :
      Quotes fun p => (StageFailure.execution label (FileError.message ⟨problem, .open, some p⟩)).details
  /-- the directory could not be made -/
  | unmade {problem : FileProblem} (h : problem ≠ .zeroByte) :
      Quotes fun p => "Pipeline error: " ++ FileError.message ⟨problem, .mkdir, some p⟩
  /-- the engine's directory could not be listed -/
  | unlisted : Quotes fun p => "Pipeline error: " ++ FileError.message ⟨.denied, .scandir, some p⟩
  /-- the directory could not be given back -/
  | refused : Quotes fun p => "Pipeline error: " ++ (Failure.refusedRemoval p).message

/-- Texts that quote the same path in the one and in the other directory of a root. -/
def Details (r : Renaming) (root : Location) (t u : String) : Prop :=
  ∃ form below, Quotes form ∧ t = form (Location.text (root ++ r.old :: below)) ∧
    u = form (Location.text (root ++ r.new :: below))

theorem Quotes.details {form : String → String} (h : Quotes form) (below : Location) :
    r.Details root (form (Location.text (root ++ r.old :: below))) (form (Location.text (root ++ r.new :: below))) :=
  ⟨form, below, h, rfl, rfl⟩

theorem message_around {problem : FileProblem} (h : problem ≠ .zeroByte) (call : FileCall) (p : String) :
    ∃ x y, FileError.message ⟨problem, call, some p⟩ = x ++ p ++ y :=
  ⟨problem.code ++ ": " ++ problem.wording ++ ", " ++ call.name ++ " '", "'", by
    simp only [FileError.message, if_neg h, String.append_assoc]⟩

/-- Such a message has the whole path in it. -/
theorem Quotes.around {form : String → String} (h : Quotes form) {p : String} (hp : p ≠ "") :
    ∃ x y, form p = x ++ p ++ y := by
  cases h with
  | missing label output =>
    refine ⟨label ++ " failed:\n" ++ output ++ "\nMissing artifact: ", "", ?_⟩
    simp only [StageFailure.details, String.isEmpty_iff, hp, if_false, String.append_assoc, String.append_empty]
  | unkept label hproblem =>
    obtain ⟨x, y, hmessage⟩ := message_around hproblem .open p
    exact ⟨label ++ " error: " ++ x, y, by simp only [StageFailure.details, hmessage, String.append_assoc]⟩
  | unmade hproblem =>
    obtain ⟨x, y, hmessage⟩ := message_around hproblem .mkdir p
    exact ⟨"Pipeline error: " ++ x, y, by simp only [hmessage, String.append_assoc]⟩
  | unlisted =>
    obtain ⟨x, y, hmessage⟩ := message_around (show FileProblem.denied ≠ .zeroByte by decide) .scandir p
    exact ⟨"Pipeline error: " ++ x, y, by simp only [hmessage, String.append_assoc]⟩
  | refused =>
    refine ⟨"Pipeline error: " ++ "Refusing to remove directory outside work root: ", "", ?_⟩
    rw [String.append_empty, String.append_assoc]
    rfl

theorem infix_join {names : List String} {n : String} (h : n ∈ names) : n.toList <:+: (Text.join "/" names).toList := by
  induction names with
  | nil => exact absurd h List.not_mem_nil
  | cons m names ih =>
    cases names with
    | nil => rw [List.mem_singleton.mp h]; exact List.infix_rfl
    | cons k names =>
      rw [Text.join, String.toList_append, String.toList_append]
      rcases List.mem_cons.mp h with rfl | h
      · exact ⟨[], "/".toList ++ (Text.join "/" (k :: names)).toList, by simp⟩
      · exact (ih h).trans (List.suffix_append _ _).isInfix

/-- Such a text mentions the directory. -/
theorem Details.mentioned {t u : String} (h : r.Details root t u) : Text.contains t r.old = true := by
  obtain ⟨form, below, hform, rfl, -⟩ := h
  obtain ⟨x, y, hquoted⟩ := hform.around (Location.text_ne_empty (root ++ r.old :: below))
  have hpath : r.old.toList <:+: (Location.text (root ++ r.old :: below)).toList := by
    rw [Location.text, String.toList_append]
    exact (infix_join (by simp)).trans (List.suffix_append _ _).isInfix
  rw [Text.contains_iff, hquoted, String.toList_append, String.toList_append]
  exact hpath.trans ⟨x.toList, y.toList, rfl⟩

/-! ## Reports -/

/-- Reports that are the same, or report an error and differ in the path that their details quote. -/
def Reports (r : Renaming) (root : Location) (a b : Report) : Prop :=
  b = a ∨ a.verdict = .error ∧ ∃ u, r.Details root a.details u ∧ b = { a with details := u }

/-- Lines that are the same, or those of such reports. -/
def Lines (r : Renaming) (root : Location) (x y : String) : Prop :=
  y = x ∨ ∃ a b, r.Reports root a b ∧ x = a.line ∧ y = b.line

/-- Outcomes with such reports that are the same otherwise. -/
def Outcomes (r : Renaming) (root : Location) (o o' : Outcome) : Prop :=
  ∃ b, o' = { o with report := b } ∧ r.Reports root o.report b

/-- Writers that fail alike and have written such lines. -/
structure Sinks (r : Renaming) (root : Location) (k k' : Sink) : Prop where
  refuse : k'.refuse = k.refuse
  attempts : k'.attempts = k.attempts
  lines : List.Forall₂ (r.Lines root) k.lines k'.lines

theorem Outcomes.eq_of_unmentioned {o o' : Outcome} (h : r.Outcomes root o o')
    (ho : o.report.verdict ≠ .error ∨ Text.contains o.report.details r.old = false) : o' = o := by
  obtain ⟨b, rfl, rfl | ⟨herror, u, hdetails, -⟩⟩ := h
  · rfl
  · have hmentioned := hdetails.mentioned
    rcases ho with hverdict | hsilent
    · exact absurd herror hverdict
    · rw [hsilent] at hmentioned
      cases hmentioned

theorem sinks_self (k : Sink) : r.Sinks root k k := ⟨rfl, rfl, List.forall₂_same.mpr fun _ _ => .inl rfl⟩

theorem Sinks.write {k k' : Sink} (h : r.Sinks root k k') {x y : String} (hlines : r.Lines root x y) :
    (k'.write y).1 = (k.write x).1 ∧ r.Sinks root (k.write x).2 (k'.write y).2 := by
  unfold Sink.write
  rw [h.refuse, h.attempts]
  cases k.refuse k.attempts with
  | some f => exact ⟨rfl, rfl, rfl, h.lines⟩
  | none => exact ⟨rfl, rfl, rfl, List.rel_append h.lines (.cons hlines .nil)⟩

/-- Logs that come to the same text, or quote a path in the report of an error. -/
def Logs (r : Renaming) (root : Location) (verdict : Value) (log log' : List String) : Prop :=
  Text.join "\n" log' = Text.join "\n" log ∨
    verdict = .str Verdict.error.name ∧ r.Details root (Text.join "\n" log) (Text.join "\n" log')

theorem Logs.reports {d : Draft} {log : List String} {a : Report} (h : r.Logs root d.verdict d.log log)
    (hassemble : Report.assemble d = .ok a) : r.Reports root a { a with details := Text.join "\n" log } := by
  rw [Logs, ← Report.details_of_assemble hassemble] at h
  rcases h with hsame | ⟨hverdict, hdetails⟩
  · exact .inl (by rw [hsame])
  · obtain ⟨verdict, startedAt, finishedAt, draftLog, evidence⟩ := d
    obtain rfl : verdict = .str Verdict.error.name := hverdict
    exact .inr ⟨Report.verdict_of_assemble hassemble, _, hdetails, rfl⟩

/-- **Reporting alike**: of drafts with such logs, the same becomes of both. -/
theorem Sinks.emit {k k' : Sink} (h : r.Sinks root k k') (d : Draft) {log : List String}
    (hlogs : r.Logs root d.verdict d.log log) :
    Agree (r.Reports root) (k.emit d).1 (k'.emit { d with log := log }).1 ∧
      r.Sinks root (k.emit d).2 (k'.emit { d with log := log }).2 := by
  have hfallback : ∀ {k k' : Sink} (message : String), r.Sinks root k k' →
      r.Sinks root (k.emitFallback d message).2 (k'.emitFallback { d with log := log } message).2 :=
    fun message hk => (hk.write (.inl rfl)).2
  unfold Sink.emit
  rw [Report.assemble_log d log]
  cases hassemble : Report.assemble d with
  | error issues => exact ⟨.ok (.inl rfl), hfallback _ h⟩
  | ok a =>
    have hreports := hlogs.reports hassemble
    obtain ⟨hwritten, hsinks⟩ := h.write (.inr ⟨a, _, hreports, rfl, rfl⟩)
    simp only [Except.map]
    rcases hk : k.write a.line with ⟨result, k₁⟩
    rcases hk' : k'.write (Report.line { a with details := Text.join "\n" log }) with ⟨result', k₁'⟩
    rw [hk, hk'] at hwritten hsinks
    obtain rfl : result' = result := hwritten
    cases result' with
    | ok => exact ⟨.ok hreports, hsinks⟩
    | error f =>
      -- what takes the place of a report that was refused quotes the writer, not the log
      dsimp only
      cases f.text with
      | error g => exact ⟨.error g, hsinks⟩
      | ok message => exact ⟨.ok (.inl rfl), hfallback message hsinks⟩

/-! ## Stages -/

/-- A root that names neither directory, however its slashes lean. -/
structure Home (r : Renaming) (root : Location) : Prop where
  proper : root.Proper
  unnamed : ∀ n ∈ root, r.Unnamed n

/-- The one directory in a root. -/
def here (r : Renaming) (root : Location) : String := Location.text (root ++ [r.old])

/-- The other directory in that root. -/
def there (r : Renaming) (root : Location) : String := Location.text (root ++ [r.new])

theorem Home.kept (h : r.Home root) : r.location root = root :=
  (List.map_congr_left fun n hn => name_of_keeps (h.unnamed n hn).keeps).trans (List.map_id _)

theorem Home.proper_inside (h : r.Home root) {n : String} (hn : Path.IsName n) :
    Location.Proper (root ++ [r.old, n]) := by
  intro m hm
  rcases List.mem_append.mp hm with hm | hm
  · exact h.proper m hm
  · rcases List.mem_pair.mp hm with rfl | rfl
    · exact isName_old
    · exact hn

theorem Home.location_inside (h : r.Home root) {n : String} (hn : r.Keeps n) :
    r.location (root ++ [r.old, n]) = root ++ [r.new, n] := by
  rw [location, List.map_append, ← location, h.kept, List.map_cons, List.map_singleton, name_old, name_of_keeps hn]

/-- The same file in the one and the other directory. -/
def Inside (r : Renaming) (root : Location) (p q : String) : Prop :=
  ∃ n, Path.IsName n ∧ r.Keeps n ∧ p = Location.text (root ++ [r.old, n]) ∧ q = Location.text (root ++ [r.new, n])

theorem Inside.paths (h : r.Home root) {p q : String} (hinside : r.Inside root p q) : r.Paths p q := by
  obtain ⟨n, hn, hkeeps, rfl, rfl⟩ := hinside
  rw [← h.location_inside hkeeps]
  exact paths_text (h.proper_inside hn)

/-- Stages that differ in the files they name, and these in the directory. -/
structure Specs (r : Renaming) (root : Location) (a b : StageSpec) : Prop where
  stage : b.stage = a.stage
  timeoutSeconds : b.timeoutSeconds = a.timeoutSeconds
  logStream : b.logStream = a.logStream
  artifacts : List.Forall₂ (r.Inside root) a.expectedArtifacts b.expectedArtifacts
  capture : Option.Rel (r.Inside root) a.captureStdoutTo b.captureStdoutTo

/-- Failures of stages whose details differ at most in a path. -/
structure Failures (r : Renaming) (root : Location) (f g : StageFailure) : Prop where
  details : g.details = f.details ∨ r.Details root f.details g.details
  event : Verifier.failureEvent g = Verifier.failureEvent f

theorem failures_self (f : StageFailure) : r.Failures root f f := ⟨.inl rfl, rfl⟩

section Stage

open Verifier

variable {a b : StageSpec} {fs gs : FileSystem}

theorem missingArtifact_cases (h : r.Home root) (hspecs : r.Specs root a b) (hfiles : r.Files fs gs) :
    (missingArtifact? a fs = none ∧ missingArtifact? b gs = none) ∨
      ∃ p q, missingArtifact? a fs = some p ∧ missingArtifact? b gs = some q ∧ r.Inside root p q := by
  unfold missingArtifact?
  have hartifacts := hspecs.artifacts
  generalize a.expectedArtifacts = ps at hartifacts
  generalize b.expectedArtifacts = qs at hartifacts
  induction hartifacts with
  | nil => exact .inl ⟨rfl, rfl⟩
  | @cons p q ps qs hpq _ ih =>
    rw [List.find?_cons, List.find?_cons, hfiles.pathExists_eq (hpq.paths h)]
    cases fs.pathExists p with
    | true => exact ih
    | false => exact .inr ⟨p, q, rfl, rfl, hpq⟩

/-- The output of both stages is kept, or that of neither. -/
theorem capture_cases (h : r.Home root) (hspecs : r.Specs root a b) (hfiles : r.Files fs gs)
    (hzero : ∀ p, a.captureStdoutTo = some p → '\x00' ∉ p.toList) (x : StageResult) :
    (∃ fs' gs', capture a x fs = .ok fs' ∧ capture b x gs = .ok gs' ∧ r.Files fs' gs') ∨
      ∃ f g, capture a x fs = .error f ∧ capture b x gs = .error g ∧ r.Failures root f g := by
  unfold capture
  rw [hspecs.stage]
  have hcapture := hspecs.capture
  generalize b.captureStdoutTo = q? at hcapture
  cases hp : a.captureStdoutTo with
  | none =>
    rw [hp] at hcapture
    cases hcapture
    exact .inl ⟨fs, gs, rfl, rfl, hfiles⟩
  | some p =>
    rw [hp] at hcapture
    cases hcapture with
    | @some _ q hpq =>
      rcases hfiles.writeBytes_cases (hpq.paths h) (hzero p hp) (Utf8.encode x.stdout) with
        ⟨fs', gs', hfs, hgs, hfiles'⟩ | ⟨e, f, hfs, hgs, herrors⟩
      · exact .inl ⟨fs', gs', by simp only [hfs], by simp only [hgs], hfiles'⟩
      · refine .inr ⟨.execution a.stage.label e.message, .execution a.stage.label f.message, by simp only [hfs],
          by simp only [hgs], ?_⟩
        rcases herrors with rfl | ⟨problem, hproblem, rfl, rfl⟩
        · exact failures_self _
        · obtain ⟨n, -, -, rfl, rfl⟩ := hpq
          have hevent : ∀ m, failureEvent (.execution a.stage.label m) = .stageFailed := fun _ => rfl
          exact ⟨.inr ((Quotes.unkept a.stage.label hproblem).details [n]), (hevent _).trans (hevent _).symm⟩

/-- **Both results count alike**: both stages pass, or both stop the run with the same message but for a path. -/
theorem judge_cases (h : r.Home root) (hspecs : r.Specs root a b) (hfiles : r.Files fs gs)
    (hzero : ∀ p, a.captureStdoutTo = some p → '\x00' ∉ p.toList) (x : StageResult) :
    ∃ fs' gs', r.Files fs' gs' ∧
      ((judge a x fs = (.ok (), fs') ∧ judge b x gs = (.ok (), gs')) ∨
        ∃ f g, judge a x fs = (.error f, fs') ∧ judge b x gs = (.error g, gs') ∧ r.Failures root f g) := by
  have hdiagnostic : diagnostic b x = diagnostic a x := by rw [diagnostic, diagnostic, hspecs.logStream]
  have hsuccess : x.status.isSuccess = true → ∃ fs' gs', r.Files fs' gs' ∧
      ((judge a x fs = (.ok (), fs') ∧ judge b x gs = (.ok (), gs')) ∨
        ∃ f g, judge a x fs = (.error f, fs') ∧ judge b x gs = (.error g, gs') ∧ r.Failures root f g) := by
    intro hst
    rcases capture_cases h hspecs hfiles hzero x with ⟨fs', gs', hfs, hgs, hfiles'⟩ | ⟨f, g, hfs, hgs, hfailures⟩
    · refine ⟨fs', gs', hfiles', ?_⟩
      rcases missingArtifact_cases h hspecs hfiles' with ⟨hp, hq⟩ | ⟨p, q, hp, hq, hpq⟩
      · exact .inl ⟨judge_of_complete hst hfs hp, judge_of_complete hst hgs hq⟩
      · refine .inr ⟨_, _, judge_of_missing hst hfs hp, judge_of_missing hst hgs hq, ?_⟩
        obtain ⟨n, -, -, rfl, rfl⟩ := hpq
        rw [hspecs.stage, hdiagnostic]
        have hevent : ∀ m, failureEvent (.compilation a.stage.label (diagnostic a x) m) = .stageFailed := fun _ => rfl
        exact ⟨.inr ((Quotes.missing a.stage.label (diagnostic a x)).details [n]), (hevent _).trans (hevent _).symm⟩
    · exact ⟨fs, gs, hfiles, .inr ⟨f, g, judge_of_capture_error hst hfs, judge_of_capture_error hst hgs, hfailures⟩⟩
  have hstopped : ∀ f, judge a x fs = (.error f, fs) → judge b x gs = (.error f, gs) → ∃ fs' gs', r.Files fs' gs' ∧
      ((judge a x fs = (.ok (), fs') ∧ judge b x gs = (.ok (), gs')) ∨
        ∃ f g, judge a x fs = (.error f, fs') ∧ judge b x gs = (.error g, gs') ∧ r.Failures root f g) :=
    fun f hfs hgs => ⟨fs, gs, hfiles, .inr ⟨f, f, hfs, hgs, failures_self f⟩⟩
  cases hst : x.status with
  | success => exact hsuccess (by rw [hst]; rfl)
  | foreign name => exact hsuccess (by rw [hst]; rfl)
  | aborted =>
    exact hstopped (.aborted a.stage.label) (by simp only [judge, hst]) (by simp only [judge, hst, hspecs.stage])
  | timedOut =>
    exact hstopped (.timeout a.stage.label a.timeoutSeconds (diagnostic a x)) (by simp only [judge, hst])
      (by simp only [judge, hst, hspecs.stage, hspecs.timeoutSeconds, hdiagnostic])
  | failed =>
    exact hstopped (.compilation a.stage.label (diagnostic a x) none) (by simp only [judge, hst])
      (by simp only [judge, hst, hspecs.stage, hdiagnostic])

end Stage

/-! ## Runs -/

/-- Worlds that are the same up to the name of the directory. -/
structure Worlds (r : Renaming) (w w' : World) : Prop where
  files : r.Files w.files w'.files
  readings : w'.readings = w.readings
  draws : w'.draws = w.draws

/-- **Executors that mirror each other**: in worlds that are the same up to the name of the directory, with memories
    that correspond, the command `c` of the one run and the command `c'` of the other get the same answer, and the
    worlds and the memories correspond again. -/
def Mirrors {σ τ : Type} (r : Renaming) (R : σ → τ → Prop) (e : Executor σ) (e' : Executor τ) (c c' : Command) : Prop :=
  ∀ w w' m m', r.Worlds w w' → R m m' →
    (e'.call c' w' m').1 = (e.call c w m).1 ∧ r.Worlds (e.call c w m).2.1 (e'.call c' w' m').2.1 ∧
      R (e.call c w m).2.2 (e'.call c' w' m').2.2

/-- States of the two runs. -/
structure States {σ τ : Type} (r : Renaming) (root : Location) (R : σ → τ → Prop) (s : RunState σ) (t : RunState τ) :
    Prop where
  world : r.Worlds s.world t.world
  memory : R s.memory t.memory
  sink : r.Sinks root s.sink t.sink

section Run

open Verifier

variable {σ τ : Type} {R : σ → τ → Prop} {v : Verifier σ} {v' : Verifier τ} {s : RunState σ} {t : RunState τ}
  {a b : StageSpec} {workDir : String}

/-- Results that correspond, in states that correspond. -/
structure Alike {α β : Type} (r : Renaming) (root : Location) (R : σ → τ → Prop) (Q : α → β → Prop)
    (x : Except Failure α × RunState σ) (y : Except Failure β × RunState τ) : Prop where
  result : Agree Q x.1 y.1
  state : r.States root R x.2 y.2

theorem States.setFiles (h : r.States root R s t) {fs gs : FileSystem} (hfiles : r.Files fs gs) :
    r.States root R (HasFiles.setFiles s fs) (HasFiles.setFiles t gs) :=
  ⟨⟨hfiles, h.world.readings, h.world.draws⟩, h.memory, h.sink⟩

theorem States.issue (h : r.States root R s t)
    (hmirrors : r.Mirrors R v.executor v'.executor (commandOf a) (commandOf b)) :
    (v'.issue b t).1 = (v.issue a s).1 ∧ r.States root R (v.issue a s).2 (v'.issue b t).2 := by
  obtain ⟨hreply, hworld, hmemory⟩ := hmirrors _ _ _ _ h.world h.memory
  exact ⟨hreply, hworld, hmemory, h.sink⟩

theorem move_inDirectory (run : Run) (event : Event) :
    move (run.inDirectory workDir) event = (move run event).map (·.inDirectory workDir) := by
  unfold move Run.advance
  have hphase : (run.inDirectory workDir).phase = run.phase := rfl
  rw [hphase]
  cases run.phase.next? event with
  | none => rfl
  | some p => rfl

/-- What two build stages need to go alike. -/
structure Steps (r : Renaming) (root : Location) (R : σ → τ → Prop) (v : Verifier σ) (v' : Verifier τ)
    (a b : StageSpec) : Prop where
  specs : r.Specs root a b
  mirrors : r.Mirrors R v.executor v'.executor (commandOf a) (commandOf b)
  noZero : ∀ p, a.captureStdoutTo = some p → '\x00' ∉ p.toList

/-- **One build stage** goes alike in both runs: it loses both, stops both, or passes in both. -/
theorem Steps.cases (h : r.Home root) (hstep : r.Steps root R v v' a b) (hstates : r.States root R s t) :
    ∃ s₁ t₁, r.States root R s₁ t₁ ∧
      ((∃ f, v.runBuildStage a s = (.error f, s₁) ∧ v'.runBuildStage b t = (.error f, t₁)) ∨
      (∃ f g, v.runBuildStage a s = (.ok (.error f), s₁) ∧ v'.runBuildStage b t = (.ok (.error g), t₁) ∧
        r.Failures root f g) ∨
      ∃ entry, v.runBuildStage a s = (.ok (.ok entry), s₁) ∧ v'.runBuildStage b t = (.ok (.ok entry), t₁)) := by
  obtain ⟨hreply, hissued⟩ := hstates.issue hstep.mirrors
  unfold runBuildStage
  revert hreply hissued
  rcases v.issue a s with ⟨reply, s₁⟩
  rcases v'.issue b t with ⟨reply', t₁⟩
  rintro (rfl : reply' = reply) hissued
  cases reply' with
  | error failure =>
    refine ⟨s₁, t₁, hissued, ?_⟩
    dsimp only
    cases failure.text with
    | error g => exact .inl ⟨g, rfl, rfl⟩
    | ok reason =>
      refine .inr (.inl ⟨_, _, rfl, rfl, ?_⟩)
      rw [hstep.specs.stage]
      exact failures_self _
  | ok x =>
    obtain ⟨fs, gs, hfiles, hjudged⟩ := judge_cases h hstep.specs hissued.world.files hstep.noZero x
    refine ⟨_, _, hissued.setFiles hfiles, ?_⟩
    dsimp only
    rcases hjudged with ⟨hfs, hgs⟩ | ⟨f, g, hfs, hgs, hfailures⟩
    · refine .inr (.inr ⟨stageEntry a x, by rw [hfs]; rfl, ?_⟩)
      rw [hgs, show stageEntry a x = stageEntry b x by
        rw [stageEntry, stageEntry, hstep.specs.stage, hstep.specs.logStream]]
      rfl
    · exact .inr (.inl ⟨f, g, by rw [hfs]; rfl, by rw [hgs]; rfl, hfailures⟩)

/-- Ends of the build part in the two directories. -/
inductive BuildEnds (r : Renaming) (root : Location) (workDir : String) : BuildEnd → BuildEnd → Prop
  | stopped (run : Run) {f g : StageFailure} (h : r.Failures root f g) :
      BuildEnds r root workDir (.stopped run f) (.stopped (run.inDirectory workDir) g)
  | built (run : Run) (log : List String) :
      BuildEnds r root workDir (.built run log) (.built (run.inDirectory workDir) log)

/-- **The build part** goes alike in both runs. -/
theorem runBuild_agree (h : r.Home root) {specs specs' : List StageSpec}
    (hsteps : List.Forall₂ (r.Steps root R v v') specs specs') (log : List String) (run : Run)
    (hstates : r.States root R s t) :
    r.Alike root R (r.BuildEnds root workDir) (v.runBuild log run specs s)
      (v'.runBuild log (run.inDirectory workDir) specs' t) := by
  induction hsteps generalizing log run s t with
  | nil => exact ⟨.ok (.built run log), hstates⟩
  | cons hstep _ ih =>
    simp only [runBuild]
    obtain ⟨s₁, t₁, hstates₁, ⟨f, hs, ht⟩ | ⟨f, g, hs, ht, hfailures⟩ | ⟨entry, hs, ht⟩⟩ := hstep.cases h hstates
    · rw [hs, ht]
      exact ⟨.error f, hstates₁⟩
    · rw [hs, ht]
      refine ⟨?_, hstates₁⟩
      dsimp only
      rw [hfailures.event, move_inDirectory]
      cases move run (failureEvent f) with
      | error failure => exact .error failure
      | ok run₁ => exact .ok (.stopped run₁ hfailures)
    · rw [hs, ht]
      dsimp only
      rw [move_inDirectory]
      cases move run .stageSucceeded with
      | error failure => exact ⟨.error failure, hstates₁⟩
      | ok run₁ => exact ih (log ++ [entry]) run₁ hstates₁

/-- **The end of a run**: of conclusions with such logs, the same becomes of both. -/
theorem conclude_agree (hclock : v'.clock = v.clock) (run : Run) (c : Conclusion) {log : List String}
    (hlogs : r.Logs root (.str c.verdict.name) c.log log) (hstates : r.States root R s t) :
    r.Alike root R (r.Outcomes root) (v.conclude run c s)
      (v'.conclude (run.inDirectory workDir) { c with log := log } t) := by
  obtain ⟨hreports, hsinks⟩ := hstates.sink.emit
    ⟨.str c.verdict.name, run.startedAt, v.clock s.world.readings, c.log, c.evidence.map .str⟩ hlogs
  simp only [conclude, readClock, hclock, hstates.world.readings]
  have hstarted : (run.inDirectory workDir).startedAt = run.startedAt := rfl
  rw [hstarted]
  revert hreports hsinks
  rcases s.sink.emit _ with ⟨result, k⟩
  rcases t.sink.emit _ with ⟨result', k'⟩
  intro hreports hsinks
  have hafter : ∀ {x : RunState σ} {y : RunState τ}, r.States root R x y →
      r.States root R { x with sink := k } { y with sink := k' } := fun hxy => ⟨hxy.world, hxy.memory, hsinks⟩
  have hread : r.States root R { s with world := { s.world with readings := s.world.readings + 1 } }
      { t with world := { t.world with readings := s.world.readings + 1 } } :=
    ⟨⟨hstates.world.files, rfl, hstates.world.draws⟩, hstates.memory, hstates.sink⟩
  cases hreports with
  | error failure => exact ⟨.error failure, hafter hread⟩
  | ok hreport =>
    refine ⟨?_, hafter hread⟩
    dsimp only
    rw [move_inDirectory]
    cases move run .reported with
    | error failure => exact .error failure
    | ok done =>
      rcases hreport with rfl | ⟨herror, u, hdetails, rfl⟩
      · exact .ok ⟨_, rfl, .inl rfl⟩
      · exact .ok ⟨_, rfl, .inr ⟨herror, u, hdetails, rfl⟩⟩

/-- Ends of whole runs that correspond. -/
structure Ends (r : Renaming) (root : Location) (x : Except Failure Outcome × RunState σ)
    (y : Except Failure Outcome × RunState τ) : Prop where
  result : Agree (r.Outcomes root) x.1 y.1
  sink : r.Sinks root x.2.sink y.2.sink

/-- **A failure outside the stages**, with a wording that may quote a path. -/
theorem reportFailure_agree (hclock : v'.clock = v.clock) (runId : String) (startedAt : Number) {f g : Failure}
    {x y : String} (hf : f.text = .ok x) (hg : g.text = .ok y)
    (hwords : y = x ∨ r.Details root ("Pipeline error: " ++ x) ("Pipeline error: " ++ y))
    (hsinks : r.Sinks root s.sink t.sink) (hreadings : t.world.readings = s.world.readings) :
    r.Ends root (v.reportFailure runId startedAt f s) (v'.reportFailure runId startedAt g t) := by
  have hlogs : r.Logs root (.str Verdict.error.name) ["Pipeline error: " ++ x] ["Pipeline error: " ++ y] :=
    hwords.imp (fun hsame => by rw [hsame]) fun hdetails => ⟨rfl, hdetails⟩
  obtain ⟨hreports, hsinks'⟩ := hsinks.emit
    ⟨.str Verdict.error.name, startedAt, v.clock s.world.readings, ["Pipeline error: " ++ x], []⟩ hlogs
  simp only [reportFailure, readClock, hf, hg, hclock, hreadings]
  revert hreports hsinks'
  rcases s.sink.emit _ with ⟨result, k⟩
  rcases t.sink.emit _ with ⟨result', k'⟩
  intro hreports hsinks'
  cases hreports with
  | error failure => exact ⟨.error failure, hsinks'⟩
  | ok hreport => exact ⟨.ok ⟨_, rfl, hreport⟩, hsinks'⟩

/-- The same failure is reported alike, or has no words in both runs. -/
theorem reportFailure_same (hclock : v'.clock = v.clock) (runId : String) (startedAt : Number) (f : Failure)
    (hsinks : r.Sinks root s.sink t.sink) (hreadings : t.world.readings = s.world.readings) :
    r.Ends root (v.reportFailure runId startedAt f s) (v'.reportFailure runId startedAt f t) := by
  cases hf : f.text with
  | ok x => exact reportFailure_agree hclock runId startedAt hf hf (.inl rfl) hsinks hreadings
  | error g =>
    simp only [reportFailure, hf]
    exact ⟨.error g, hsinks⟩

/-- Executors that mirror each other on the commands of two plans. -/
structure Mirrored (r : Renaming) (R : σ → τ → Prop) (e : Executor σ) (e' : Executor τ) (i j : PlanInput) : Prop where
  build : List.Forall₂ (fun a b => r.Mirrors R e e' (commandOf a) (commandOf b)) (Plan.ofInput i).build
    (Plan.ofInput j).build
  engine : r.Mirrors R e e' (commandOf (Plan.engineSpec i)) (commandOf (Plan.engineSpec j))

/-! ### The engine -/

theorem unnamed_klee : r.Unnamed "klee-out" := by
  have hparts : Evidence.parts "klee-out" = ["klee-out"] := by decide
  intro m hm
  rw [hparts, List.mem_singleton] at hm
  rw [hm]
  exact keeps_of_short (by decide)

/-- The failure of a scan of the engine's directory in the work directory `name`. -/
def unlisted (root : Location) (name : String) : Failure :=
  .file ⟨.denied, .scandir, some (Location.text (root ++ [name, "klee-out"]))⟩

/-- The engine's directory, in the one run and in the other. -/
theorem scan_agree (h : r.Home root) {fs gs : FileSystem} (hfiles : r.Files fs gs)
    (hsilent : r.Silent fs (Location.text (root ++ [r.old, "klee-out"]))) :
    (∃ evidence evidence', Evidence.scan fs (Location.text (root ++ [r.old, "klee-out"])) = .ok evidence ∧
      Evidence.scan gs (Location.text (root ++ [r.new, "klee-out"])) = .ok evidence' ∧
      evidence'.texts = evidence.texts) ∨
    Evidence.scan fs (Location.text (root ++ [r.old, "klee-out"])) = .error (unlisted root r.old) ∧
      Evidence.scan gs (Location.text (root ++ [r.new, "klee-out"])) = .error (unlisted root r.new) := by
  have hname : Path.IsName "klee-out" := ⟨by decide, by decide, by decide, by decide⟩
  rw [unlisted, unlisted, ← h.location_inside unnamed_klee.keeps]
  refine hfiles.scan (h.proper_inside hname) (by simp) ?_ hsilent
  intro m hm
  rcases List.mem_append.mp hm with hm | hm
  · exact .inr (h.unnamed m hm)
  · rcases List.mem_pair.mp hm with rfl | rfl
    · exact .inl rfl
    · exact .inr unnamed_klee

/-! ### Plans -/

theorem join_old (h : r.Home root) {n : String} (hn : Path.IsName n) :
    Path.join (r.here root) n = Location.text (root ++ [r.old, n]) := by
  have hdir : Location.Proper (root ++ [r.old]) := (Path.join_name h.proper (.inl rfl) isName_old).1
  rw [here, (Path.join_name hdir (.inl rfl) hn).2, List.append_assoc]
  rfl

theorem mem_join_here (h : r.Home root) {n : String} (hn : Path.IsName n) {c : Char} :
    c ∈ (Path.join (r.here root) n).toList ↔ c ∈ (r.here root).toList ∨ c ∈ n.toList := by
  have hdir : Location.Proper (root ++ [r.old]) := (Path.join_name h.proper (.inl rfl) isName_old).1
  rw [here, (Path.join_name hdir (.inl rfl) hn).2, Location.mem_text_child]

theorem join_new (h : r.Home root) {n : String} (hn : Path.IsName n) :
    Path.join (r.there root) n = Location.text (root ++ [r.new, n]) := by
  have hdir : Location.Proper (root ++ [r.new]) := (Path.join_name h.proper (.inl rfl) isName_new).1
  rw [there, (Path.join_name hdir (.inl rfl) hn).2, List.append_assoc]
  rfl

theorem inside_join (h : r.Home root) {n : String} (hn : Path.IsName n) (hkeeps : r.Keeps n) :
    r.Inside root (Path.join (r.here root) n) (Path.join (r.there root) n) :=
  ⟨n, hn, hkeeps, join_old h hn, join_new h hn⟩

/-- A file that is named after the source, in both directories. -/
theorem inside_stem (h : r.Home root) (source extension : String) {c : Char}
    (hlast : extension.toList.getLast? = some c) (hc : c ≠ '.') (hslash : '/' ∉ extension.toList)
    (hdot : '.' ∈ extension.toList) :
    r.Inside root (Path.join (r.here root) (Path.stem source ++ extension))
      (Path.join (r.there root) (Path.stem source ++ extension)) := by
  refine inside_join h (Path.isName_stem source hlast hc hslash) (keeps_of_mem (c := '.') (by decide) ?_)
  rw [String.toList_append]
  exact List.mem_append_right _ hdot

/-- The build stages of a plan in both directories. -/
theorem build_specs (i : PlanInput) {dir dir' : String}
    (hir : r.Inside root (Path.join dir (Path.stem i.sourceFile ++ ".json"))
      (Path.join dir' (Path.stem i.sourceFile ++ ".json")))
    (hc : r.Inside root (Path.join dir (Path.stem i.sourceFile ++ ".c"))
      (Path.join dir' (Path.stem i.sourceFile ++ ".c")))
    (hbitcode : r.Inside root (Path.join dir (Path.stem i.sourceFile ++ ".bc"))
      (Path.join dir' (Path.stem i.sourceFile ++ ".bc"))) :
    List.Forall₂ (r.Specs root) (Plan.ofInput (i.inDirectory dir)).build (Plan.ofInput (i.inDirectory dir')).build :=
  .cons ⟨rfl, rfl, rfl, .cons hir .nil, .none⟩ (.cons ⟨rfl, rfl, rfl, .cons hc .nil, .some hc⟩
    (.cons ⟨rfl, rfl, rfl, .cons hbitcode .nil, .none⟩ .nil))

/-- The work in both directories: it came to the same, or neither of the engine's directories may be listed. -/
inductive Works (r : Renaming) (root : Location) (R : σ → τ → Prop) (x : Except Failure Outcome × RunState σ)
    (y : Except Failure Outcome × RunState τ) : Prop
  | alike (h : r.Alike root R (r.Outcomes root) x y)
  | unlisted (hx : x.1 = .error (unlisted root r.old)) (hy : y.1 = .error (unlisted root r.new))
      (hstates : r.States root R x.2 y.2)

theorem Works.states {x : Except Failure Outcome × RunState σ} {y : Except Failure Outcome × RunState τ}
    (h : r.Works root R x y) : r.States root R x.2 y.2 := by
  cases h with
  | alike h => exact h.state
  | unlisted _ _ hstates => exact hstates

/-- **The engine** goes alike in both runs, if the evidence is silent about the directory. -/
theorem runEngine_agree (h : r.Home root) (hclock : v'.clock = v.clock) (i : PlanInput)
    (hplans : r.Mirrored R v.executor v'.executor (i.inDirectory (r.here root)) (i.inDirectory (r.there root)))
    (run : Run) (log : List String) (hstates : r.States root R s t)
    (hsilent : r.Silent (v.issue (Plan.engineSpec (i.inDirectory (r.here root))) s).2.world.files
      (Path.join (r.here root) "klee-out")) :
    r.Works root R (v.runEngine (i.inDirectory (r.here root)) run log s)
      (v'.runEngine (i.inDirectory (r.there root)) (run.inDirectory workDir) log t) := by
  have hname : Path.IsName "klee-out" := ⟨by decide, by decide, by decide, by decide⟩
  have hlabel : ∀ j, (Plan.engineSpec j).stage.label = Stage.engine.label := fun _ => rfl
  obtain ⟨hreply, hissued⟩ := hstates.issue hplans.engine
  simp only [runEngine, hlabel]
  revert hreply hissued hsilent
  rcases v.issue (Plan.engineSpec (i.inDirectory (r.here root))) s with ⟨reply, s₁⟩
  rcases v'.issue (Plan.engineSpec (i.inDirectory (r.there root))) t with ⟨reply', t₁⟩
  rintro hsilent (rfl : reply' = reply) hissued
  dsimp only at hsilent ⊢
  rw [engineRun_inDirectory i (r.here root) (r.there root)]
  cases engineRun (Plan.engineSpec (i.inDirectory (r.here root))) reply' with
  | error failure => exact .alike ⟨.error failure, hissued⟩
  | ok e =>
    dsimp only
    cases e.aborted with
    | true =>
      rw [if_pos rfl, if_pos rfl, move_inDirectory]
      cases move run .aborted with
      | error failure => exact .alike ⟨.error failure, hissued⟩
      | ok run₁ => exact .alike (conclude_agree hclock run₁ ⟨_, _, _, _, _⟩ (.inl rfl) hissued)
    | false =>
      rw [if_neg Bool.false_ne_true, if_neg Bool.false_ne_true]
      -- both results are the same, so it is the evidence that could tell the runs apart
      rw [join_old h hname] at hsilent
      unfold classifyAndReport
      rw [move_inDirectory, PlanInput.engineOutDir_inDirectory, PlanInput.engineOutDir_inDirectory, join_old h hname,
        join_new h hname]
      cases move run .engineFinished with
      | error failure => exact .alike ⟨.error failure, hissued⟩
      | ok run₁ =>
        obtain ⟨evidence, evidence', hscan, hscan', htexts⟩ | ⟨hscan, hscan'⟩ :=
          scan_agree h hissued.world.files hsilent
        · simp only [Except.map, hscan, hscan']
          rw [htexts, move_inDirectory]
          cases move run₁ .classified with
          | error failure => exact .alike ⟨.error failure, hissued⟩
          | ok run₂ => exact .alike (conclude_agree hclock run₂ ⟨_, _, _, _, _⟩ (.inl rfl) hissued)
        · simp only [Except.map, hscan, hscan']
          exact .unlisted rfl rfl hissued

/-- A stage that cannot have its artifact is the last one. -/
theorem runBuild_of_stuck {rest : List StageSpec} (hstuck : ∀ fs, missingArtifact? a fs ≠ none) (log : List String)
    (run : Run) (s : RunState σ) : v.runBuild log run (a :: rest) s = v.runBuild log run [a] s := by
  have hjudge : ∀ x fs fs', judge a x fs ≠ (.ok (), fs') := by
    intro x fs fs'
    unfold judge
    dsimp only
    repeat' split
    all_goals first
      | exact fun h => absurd ‹_› (hstuck _)
      | exact fun h => by cases (Prod.mk.inj h).1
  simp only [runBuild]
  rcases hstage : v.runBuildStage a s with ⟨result, s₁⟩
  cases result with
  | error f => rfl
  | ok judged =>
    cases judged with
    | error f => rfl
    | ok entry =>
      refine absurd (congrArg Prod.fst hstage) ?_
      unfold runBuildStage
      rcases v.issue a s with ⟨reply, s₂⟩
      cases reply with
      | error f =>
        dsimp only
        cases f.text with
        | error g => exact fun h => by cases h
        | ok reason => exact fun h => by cases h
      | ok x =>
        dsimp only
        rcases hx : judge a x s₂.world.files with ⟨judged, fs⟩
        cases judged with
        | error f => exact fun h => by cases h
        | ok => exact absurd hx (hjudge x _ fs)

/-- Only one stage keeps its output. -/
theorem capture_of_mem_build (i : PlanInput) {dir p : String} (ha : a ∈ (Plan.ofInput (i.inDirectory dir)).build)
    (hp : a.captureStdoutTo = some p) : p = Path.join dir (Path.stem i.sourceFile ++ ".c") := by
  rcases List.mem_cons.mp ha with rfl | ha
  · cases hp
  rcases List.mem_pair.mp ha with rfl | rfl
  · exact (Option.some.inj hp).symm
  · cases hp

/-- The front end cannot write to a path with a zero byte. -/
theorem stuck_of_zero (i : PlanInput) {dir : String}
    (hzero : '\x00' ∈ (Path.join dir (Path.stem i.sourceFile ++ ".json")).toList) (fs : FileSystem) :
    missingArtifact? (Plan.frontendSpec (i.inDirectory dir)) fs ≠ none := by
  have hmissing : fs.pathExists (Path.join dir (Path.stem i.sourceFile ++ ".json")) = false := by
    rw [Bool.eq_false_iff]
    intro hexists
    unfold FileSystem.pathExists at hexists
    split at hexists
    · rename_i hfind
      exact Files.noZero_of_locate (FileSystem.find_eq_ok_iff.mp hfind) hzero
    · cases hexists
  intro hnone
  have hthere := List.find?_eq_none.mp hnone _ (List.mem_singleton.mpr rfl)
  rw [show (i.inDirectory dir).artifacts.irFile = Path.join dir (Path.stem i.sourceFile ++ ".json") from rfl,
    hmissing] at hthere
  exact hthere rfl

/-- **The build part of a plan** goes alike in both directories. -/
theorem build_agree (h : r.Home root) (i : PlanInput)
    (hplans : r.Mirrored R v.executor v'.executor (i.inDirectory (r.here root)) (i.inDirectory (r.there root)))
    (run : Run) (hstates : r.States root R s t) :
    r.Alike root R (r.BuildEnds root workDir) (v.runBuild [] run (Plan.ofInput (i.inDirectory (r.here root))).build s)
      (v'.runBuild [] (run.inDirectory workDir) (Plan.ofInput (i.inDirectory (r.there root))).build t) := by
  have hmirrors := hplans.build
  have hir := inside_stem h i.sourceFile ".json" (c := 'n') (by decide) (by decide) (by decide) (by decide)
  have hc := inside_stem h i.sourceFile ".c" (c := 'c') (by decide) (by decide) (by decide) (by decide)
  have hbitcode := inside_stem h i.sourceFile ".bc" (c := 'c') (by decide) (by decide) (by decide) (by decide)
  have hspecs := build_specs i hir hc hbitcode
  by_cases hzero : '\x00' ∈ (Path.join (r.here root) (Path.stem i.sourceFile ++ ".c")).toList
  · -- the front end stops both runs before any output is kept
    have hzero' : '\x00' ∈ (Path.join (r.here root) (Path.stem i.sourceFile ++ ".json")).toList := by
      rw [mem_join_here h (Path.isName_stem _ (c := 'c') (by decide) (by decide) (by decide)), String.toList_append,
        List.mem_append] at hzero
      rw [mem_join_here h (Path.isName_stem _ (c := 'n') (by decide) (by decide) (by decide)), String.toList_append,
        List.mem_append]
      exact hzero.imp_right fun h' => .inl (h'.resolve_right (by decide))
    have hother := ((hir.paths h).mem_iff (by decide)).mpr hzero'
    have hbuild : ∀ j, (Plan.ofInput j).build = Plan.frontendSpec j :: [Plan.translateSpec j, Plan.nativeSpec j] :=
      fun _ => rfl
    rw [hbuild, hbuild] at hspecs hmirrors ⊢
    rw [runBuild_of_stuck (stuck_of_zero i hzero'), runBuild_of_stuck (stuck_of_zero i hother)]
    cases hspecs with
    | cons hspec _ =>
      cases hmirrors with
      | cons hmirror _ =>
        refine runBuild_agree h (.cons ⟨hspec, hmirror, fun p hp => ?_⟩ .nil) [] run hstates
        cases hp
  · have hnoZero : ∀ a ∈ (Plan.ofInput (i.inDirectory (r.here root))).build,
        ∀ p, a.captureStdoutTo = some p → '\x00' ∉ p.toList := by
      intro a ha p hp
      rwa [capture_of_mem_build i ha hp]
    have hboth := (List.forall₂_and_left _ _).mpr ⟨hnoZero, hspecs⟩
    exact runBuild_agree h (List.Forall₂.mp (fun a b hleft hright => ⟨hleft.2, hright, hleft.1⟩) hboth hmirrors)
      [] run hstates

/-- **The work in the directory** goes alike in both runs. -/
theorem execute_agree (h : r.Home root) (hclock : v'.clock = v.clock) (runId : String) (startedAt : Number)
    (request : Request) (i : PlanInput)
    (hplan : v.planFor request (r.here root) s.world.files = i.inDirectory (r.here root))
    (hplan' : v'.planFor request (r.there root) t.world.files = i.inDirectory (r.there root))
    (hplans : r.Mirrored R v.executor v'.executor (i.inDirectory (r.here root)) (i.inDirectory (r.there root)))
    (hstates : r.States root R s t)
    (hsilent : ∀ run log s₁,
      v.runBuild [] ((Run.fresh runId request startedAt (r.here root)).standing .frontend [.init])
        (Plan.ofInput (i.inDirectory (r.here root))).build s = (.ok (.built run log), s₁) →
      r.Silent (v.callOf (Plan.engineSpec (i.inDirectory (r.here root))) s₁).files
        (Path.join (r.here root) "klee-out")) :
    r.Works root R (v.execute runId startedAt request (r.here root) s)
      (v'.execute runId startedAt request (r.there root) t) := by
  have hstart : ∀ dir, move (Run.fresh runId request startedAt dir) .started =
      .ok ((Run.fresh runId request startedAt dir).standing .frontend [.init]) := fun _ => rfl
  have hfresh : (Run.fresh runId request startedAt (r.there root)).standing .frontend [.init] =
      ((Run.fresh runId request startedAt (r.here root)).standing .frontend [.init]).inDirectory (r.there root) := rfl
  obtain ⟨hends, hbuilt⟩ : r.Alike root R (r.BuildEnds root (r.there root)) _ _ := build_agree h i hplans
    ((Run.fresh runId request startedAt (r.here root)).standing .frontend [.init]) hstates
  simp only [execute, hplan, hplan', hstart]
  rw [hfresh]
  revert hends hbuilt hsilent
  rcases v.runBuild [] _ _ s with ⟨result, s₁⟩
  rcases v'.runBuild [] _ _ t with ⟨result', t₁⟩
  intro hsilent hends hbuilt
  cases hends with
  | error f => exact .alike ⟨.error f, hbuilt⟩
  | ok hend =>
    cases hend with
    | stopped run hfailures =>
      exact .alike (conclude_agree hclock run ⟨.error, _, [_], _, _⟩
        (hfailures.details.imp id fun h => ⟨rfl, h⟩) hbuilt)
    | built run log => exact runEngine_agree h hclock i hplans run log hbuilt (hsilent run log s₁ rfl)

/-! ## Whole runs -/

variable {runId : String} {request : Request}

/-- **Two runs that differ in their ids only**: the same request, settings, tools, clock, writer and files, with
    executors that mirror each other on the commands of the plans. Neither the work root nor the rules file is named
    after one of the directories, and the files do not tell them apart. -/
structure Runs (r : Renaming) (root : Location) (R : σ → τ → Prop) (v : Verifier σ) (v' : Verifier τ)
    (request : Request) (s : RunState σ) (t : RunState τ) : Prop where
  settings : v'.settings = v.settings
  toolchain : v'.toolchain = v.toolchain
  clock : v'.clock = v.clock
  one : v.ids s.world.draws = r.one
  other : v'.ids t.world.draws = r.other
  world : t.world = s.world
  sink : t.sink = s.sink
  memory : R s.memory t.memory
  files : r.Files s.world.files s.world.files
  cwd : s.world.files.cwd.Proper
  workRoot : Path.resolve s.world.files.cwd v.settings.workRoot = root
  unnamed : ∀ n ∈ root, r.Unnamed n
  rules : ∀ p, request.rulesFile = some p → ∀ n ∈ Path.resolve s.world.files.cwd p, r.Keeps n
  plans : r.Mirrored R v.executor v'.executor (v.plan request s (r.here root)) (v'.plan request t (r.there root))

theorem Runs.home (h : r.Runs root R v v' request s t) : r.Home root :=
  ⟨h.workRoot ▸ Path.resolve_proper h.cwd v.settings.workRoot, h.unnamed⟩

theorem Runs.workRoot_one (h : r.Runs root R v v' request s t) : v.workRoot s = root.text :=
  congrArg Location.text h.workRoot

theorem Runs.workRoot_other (h : r.Runs root R v v' request s t) : v'.workRoot t = root.text := by
  rw [Verifier.workRoot, h.settings, h.world, h.workRoot]

/-- Both directories are made, and the working directory is still the same. -/
structure Opened (r : Renaming) (root : Location) (v : Verifier σ) (v' : Verifier τ) (s : RunState σ)
    (t : RunState τ) : Prop where
  one : (v.opened s).1 = .ok (r.here root)
  other : (v'.opened t).1 = .ok (r.there root)
  files : r.Files (v.opened s).2 (v'.opened t).2
  cwd_one : (v.opened s).2.cwd = s.world.files.cwd
  cwd_other : (v'.opened t).2.cwd = s.world.files.cwd

/-- The directories of both runs are made, or neither is. -/
theorem Runs.opened_cases (h : r.Runs root R v v' request s t) :
    r.Opened root v v' s t ∨ ∃ e f, (v.opened s).1 = .error (.file e) ∧ (v'.opened t).1 = .error (.file f) ∧
      Errors .mkdir (r.here root) (r.there root) e f := by
  have hone : v.opened s = WorkDir.create s.world.files root.text WorkDir.series r.one := by
    rw [opened, h.one, h.workRoot_one]
  have hother : v'.opened t = WorkDir.create s.world.files root.text WorkDir.series r.other := by
    rw [opened, h.other, h.workRoot_other, h.world]
  rcases create_cases h.files h.home.proper h.home.kept with
    ⟨fs₁, fs₂, h₁, h₂, hfiles⟩ | ⟨e, f, fs₁, fs₂, h₁, h₂, herrors⟩
  · rw [← hone] at h₁
    rw [← hother] at h₂
    refine .inl ⟨by rw [h₁]; rfl, by rw [h₂]; rfl, by rwa [h₁, h₂], ?_, ?_⟩
    · rw [h₁]
      exact WorkDir.cwd_create (hone ▸ h₁)
    · rw [h₂]
      exact WorkDir.cwd_create (hother ▸ h₂)
  · exact .inr ⟨e, f, by rw [hone, h₁], by rw [hother, h₂], herrors⟩

/-- A path that names neither directory leads to a file in both trees or in neither. -/
theorem usableRules_eq {fs gs : FileSystem} (hfiles : r.Files fs gs) (hcwd : fs.cwd.Proper) (hsame : gs.cwd = fs.cwd)
    {rules : Option String} (hrules : ∀ p, rules = some p → ∀ n ∈ Path.resolve fs.cwd p, r.Keeps n) :
    usableRules gs rules = usableRules fs rules := by
  cases rules with
  | none => rfl
  | some p =>
    have hkept : r.location (Path.resolve fs.cwd p) = Path.resolve fs.cwd p :=
      (List.map_congr_left fun n hn => name_of_keeps (hrules p rfl n hn)).trans (List.map_id _)
    have hpaths := paths_text (r := r) (Path.resolve_proper hcwd p)
    rw [hkept] at hpaths
    simp only [usableRules, hsame, hfiles.isFile_eq hpaths]

/-- The plans of both runs differ in the directory only. -/
theorem Runs.plan_eq (h : r.Runs root R v v' request s t) (hopened : r.Opened root v v' s t) (dir dir' : String) :
    v'.plan request t dir' = (v.plan request s dir).inDirectory dir' := by
  have hrules : usableRules (v'.opened t).2 request.rulesFile = usableRules (v.opened s).2 request.rulesFile := by
    refine usableRules_eq hopened.files (hopened.cwd_one ▸ h.cwd) (hopened.cwd_other.trans hopened.cwd_one.symm) ?_
    rw [hopened.cwd_one]
    exact h.rules
  simp only [plan, planFor, PlanInput.inDirectory, hrules, h.settings, h.toolchain, hopened.cwd_one, hopened.cwd_other]

/-- The removals of both directories: both are done, or both are refused. -/
theorem remove_cases (h : r.Home root) (fs gs : FileSystem) :
    ((∃ fs', WorkDir.remove fs root.text (r.here root) = .ok fs') ∧
        ∃ gs', WorkDir.remove gs root.text (r.there root) = .ok gs') ∨
      WorkDir.remove fs root.text (r.here root) = .error (.refusedRemoval (r.here root)) ∧
        WorkDir.remove gs root.text (r.there root) = .error (.refusedRemoval (r.there root)) := by
  by_cases hroot : root = []
  · subst hroot
    have hrefused : ∀ {n : String} (_ : Path.IsName n) (fs : FileSystem),
        WorkDir.remove fs (Location.text []) (Location.text [n]) = .error (.refusedRemoval (Location.text [n])) := by
      intro n hn fs
      have hproper : Location.Proper [n] := fun m hm => List.mem_singleton.mp hm ▸ hn
      unfold WorkDir.remove
      dsimp only
      rw [Path.resolve_text h.proper, Path.resolve_text hproper, if_neg]
      rw [show ([n] : Location) = [] ++ [n] from rfl, WorkDir.isBelow_child hn []]
      decide
    exact .inr ⟨hrefused isName_old fs, hrefused isName_new gs⟩
  · have hone := WorkDir.remove_isOk h.proper hroot (isName_old (r := r)) fs
    have hother := WorkDir.remove_isOk h.proper hroot (isName_new (r := r)) gs
    rw [(Path.join_name h.proper (.inl rfl) isName_old).2] at hone
    rw [(Path.join_name h.proper (.inl rfl) isName_new).2] at hother
    exact .inl ⟨exists_of_isOk hone, exists_of_isOk hother⟩

/-- The evidence in the engine's directory is silent about the work directory, after every call of a run. -/
def Quiet (r : Renaming) (root : Location) (calls : List Call) : Prop :=
  ∀ call ∈ calls, r.Silent call.files (Path.join (r.here root) "klee-out")

/-- The work of both runs in their directories. -/
theorem Runs.execute_agree (h : r.Runs root R v v' request s t) (hquiet : r.Quiet root (v.calls runId request s))
    (hopened : r.Opened root v v' s t) :
    r.Works root R (v.execute runId (v.clock s.world.readings) request (r.here root) (v.entered s))
      (v'.execute runId (v.clock s.world.readings) request (r.there root) (v'.entered t)) := by
  have hplan := h.plan_eq hopened (r.here root) (r.there root)
  have hplans := h.plans
  rw [hplan] at hplans
  have hentered : r.States root R (v.entered s) (v'.entered t) := by
    refine ⟨⟨hopened.files, ?_, ?_⟩, h.memory, ?_⟩
    · exact congrArg (fun w : World => w.readings + 1) h.world
    · exact congrArg (fun w : World => w.draws + 1) h.world
    · rw [show (v'.entered t).sink = s.sink from h.sink]
      exact sinks_self s.sink
  exact Renaming.execute_agree h.home h.clock runId _ request (v.plan request s (r.here root)) rfl hplan hplans hentered
    fun _ _ _ hbuilt => hquiet _ (callOf_engine_mem_calls hopened.one hbuilt)

/-- **Both runs end alike.** -/
theorem Runs.verify_agree (h : r.Runs root R v v' request s t) (hquiet : r.Quiet root (v.calls runId request s)) :
    r.Ends root (v.verify runId request s) (v'.verify runId request t) := by
  have hclock : v'.clock t.world.readings = v.clock s.world.readings := by rw [h.clock, h.world]
  rcases h.opened_cases with hopened | ⟨e, f, hfailed, hfailed', herrors⟩
  · have hworks := h.execute_agree hquiet hopened
    rw [verify_of_opened hopened.one, verify_of_opened hopened.other, release, release, h.workRoot_one,
      h.workRoot_other, hclock]
    revert hworks
    rcases v.execute runId (v.clock s.world.readings) request (r.here root) (v.entered s) with ⟨result, s₁⟩
    rcases v'.execute runId (v.clock s.world.readings) request (r.there root) (v'.entered t) with ⟨result', t₁⟩
    intro hworks
    have hstates := hworks.states
    -- what the work came to counts only if the directory can be given back
    rcases remove_cases h.home s₁.world.files t₁.world.files with ⟨⟨fs, hfs⟩, gs, hgs⟩ | ⟨hfs, hgs⟩
    · simp only [hfs, hgs]
      cases hworks with
      | alike halike =>
        cases halike.result with
        | ok houtcomes => exact ⟨.ok houtcomes, hstates.sink⟩
        | error failure => exact reportFailure_same h.clock runId _ failure hstates.sink hstates.world.readings
      | unlisted hx hy =>
        obtain rfl : result = .error (unlisted root r.old) := hx
        obtain rfl : result' = .error (unlisted root r.new) := hy
        exact reportFailure_agree h.clock runId _ rfl rfl (.inr (Quotes.unlisted.details ["klee-out"])) hstates.sink
          hstates.world.readings
    · simp only [hfs, hgs]
      exact reportFailure_agree h.clock runId _ rfl rfl (.inr (Quotes.refused.details [])) hstates.sink
        hstates.world.readings
  · have hsinks : r.Sinks root s.sink t.sink := by
      rw [h.sink]
      exact sinks_self s.sink
    have hreadings : t.begun.world.readings = s.begun.world.readings :=
      congrArg (fun w : World => w.readings + 1) h.world
    rw [verify_of_unopened hfailed, verify_of_unopened hfailed', hclock]
    refine reportFailure_agree h.clock runId _ rfl rfl ?_ hsinks hreadings
    rcases herrors with rfl | ⟨problem, hproblem, rfl, rfl⟩
    · exact .inl rfl
    · exact .inr ((Quotes.unmade hproblem).details [])

/-- **Runs that differ in the id of their work directory only** end alike: in the same outcome and with the same lines
    on the writer, but for the path in that directory that the details of an error may quote. A report of another
    verdict, or one that does not mention the directory, is the same in both runs. -/
theorem verify_reproduced (h : r.Runs root R v v' request s t) (hquiet : r.Quiet root (v.calls runId request s)) :
    Agree (r.Outcomes root) (v.verify runId request s).1 (v'.verify runId request t).1 ∧
      List.Forall₂ (r.Lines root) (v.verify runId request s).2.sink.lines (v'.verify runId request t).2.sink.lines ∧
      ∀ o, (v.verify runId request s).1 = .ok o →
        o.report.verdict ≠ .error ∨ Text.contains o.report.details r.old = false →
        (v'.verify runId request t).1 = .ok o := by
  obtain ⟨houtcomes, hsinks⟩ := h.verify_agree hquiet
  refine ⟨houtcomes, hsinks.lines, fun o ho hunmentioned => ?_⟩
  rw [ho] at houtcomes
  rcases houtcomes.cases with ⟨e, he, -⟩ | ⟨a, o', ha, ho', hrelated⟩
  · cases he
  · obtain rfl := Except.ok.inj ha
    rw [ho', hrelated.eq_of_unmentioned hunmentioned]

/-! ## Prepared runs -/

theorem silent_of_absent {fs : FileSystem} {dir : String} (h : fs.isDirectory dir = false) : r.Silent fs dir where
  names l hfind := by
    rw [FileSystem.isDirectory_eq_true_iff.mpr ⟨l, hfind⟩] at h
    cases h
  contents evidence hscan p hp := by
    rw [Evidence.scan_of_nothing h] at hscan
    obtain rfl := Except.ok.inj hscan
    exact absurd hp List.not_mem_nil

theorem files_prepared (r : Renaming) : r.Files preparedFiles preparedFiles where
  entries := by
    have hkept : ∀ n : String, n.utf8ByteSize ≠ 18 → [n] = r.location [n] := fun n hn =>
      congrArg (fun m => [m]) (name_of_keeps (keeps_of_short hn)).symm
    have hdirectory : r.Entries .directory .directory := .other (fun _ h => by cases h) (fun _ h => by cases h)
    exact .cons ⟨rfl, hdirectory⟩ (.cons ⟨hkept "p.p4" (by decide), .file (contents_self [])⟩
      (.cons ⟨hkept "w" (by decide), hdirectory⟩ .nil))
  stamps := rfl
  modes := rfl
  present := rfl
  cwd := rfl
  faults _ := ⟨rfl, rfl, rfl⟩

theorem home_prepared (r : Renaming) : r.Home ["w"] where
  proper := preparedRoot_proper
  unnamed n hn := by
    have hparts : Evidence.parts "w" = ["w"] := by decide
    intro m hm
    rw [List.mem_singleton.mp hn, hparts, List.mem_singleton] at hm
    rw [hm]
    exact keeps_of_short (by decide)

/-- Two ids. -/
def preparedPair : Renaming where
  one := "Vx3_kQ-7"
  other := "b0Zp9sLm"
  isId_one := ⟨by decide, List.all_eq_true.mp (by decide)⟩
  isId_other := ⟨by decide, List.all_eq_true.mp (by decide)⟩

/-- The prepared run with an executor and an id of its own. -/
def preparedWith (e : Executor Unit) (id : String) : Verifier Unit :=
  { (Verifier.prepared preparedClock).withExecutor e with ids := fun _ => id }

/-- The end of such a run. -/
def preparedEnd (e : Executor Unit) (id : String) : Except Failure Outcome × RunState Unit :=
  (preparedWith e id).verify "run" .prepared (.preparedFor ())

/-- The calls of such a run. -/
def preparedCalls (e : Executor Unit) (id : String) : List Call :=
  (preparedWith e id).calls "run" .prepared (.preparedFor ())

/-- The plan of the prepared request, in no directory. -/
def preparedPlan : PlanInput := (Verifier.prepared preparedClock).planFor .prepared "" preparedFiles

theorem plan_prepared (e : Executor Unit) (id dir : String) :
    (preparedWith e id).plan .prepared (.preparedFor ()) dir = preparedPlan.inDirectory dir := by
  have hsource : Request.prepared.sourceFile = Location.text ["p.p4"] := by decide
  have hproper : Location.Proper ["p.p4"] := by
    intro n hn
    rw [List.mem_singleton.mp hn]
    exact ⟨by decide, by decide, by decide, by decide⟩
  have hresolve : ∀ cwd, Path.resolve cwd Request.prepared.sourceFile = ["p.p4"] := fun cwd => by
    rw [hsource, Path.resolve_text hproper]
  simp only [plan, planFor, preparedPlan, PlanInput.inDirectory, hresolve]
  rfl

/-- Executors that mirror each other on the commands of the prepared plan make two such runs. -/
theorem runs_prepared {e : Executor Unit} {r : Renaming}
    (h : r.Mirrored (fun _ _ => True) e e (preparedPlan.inDirectory (r.here ["w"]))
      (preparedPlan.inDirectory (r.there ["w"]))) :
    r.Runs ["w"] (fun _ _ => True) (preparedWith e r.one) (preparedWith e r.other) .prepared (.preparedFor ())
      (.preparedFor ()) where
  settings := rfl
  toolchain := rfl
  clock := rfl
  one := rfl
  other := rfl
  world := rfl
  sink := rfl
  memory := trivial
  files := files_prepared r
  cwd n hn := absurd hn List.not_mem_nil
  workRoot := by
    show Path.resolve [] "/w" = ["w"]
    decide
  unnamed := (home_prepared r).unnamed
  rules p hp := by cases hp
  plans := by rwa [plan_prepared, plan_prepared]

/-- An executor that writes an empty file to its last argument and finds nothing wrong. -/
def writing : Executor Unit where
  call c w m :=
    match w.files.writeBytes (c.args.getLastD "") [] with
    | .ok fs => (.ok explored, { w with files := fs }, m)
    | .error _ => (.ok explored, w, m)

theorem mirrors_writing {c c' : Command} {p q : String} (hp : c.args.getLastD "" = p) (hq : c'.args.getLastD "" = q)
    (hpaths : r.Paths p q) (hzero : '\x00' ∉ p.toList) : r.Mirrors (fun _ _ => True) writing writing c c' := by
  intro w w' m m' hworlds _
  simp only [writing, hp, hq]
  rcases hworlds.files.writeBytes_cases hpaths hzero [] with ⟨fs, gs, hfs, hgs, hfiles⟩ | ⟨e, f, hfs, hgs, -⟩
  · rw [hfs, hgs]
    exact ⟨rfl, ⟨hfiles, hworlds.readings, hworlds.draws⟩, trivial⟩
  · rw [hfs, hgs]
    exact ⟨rfl, hworlds, trivial⟩

theorem mirrored_writing :
    preparedPair.Mirrored (fun _ _ => True) writing writing (preparedPlan.inDirectory (preparedPair.here ["w"]))
      (preparedPlan.inDirectory (preparedPair.there ["w"])) := by
  have hinside : ∀ n, Path.IsName n → preparedPair.Keeps n →
      preparedPair.Paths (Path.join (preparedPair.here ["w"]) n) (Path.join (preparedPair.there ["w"]) n) :=
    fun n hn hkeeps => (inside_join (home_prepared _) hn hkeeps).paths (home_prepared _)
  have hir := hinside "p.json" ⟨by decide, by decide, by decide, by decide⟩ (keeps_of_short (by decide))
  have hbitcode := hinside "p.bc" ⟨by decide, by decide, by decide, by decide⟩ (keeps_of_short (by decide))
  have hir₀ : '\x00' ∉ (Path.join (preparedPair.here ["w"]) "p.json").toList := by decide
  have hbitcode₀ : '\x00' ∉ (Path.join (preparedPair.here ["w"]) "p.bc").toList := by decide
  have hsource : preparedPlan.sourceFile = "/p.p4" := by decide
  have hirFile : ∀ dir, (preparedPlan.inDirectory dir).artifacts.irFile = Path.join dir "p.json" := fun dir =>
    congrArg (Path.join dir) (by rw [hsource]; decide)
  have hbitcodeFile : ∀ dir, (preparedPlan.inDirectory dir).artifacts.bitcodeFile = Path.join dir "p.bc" := fun dir =>
    congrArg (Path.join dir) (by rw [hsource]; decide)
  -- each command ends with the file that its stage is about
  refine ⟨.cons ?_ (.cons ?_ (.cons ?_ .nil)), ?_⟩
  · exact mirrors_writing (hirFile _) (hirFile _) hir hir₀
  · exact mirrors_writing (hirFile _) (hirFile _) hir hir₀
  · exact mirrors_writing (hbitcodeFile _) (hbitcodeFile _) hbitcode hbitcode₀
  · exact mirrors_writing (hbitcodeFile _) (hbitcodeFile _) hbitcode hbitcode₀

/-- A run in which every stage passes is the same with either id. -/
theorem writing_reproduced :
    ∃ o, (preparedEnd writing preparedPair.one).1 = .ok o ∧ (preparedEnd writing preparedPair.other).1 = .ok o ∧
      o.verdict = .holds := by
  have hcreated : ((preparedWith writing preparedPair.one).opened (.preparedFor ())).1 =
      .ok (preparedPair.here ["w"]) := eq_ok_of_toOption (by decide +kernel)
  have hruns := runs_prepared mirrored_writing
  have hhoused : (preparedWith writing preparedPair.one).Housed "run" .prepared (.preparedFor ())
      (preparedPair.here ["w"]) :=
    ⟨hcreated, release_isOk preparedRoot_proper (List.cons_ne_nil _ _) hruns.workRoot_one isName_old hcreated⟩
  have hseen : (preparedCalls writing preparedPair.one).map (fun call => (call.reply.toOption,
      call.files.isDirectory (Path.join (preparedPair.here ["w"]) "klee-out"))) =
      List.replicate 4 (some explored, false) := by
    rw [preparedCalls, calls_of_opened hcreated]
    decide +kernel
  have hpair : ∀ call ∈ preparedCalls writing preparedPair.one, call.reply.toOption = some explored ∧
      call.files.isDirectory (Path.join (preparedPair.here ["w"]) "klee-out") = false := fun call hcall =>
    Prod.mk.inj ((List.eq_replicate_iff.mp hseen).2 _ (List.mem_map.mpr ⟨call, hcall, rfl⟩))
  have hlength : (preparedCalls writing preparedPair.one).length = 4 := by
    rw [← (List.eq_replicate_iff.mp hseen).1, List.length_map]
  obtain ⟨call, hcall⟩ : ∃ call, (preparedCalls writing preparedPair.one)[3]? = some call :=
    ⟨_, List.getElem?_eq_getElem (by rw [hlength]; decide)⟩
  obtain ⟨hreply, habsent⟩ := hpair call (List.mem_of_getElem? hcall)
  have hr : call.reply = .ok explored := eq_ok_of_toOption hreply
  have hscan : Evidence.scan call.files ((preparedWith writing preparedPair.one).plan .prepared (.preparedFor ())
      (preparedPair.here ["w"])).artifacts.engineOutDir = .ok ⟨[], []⟩ := by
    rw [plan_prepared, PlanInput.engineOutDir_inDirectory, Evidence.scan_of_nothing habsent]
  obtain ⟨finishedAt, ending, s', hcourse, -, -, hverify⟩ :=
    hhoused.verify_reported preparedClock_measures (fun _ => rfl) (tells_last hcreated hcall (Call.tells_of_ok hr))
  obtain ⟨r₀, r₁, r₂, before, ruleId, -, rfl⟩ :=
    (hcourse.of_counted hcall (Call.counted?_of_ok hr) (by decide)).2 _ hscan
  have hquiet : preparedPair.Quiet ["w"] (preparedCalls writing preparedPair.one) :=
    fun call hcall => silent_of_absent (hpair call hcall).2
  have hholds : explored.verdict [] = .holds := by decide
  have hends := (verify_reproduced hruns hquiet).2.2 _ (congrArg Prod.fst hverify) (.inl ?_)
  · exact ⟨_, congrArg Prod.fst hverify, hends, hholds⟩
  · show explored.verdict [] ≠ .error
    rw [hholds]
    decide

/-- An executor that does nothing and finds nothing wrong. -/
def idle : Executor Unit := ⟨fun _ w m => (.ok explored, w, m)⟩

/-- **The id shows in a report** when a tool leaves out its artifact: the details name the missing file with the
    directory in which it is missing. -/
theorem missing_artifact_unreproduced :
    preparedPair.Runs ["w"] (fun _ _ => True) (preparedWith idle preparedPair.one)
        (preparedWith idle preparedPair.other) .prepared (.preparedFor ()) (.preparedFor ()) ∧
      preparedPair.Quiet ["w"] (preparedCalls idle preparedPair.one) ∧
      ∃ o o', (preparedEnd idle preparedPair.one).1 = .ok o ∧ (preparedEnd idle preparedPair.other).1 = .ok o' ∧
        o'.report ≠ o.report := by
  have hidle : ∀ c c', preparedPair.Mirrors (fun _ _ => True) idle idle c c' :=
    fun _ _ _ _ _ _ hworlds _ => ⟨rfl, hworlds, trivial⟩
  have hone : (preparedEnd idle preparedPair.one).1.toOption.map (·.report.details) =
      some "P4C Compilation failed:\nKLEE: done: paths = 1\nMissing artifact: /w/p4verdict-Vx3_kQ-7/p.json" := by
    decide +kernel
  have hother : (preparedEnd idle preparedPair.other).1.toOption.map (·.report.details) =
      some "P4C Compilation failed:\nKLEE: done: paths = 1\nMissing artifact: /w/p4verdict-b0Zp9sLm/p.json" := by
    decide +kernel
  refine ⟨runs_prepared ⟨.cons (hidle _ _) (.cons (hidle _ _) (.cons (hidle _ _) .nil)), hidle _ _⟩,
    fun call hcall => silent_of_absent ?_, ?_⟩
  · have habsent : (preparedCalls idle preparedPair.one).all (fun call =>
        !call.files.isDirectory (Path.join (preparedPair.here ["w"]) "klee-out")) = true := by decide +kernel
    simpa using List.all_eq_true.mp habsent call hcall
  obtain ⟨o, s', ho, hdetails⟩ := exists_outcome hone
  obtain ⟨o', t', ho', hdetails'⟩ := exists_outcome hother
  refine ⟨o, o', by rw [ho], by rw [ho'], fun hsame => ?_⟩
  rw [hsame, hdetails] at hdetails'
  exact absurd hdetails' (by decide)

end Run

end Renaming

end DataplaneVerdict
