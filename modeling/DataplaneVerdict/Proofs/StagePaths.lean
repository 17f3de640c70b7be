import DataplaneVerdict.Proofs.Artifacts
import DataplaneVerdict.Proofs.Budgets

/-!
# `Proofs.StagePaths` — the paths among the arguments of the commands

A command that runs in a directory of its own reads a relative path from there, not from where the run was started. Of
the four commands only the translator has such a directory, that of its script. Everything that a plan is made from is
made absolute on the way, so these paths lead to the same place from anywhere (`Path.SameFrom`); the script itself is
passed as it was configured. A relative script is therefore looked up below its own directory: the translator runs in
`scripts` and asks for `scripts/t.py` there (`Verifier.relativeScript_misplaced`).

## Contents
- **Directories.** `Path.SameFrom`; a path beside which a command runs.
- **Arguments.** `Plan.pathArguments`, and what else a command is given.
- **Runs.** `Verifier.calls_paths`.
-/

namespace DataplaneVerdict

attribute [local irreducible] WorkDir.create WorkDir.remove Evidence.scan

/-! ## Directories -/

namespace FileSystem

/-- A walk looks at the entries of a tree and not at its working directory. -/
theorem walkNames_cwd (fs : FileSystem) (d : Location) (reach : Reach) (slash : Bool)
    (onLink : Location → Way → Except FileProblem Place) (base : Location) (names : List String) :
    walkNames { fs with cwd := d } reach slash onLink base names = walkNames fs reach slash onLink base names := by
  have hentry : ∀ l, FileSystem.entry? { fs with cwd := d } l = fs.entry? l := fun _ => rfl
  induction names generalizing base with
  | nil => rfl
  | cons name rest ih => simp only [walkNames, hentry, ih]

theorem walk_cwd (fs : FileSystem) (d : Location) (reach : Reach) (links : Nat) :
    walk { fs with cwd := d } reach links = walk fs reach links := by
  induction links with
  | zero => rfl
  | succ links ih =>
    funext base way
    rw [walk, walk, ih, walkNames_cwd]

end FileSystem

namespace Path

/-- A path that leads to the same place from two directories: by its text, and through the links of any tree. -/
structure SameFrom (d e : Location) (p : String) : Prop where
  resolved : resolve d p = resolve e p
  located : ∀ (fs : FileSystem) (reach : FileSystem.Reach),
    { fs with cwd := d }.locate reach p = { fs with cwd := e }.locate reach p

theorem SameFrom.of_isAbsolute {p : String} (h : isAbsolute p = true) (d e : Location) : SameFrom d e p where
  resolved := by rw [resolve, resolve, h, if_pos rfl, if_pos rfl]
  located fs reach := by
    simp only [FileSystem.locate, h, if_true, FileSystem.walk_cwd fs]

variable {cwd : Location} {p b : String}

/-- **A path read in its own directory** says what it says from the working directory just when the way to that
directory, taken twice, is the way taken once. -/
theorem resolve_beside (cwd : Location) (hb : IsName b) (hp : p = b ∨ ∃ q, p = q ++ "/" ++ b) :
    resolve (resolve cwd (dirname p)) p = resolve cwd p ↔
      resolve (resolve cwd (dirname p)) (dirname p) = resolve cwd (dirname p) := by
  -- the path is one step below its directory, seen from either place
  rw [resolve_dirname _ hb hp, resolve_dirname cwd hb hp]
  constructor
  · intro h
    exact List.append_cancel_right h
  · intro h
    rw [h]

theorem resolve_names {names : Location} (hcwd : cwd.Proper) (hnames : names.Proper) (hne : names ≠ []) :
    resolve cwd (Text.join "/" names) = cwd ++ names := by
  obtain ⟨hsegments, hrelative⟩ := segments_join hne fun n hn => ⟨(hnames n hn).nonempty, (hnames n hn).noSlash⟩
  have hproper : Location.Proper (cwd ++ names) := by
    intro n hn
    rcases List.mem_append.mp hn with hn | hn
    · exact hcwd n hn
    · exact hnames n hn
  rw [resolve, hrelative, hsegments]
  exact normalSegments_of_proper hproper

/-- Names joined by slashes go down from the working directory, so a path of names that is read in its own directory
goes down the same way once more. -/
theorem resolve_names_beside {dir : Location} (hcwd : cwd.Proper) (hnames : Location.Proper (dir ++ [b]))
    (hp : p = Text.join "/" (dir ++ [b])) :
    resolve cwd p = cwd ++ dir ++ [b] ∧ resolve (resolve cwd (dirname p)) p = cwd ++ dir ++ (dir ++ [b]) := by
  have hname : IsName b := hnames b (by simp)
  have hends : p = b ∨ ∃ q, p = q ++ "/" ++ b := by
    by_cases hdir : dir = []
    · left
      rw [hp, hdir]
      rfl
    · exact .inr ⟨_, hp.trans (Location.join_append_singleton hdir b)⟩
  have hplace : resolve cwd p = cwd ++ dir ++ [b] := by
    rw [hp, resolve_names hcwd hnames (by simp), List.append_assoc]
  -- going one step down from the directory gives this place, so the directory is known
  have hdirectory : resolve cwd (dirname p) = cwd ++ dir :=
    List.append_cancel_right ((resolve_dirname cwd hname hends).symm.trans hplace)
  have hbelow : Location.Proper (cwd ++ dir) := by
    intro n hn
    rcases List.mem_append.mp hn with hn | hn
    · exact hcwd n hn
    · exact hnames n (List.mem_append_left _ hn)
  refine ⟨hplace, ?_⟩
  rw [hdirectory, hp]
  exact resolve_names hbelow hnames (by simp)

/-- **A path read in its own directory.** `Beside cwd d p` says what the path `p` leads to from `d`, compared with
what it leads to from `cwd`. -/
structure Beside (cwd d : Location) (p : String) : Prop where
  directory : d = resolve cwd (dirname p)
  /-- an absolute path leads to the same place -/
  absolute : isAbsolute p = true → SameFrom d cwd p
  /-- a path that ends with a name does just when the way to its directory can be gone twice -/
  ending : ∀ b, IsName b → (p = b ∨ ∃ q, p = q ++ "/" ++ b) → (resolve d p = resolve cwd p ↔ resolve d (dirname p) = d)
  /-- names are gone down twice, all but the last -/
  descent : ∀ dir b, cwd.Proper → Location.Proper (dir ++ [b]) → p = Text.join "/" (dir ++ [b]) →
    resolve cwd p = cwd ++ dir ++ [b] ∧ resolve d p = cwd ++ dir ++ (dir ++ [b])

theorem beside (cwd : Location) (p : String) : Beside cwd (resolve cwd (dirname p)) p where
  directory := rfl
  absolute h := .of_isAbsolute h _ _
  ending _ hb hp := resolve_beside cwd hb hp
  descent _ _ hcwd hnames hp := resolve_names_beside hcwd hnames hp

end Path

/-- The directory in which a command runs, if the run was started in `cwd`. -/
def Command.directory (c : Command) (cwd : Location) : Location := (c.cwd.map (Path.resolve cwd)).getD cwd

/-! ## Arguments -/

namespace Plan

/-- The paths among the arguments of a stage, each with the option that it is glued to; the translator's script is not
one of them. -/
def pathArguments (i : PlanInput) : Stage → List (String × String)
  | .frontend => [("", i.sourceFile), ("", i.artifacts.irFile)]
  | .translate => ("", i.artifacts.irFile) :: (rulesArgs i).map (("", ·))
  | .native => [("", i.artifacts.cFile), ("", i.artifacts.bitcodeFile)]
  | .engine => [("--output-dir=", i.artifacts.engineOutDir), ("", i.artifacts.bitcodeFile)]

/-- The arguments that are no paths: fixed words and the extra arguments of the tool. -/
def words (i : PlanInput) : Stage → List String
  | .frontend => "--toJSON" :: i.toolchain.extraArgs .frontend
  | .translate => i.toolchain.extraArgs .translate
  | .native => ["-emit-llvm", "-g", "-c", "-o"] ++ i.toolchain.extraArgs .native
  | .engine => ("--search=" ++ i.toolchain.engine.searchStrategy) :: i.toolchain.extraArgs .engine

/-- The arguments of a stage are its words, its paths and the translator's script. -/
theorem mem_args_iff {i : PlanInput} {spec : StageSpec} (h : spec ∈ (ofInput i).stages) (x : String) :
    x ∈ spec.args ↔ x ∈ words i spec.stage ∨ (∃ p ∈ pathArguments i spec.stage, x = p.1 ++ p.2) ∨
      spec.stage = .translate ∧ x = translatorScript i := by
  rw [stages_ofInput] at h
  simp only [List.mem_cons, List.not_mem_nil, or_false] at h
  rcases h with rfl | rfl | rfl | rfl
  · simp [frontendSpec, words, pathArguments, Toolchain.extraArgs]
    grind
  · simp [translateSpec, words, pathArguments, Toolchain.extraArgs]
    grind
  · simp [nativeSpec, words, pathArguments, Toolchain.extraArgs]
    grind
  · simp [engineSpec, words, pathArguments, Toolchain.extraArgs]
    grind

theorem mem_of_mem_pathArguments {i : PlanInput} {stage : Stage} {p : String × String} (h : p ∈ pathArguments i stage) :
    p.2 = i.sourceFile ∨ p.2 ∈ i.artifacts.paths ∨ p.2 ∈ rulesArgs i := by
  cases stage <;> simp only [pathArguments, List.mem_cons, List.mem_map, List.not_mem_nil, or_false] at h <;>
    simp only [Artifacts.paths, List.mem_cons, List.not_mem_nil, or_false] <;> grind

theorem rulesFile_of_mem {i : PlanInput} {q : String} (h : q ∈ rulesArgs i) : i.rulesFile = some q := by
  unfold rulesArgs at h
  split at h
  · rename_i r hr
    split at h
    · cases h
    · rw [hr, List.mem_singleton.mp h]
  · cases h

/-- Only the translator has a directory of its own. -/
theorem directory_of_mem {i : PlanInput} {spec : StageSpec} (h : spec ∈ (ofInput i).stages) (cwd : Location) :
    (Verifier.commandOf spec).directory cwd =
      if spec.stage = .translate then Path.resolve cwd (Path.dirname (translatorScript i)) else cwd := by
  rw [stages_ofInput] at h
  simp only [List.mem_cons, List.not_mem_nil, or_false] at h
  rcases h with rfl | rfl | rfl | rfl <;> rfl

end Plan

/-! ## Runs -/

namespace Verifier

variable {σ : Type} {v : Verifier σ} {request : Request} {s : RunState σ} {workDir : String}

theorem exists_of_usableRules {fs : FileSystem} {rules : Option String} {r : String}
    (h : usableRules fs rules = some r) :
    ∃ l : Location, r = l.text := by
  unfold usableRules at h
  split at h
  · cases h
  · dsimp only at h
    split at h
    · exact ⟨_, (Option.some.inj h).symm⟩
    · cases h

/-- The paths of a run's plan are absolute, whatever was asked for and however the work root was written. -/
theorem isAbsolute_pathArguments (hopened : (v.opened s).1 = .ok workDir) (stage : Stage) {p : String × String}
    (hp : p ∈ Plan.pathArguments (v.plan request s workDir) stage) : Path.isAbsolute p.2 = true := by
  obtain ⟨l, hl, hpath⟩ := WorkDir.create_path (v.isAbsolute_workRoot s) (create_of_opened hopened)
  -- the source and the rules were resolved; the artifacts are in a directory below an absolute root
  have hsource : Path.isAbsolute (v.plan request s workDir).sourceFile = true := Location.isAbsolute_text _
  have hartifact : ∀ q ∈ (v.plan request s workDir).artifacts.paths, Path.isAbsolute q = true := by
    intro q hq
    obtain ⟨n, hn, rfl⟩ := List.mem_map.mp (Artifacts.paths_derive workDir _ ▸ hq)
    rw [(Path.join_name hl hpath (Artifacts.isName_of_mem_names hn)).2]
    exact Location.isAbsolute_text _
  have hrules : ∀ q ∈ Plan.rulesArgs (v.plan request s workDir), Path.isAbsolute q = true := by
    intro q hq
    obtain ⟨m, rfl⟩ := exists_of_usableRules (Plan.rulesFile_of_mem hq)
    exact m.isAbsolute_text
  rcases Plan.mem_of_mem_pathArguments hp with heq | hmem | hmem
  · rw [heq]
    exact hsource
  · exact hartifact _ hmem
  · exact hrules _ hmem

/-- The script of the translator as it was configured. -/
def script (v : Verifier σ) : String := v.toolchain.translate.script.getD v.settings.translatorPath

/-- **The paths that a run's commands are given.** Wherever the run was started, the arguments of a command are words,
paths that lead to the same place from the directory of the command as from there, and the script of the translator.
The script is read in its own directory, so that leads to the same place for an absolute script, and for a relative
one only if the way to its directory leads nowhere when it is gone again. -/
theorem calls_paths (v : Verifier σ) (runId : String) (request : Request) (s : RunState σ) (cwd : Location) {k : Nat}
    {call : Call} (hcall : (v.calls runId request s)[k]? = some call) :
    ∃ workDir stage, (v.opened s).1 = .ok workDir ∧ Stage.all[k]? = some stage ∧
      (∀ x, x ∈ call.command.args ↔ x ∈ Plan.words (v.plan request s workDir) stage ∨
        (∃ p ∈ Plan.pathArguments (v.plan request s workDir) stage, x = p.1 ++ p.2) ∨
        stage = .translate ∧ x = v.script) ∧
      (∀ p ∈ Plan.pathArguments (v.plan request s workDir) stage,
        Path.SameFrom (call.command.directory cwd) cwd p.2) ∧
      (stage = .translate → Path.Beside cwd (call.command.directory cwd) v.script) := by
  obtain ⟨workDir, spec, hopened, hspec, hcommand⟩ := command_of_call hcall
  have hmem := List.mem_of_getElem? hspec
  have hdirectory := Plan.directory_of_mem hmem cwd
  refine ⟨workDir, spec.stage, hopened, (Plan.stage_of_getElem? hspec).1, ?_, ?_, ?_⟩
  · rw [hcommand]
    exact Plan.mem_args_iff hmem
  · intro p hp
    apply Path.SameFrom.of_isAbsolute
    exact isAbsolute_pathArguments hopened spec.stage hp
  · intro hstage
    rw [hcommand, hdirectory, if_pos hstage]
    exact Path.beside cwd v.script

/-- A run with a relative script. -/
def scripted : Verifier Playback :=
  { prepared preparedClock with
    settings := { (prepared preparedClock).settings with translatorPath := "scripts/t.py" } }

/-- The calls of that run, up to an engine that is stopped. -/
def scriptedCalls : List Call :=
  scripted.calls "run" .prepared (.prepared (preparedAnswers (.ok ProcessHost.abortedResult)))

theorem exists_scriptedCall : ∃ call, scriptedCalls[1]? = some call ∧
    call.command.args = ["scripts/t.py", "/w/p4verdict-1/p.json"] ∧ call.command.cwd = some "scripts" := by
  have hseen : scriptedCalls[1]?.map (fun call => (call.command.args, call.command.cwd)) =
      some (["scripts/t.py", "/w/p4verdict-1/p.json"], some "scripts") := by
    decide +kernel
  obtain ⟨call, hcall, heq⟩ := Option.map_eq_some_iff.mp hseen
  exact ⟨call, hcall, congrArg Prod.fst heq, congrArg Prod.snd heq⟩

/-- From wherever that run was started, its translator finds what the front end wrote and takes the way to its script
    twice. -/
theorem scripted_paths : ∃ call, scriptedCalls[1]? = some call ∧
    Path.SameFrom (call.command.directory ["home"]) ["home"] "/w/p4verdict-1/p.json" ∧
    Path.resolve (call.command.directory ["home"]) "scripts/t.py" = ["home", "scripts", "scripts", "t.py"] := by
  obtain ⟨call, hcall, -, -⟩ := exists_scriptedCall
  obtain ⟨workDir, stage, hopened, hstage, -, hpaths, hscript⟩ := calls_paths scripted _ _ _ ["home"] hcall
  obtain rfl : Stage.translate = stage := Option.some.inj hstage
  obtain rfl : "/w/p4verdict-1" = workDir :=
    Except.ok.inj ((prepared_housed preparedClock _).created.symm.trans hopened)
  have hfile : (scripted.plan .prepared (.prepared (preparedAnswers (.ok ProcessHost.abortedResult)))
      "/w/p4verdict-1").artifacts.irFile = "/w/p4verdict-1/p.json" := by
    decide
  have hnames : ∀ n ∈ ["home", "scripts", "t.py"], Path.IsName n := by
    intro n hn
    simp only [List.mem_cons, List.not_mem_nil, or_false] at hn
    rcases hn with rfl | rfl | rfl <;> exact ⟨by decide, by decide, by decide, by decide⟩
  refine ⟨call, hcall, ?_, ?_⟩
  · have hfound := hpaths _ List.mem_cons_self
    rw [hfile] at hfound
    exact hfound
  · exact ((hscript rfl).descent ["scripts"] "t.py" (fun n hn => hnames n (by simp_all))
      (fun n hn => hnames n (List.mem_cons_of_mem _ hn)) (by decide)).2

/-- **A relative script is misplaced**: the translator looks for it below its own directory. -/
theorem relativeScript_misplaced : ∃ call, scriptedCalls[1]? = some call ∧ "scripts/t.py" ∈ call.command.args ∧
    Path.resolve [] "scripts/t.py" = ["scripts", "t.py"] ∧
    Path.resolve (call.command.directory []) "scripts/t.py" = ["scripts", "scripts", "t.py"] := by
  obtain ⟨call, hcall, hargs, hcwd⟩ := exists_scriptedCall
  refine ⟨call, hcall, by simp [hargs], by decide, ?_⟩
  rw [Command.directory, hcwd]
  decide

end Verifier

end DataplaneVerdict
