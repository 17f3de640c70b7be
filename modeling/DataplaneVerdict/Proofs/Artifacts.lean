import Mathlib.Data.List.Nodup
import DataplaneVerdict.Proofs.WorkScope

/-!
# `Proofs.Artifacts` — the files that link the stages

The files of a run are named after its source, and a source can be called anything: its last segment may have no
extension, consist of dots or be missing. An extension behind it makes a name of it in any case, so that joining it to
the work directory leads one step down (`Path.resolve_join`) and the directory of the joined path is the work
directory again (`Path.resolve_dirname_join`). Different names give different paths, so no stage writes over the file
of another.

## Contents
- **Directories.** `Path.resolve_dirname`: the directory of a path that ends with a name.
- **Artifacts.** `Artifacts.paths`, the four paths of a run.
- **Links.** `Plan.artifacts_linked`.
-/

namespace DataplaneVerdict

/-! ## Directories -/

namespace Path

variable {b : String}

theorem dropWhile_reverse_of_isName (hb : IsName b) (cs : List Char) :
    ((b.toList.reverse ++ cs).dropWhile (· == '/')).dropWhile (· != '/') = cs.dropWhile (· != '/') := by
  have hslash : ∀ c ∈ b.toList.reverse, (c != '/') = true :=
    fun c hc => bne_iff_ne.mpr fun h => hb.noSlash (h ▸ List.mem_reverse.mp hc)
  have hkept : (b.toList.reverse ++ cs).dropWhile (· == '/') = b.toList.reverse ++ cs := by
    cases hchars : b.toList.reverse with
    | nil => exact absurd (String.toList_eq_nil_iff.mp (List.reverse_eq_nil_iff.mp hchars)) hb.nonempty
    | cons c rest =>
      have hc : (c == '/') = false := Bool.eq_false_iff.mpr fun h =>
        bne_iff_ne.mp (hslash c (hchars ▸ List.mem_cons_self)) (eq_of_beq h)
      rw [List.cons_append, List.dropWhile_cons, hc]
      rfl
  rw [hkept, List.dropWhile_append_of_pos hslash]

theorem dirname_name (hb : IsName b) : dirname b = "." := by
  have hrest := dropWhile_reverse_of_isName hb []
  rw [List.append_nil, List.dropWhile_nil] at hrest
  simp only [dirname, hrest, hb.isAbsolute_eq_false]
  rfl

/-- The directory of a path with a name behind a slash: what stands before the slash, unless that is a slash or
nothing. -/
theorem dirname_append (q : String) (hb : IsName b) :
    dirname (q ++ "/" ++ b) = if q = "" then "/" else if q = "/" then "//" else q := by
  have hchars : (q ++ "/" ++ b).toList.reverse = b.toList.reverse ++ '/' :: q.toList.reverse := by simp
  have hrest := dropWhile_reverse_of_isName hb ('/' :: q.toList.reverse)
  rw [← hchars, List.dropWhile_cons] at hrest
  have hcut : ∀ c cs, q.toList.reverse = c :: cs → String.ofList (c :: cs).reverse = q := by
    intro c cs h
    rw [← h, List.reverse_reverse, String.ofList_toList]
  simp only [dirname, hrest]
  -- one character before the slash is a case of its own: a slash there is doubled
  cases hq : q.toList.reverse with
  | nil =>
    obtain rfl : q = "" := String.toList_eq_nil_iff.mp (List.reverse_eq_nil_iff.mp hq)
    simp [isAbsolute]
  | cons c cs =>
    have hne : q ≠ "" := by
      rintro rfl
      cases hq
    cases cs with
    | nil =>
      have hsingle : q = String.ofList [c] := (hcut c [] hq).symm
      subst hsingle
      by_cases hc : c = '/'
      · subst hc
        simp [isAbsolute]
      · simp [isAbsolute, hc, ← String.toList_inj]
    | cons d ds =>
      have hlong : q ≠ "/" := by
        rintro rfl
        cases hq
      simpa [hne, hlong] using hcut c (d :: ds) hq

/-- **The directory of a path that ends with a name**: the path leads one step down from it. -/
theorem resolve_dirname {p : String} (cwd : Location) (hb : IsName b) (hp : p = b ∨ ∃ q, p = q ++ "/" ++ b) :
    resolve cwd p = resolve cwd (dirname p) ++ [b] := by
  have hsegment : segments b = [b] := Text.splitOn_of_notMem hb.noSlash
  have hdown : ∀ ss, normalSegments false (ss ++ [b]) = normalSegments false ss ++ [b] := fun ss => by
    rw [normalSegments_append_singleton, pushSegment_of_isName hb, List.reverse_cons, List.reverse_reverse]
  rcases hp with rfl | ⟨q, rfl⟩
  · have hdot : resolve cwd "." = normalSegments false cwd := by
      show normalSegments false (cwd ++ ["."]) = _
      simp [normalSegments, pushSegment]
    rw [dirname_name hb, hdot, resolve, hb.isAbsolute_eq_false, hsegment]
    exact hdown cwd
  · have hsegments : segments (q ++ "/" ++ b) = segments q ++ [b] := by
      rw [segments, Text.splitOn_append, ← segments, ← segments, hsegment]
    have hroot : ∀ p, isAbsolute p = true → normalSegments false (segments p) = resolve cwd p := fun p h => by
      rw [resolve, h, if_pos rfl]
    rw [dirname_append q hb]
    by_cases hempty : q = ""
    · subst hempty
      rw [if_pos rfl, ← hroot _ (by simp [isAbsolute]), hsegments, hdown]
      rfl
    · have habsolute : isAbsolute (q ++ "/" ++ b) = isAbsolute q := by
        obtain ⟨c, cs, hchars⟩ := List.exists_cons_of_ne_nil (mt String.toList_eq_nil_iff.mp hempty)
        simp [isAbsolute, hchars]
      have hdirectory : resolve cwd (if q = "/" then "//" else q) = resolve cwd q := by
        split
        · rename_i hslash
          subst hslash
          rfl
        · rfl
      rw [if_neg hempty, hdirectory, resolve, resolve, habsolute, hsegments]
      split
      · exact hdown _
      · rw [← List.append_assoc]
        exact hdown _

/-- What is joined to a path stands at the end of the result, alone or behind a slash. -/
theorem join_ends (w : String) (hb : IsName b) : join w b = b ∨ ∃ q, join w b = q ++ "/" ++ b := by
  cases hw : isAbsolute w with
  | true =>
    right
    rw [(join_absolute_name hw rfl hb).2]
    by_cases hroot : normalSegments false (segments w) = []
    · exact ⟨"", by rw [hroot]; simp [Location.text, Text.join]⟩
    · exact ⟨_, Location.text_append_singleton hroot b⟩
  | false =>
    obtain ⟨k, names, -, -, hjoin⟩ := join_relative_name hw
    rw [hjoin b hb]
    by_cases hnone : List.replicate k ".." ++ names = []
    · rw [hnone]
      exact .inl rfl
    · exact .inr ⟨_, Location.join_append_singleton hnone b⟩

/-- **The directory of a joined path** is the path that a name was joined to. -/
theorem resolve_dirname_join {cwd : Location} {w : String} (hcwd : isAbsolute w = false → cwd.Proper) (hb : IsName b) :
    resolve cwd (dirname (join w b)) = resolve cwd w := by
  have hdown := resolve_dirname cwd hb (join_ends w hb)
  rw [resolve_join hcwd hb] at hdown
  exact (List.append_cancel_right hdown).symm

end Path

/-! ## Artifacts -/

namespace Artifacts

/-- The names of a run's files. -/
def names (source : String) : List String :=
  [Path.stem source ++ ".json", Path.stem source ++ ".c", Path.stem source ++ ".bc", "klee-out"]

/-- The four paths of a run. -/
def paths (a : Artifacts) : List String := [a.irFile, a.cFile, a.bitcodeFile, a.engineOutDir]

theorem paths_derive (workDir source : String) :
    (derive workDir source).paths = (names source).map (Path.join workDir) := rfl

/-- Whatever the source is called, its files have names of their own. -/
theorem isName_of_mem_names {source n : String} (h : n ∈ names source) : Path.IsName n := by
  simp only [names, List.mem_cons, List.not_mem_nil, or_false] at h
  rcases h with rfl | rfl | rfl | rfl
  · exact Path.isName_stem source (c := 'n') (by decide) (by decide) (by decide)
  · exact Path.isName_stem source (c := 'c') (by decide) (by decide) (by decide)
  · exact Path.isName_stem source (c := 'c') (by decide) (by decide) (by decide)
  · exact ⟨by decide, by decide, by decide, by decide⟩

theorem nodup_names (source : String) : (names source).Nodup := by
  have hdot : ∀ extension : String, '.' ∈ extension.toList → Path.stem source ++ extension ≠ "klee-out" := by
    intro extension hmem heq
    have hnone : '.' ∉ (Path.stem source ++ extension).toList := heq ▸ by decide
    exact hnone (by simp [hmem])
  have hother : ∀ {x y : String}, x ≠ y → Path.stem source ++ x ≠ Path.stem source ++ y :=
    fun hne heq => hne ((String.append_right_inj _).mp heq)
  simp only [names, List.nodup_cons, List.mem_cons, List.not_mem_nil, or_false, not_or, not_false_eq_true,
    List.nodup_nil, and_true]
  exact ⟨⟨hother (by decide), hother (by decide), hdot _ (by decide)⟩, ⟨hother (by decide), hdot _ (by decide)⟩,
    hdot _ (by decide)⟩

/-- Different names give different paths, since they lead to different places. -/
theorem nodup_paths (workDir source : String) : (derive workDir source).paths.Nodup := by
  rw [paths_derive]
  refine (nodup_names source).map_on fun n hn m hm heq => ?_
  have hroot : Location.Proper [] := fun _ h => absurd h List.not_mem_nil
  have hplace := congrArg (Path.resolve []) heq
  rw [Path.resolve_join (fun _ => hroot) (isName_of_mem_names hn),
    Path.resolve_join (fun _ => hroot) (isName_of_mem_names hm)] at hplace
  exact (List.append_singleton_inj.mp hplace).2

end Artifacts

/-! ## Links -/

/-- The extra arguments of a stage's tool. -/
def Toolchain.extraArgs (t : Toolchain) : Stage → List String
  | .frontend => t.frontend.extraArgs
  | .translate => t.translate.extraArgs
  | .native => t.native.extraArgs
  | .engine => t.engine.extraArgs

/-- Another toolchain with a new section for one stage. -/
inductive Toolchain.Replaced (t : Toolchain) : Stage → Toolchain → Prop
  | frontend (tool : Tool) : Replaced t .frontend { t with frontend := tool }
  | translate (tool : Translator) : Replaced t .translate { t with translate := tool }
  | native (tool : Tool) : Replaced t .native { t with native := tool }
  | engine (tool : Engine) : Replaced t .engine { t with engine := tool }

namespace Plan

theorem stages_ofInput (i : PlanInput) :
    (ofInput i).stages = [frontendSpec i, translateSpec i, nativeSpec i, engineSpec i] := rfl

/-- What a build stage must produce is an argument of the next stage, behind the extra arguments. -/
theorem argument_of_next (i : PlanInput) {k : Nat} {spec next : StageSpec} (h : (ofInput i).stages[k]? = some spec)
    (hnext : (ofInput i).stages[k + 1]? = some next) :
    ∃ artifact ∈ i.artifacts.paths, spec.expectedArtifacts = [artifact] ∧ ∃ before between after,
      next.args = before ++ i.toolchain.extraArgs next.stage ++ between ++ artifact :: after := by
  rw [stages_ofInput] at h hnext
  rcases k with _ | _ | _ | k
  · obtain rfl := Option.some.inj h
    obtain rfl := Option.some.inj hnext
    refine ⟨i.artifacts.irFile, by simp [Artifacts.paths], rfl, [], [translatorScript i], rulesArgs i, ?_⟩
    simp [translateSpec, Toolchain.extraArgs]
  · obtain rfl := Option.some.inj h
    obtain rfl := Option.some.inj hnext
    refine ⟨i.artifacts.cFile, by simp [Artifacts.paths], rfl, ["-emit-llvm", "-g", "-c"], [],
      ["-o", i.artifacts.bitcodeFile], ?_⟩
    simp [nativeSpec, Toolchain.extraArgs]
  · obtain rfl := Option.some.inj h
    obtain rfl := Option.some.inj hnext
    refine ⟨i.artifacts.bitcodeFile, by simp [Artifacts.paths], rfl,
      ["--search=" ++ i.toolchain.engine.searchStrategy, "--output-dir=" ++ i.artifacts.engineOutDir], [], [], ?_⟩
    simp [engineSpec, Toolchain.extraArgs]
  · cases hnext

/-- A new section changes the stage that it is for and no other. -/
theorem stages_replaced (i : PlanInput) {stage : Stage} {t : Toolchain} (h : i.toolchain.Replaced stage t) {k : Nat}
    (hk : Stage.all[k]? ≠ some stage) :
    (ofInput { i with toolchain := t }).stages[k]? = (ofInput i).stages[k]? := by
  cases h with
  | frontend tool =>
    rcases k with _ | k
    · exact absurd rfl hk
    · rfl
  | translate tool =>
    rcases k with _ | _ | k
    · rfl
    · exact absurd rfl hk
    · rfl
  | native tool =>
    rcases k with _ | _ | _ | k
    · rfl
    · rfl
    · exact absurd rfl hk
    · rfl
  | engine tool =>
    rcases k with _ | _ | _ | _ | k
    · rfl
    · rfl
    · rfl
    · exact absurd rfl hk
    · rfl

/-- **The files of a run link its stages.** Whatever the work directory and the source are called, the four paths
differ and each is directly below the work directory. In a plan with them, whatever its tools are, the file that a
build stage must produce is an argument of the next stage as it stands, behind the extra arguments of that stage's
tool; and a new section of the toolchain changes only the stage that it is for. -/
theorem artifacts_linked (workDir source : String) (i : PlanInput) (hi : i.artifacts = .derive workDir source)
    (cwd : Location) (hcwd : cwd.Proper) :
    i.artifacts.paths.Nodup ∧
    (∀ p ∈ i.artifacts.paths, Path.resolve cwd (Path.dirname p) = Path.resolve cwd workDir ∧
      ∃ n, Path.IsName n ∧ Path.resolve cwd p = Path.resolve cwd workDir ++ [n]) ∧
    (∀ (k : Nat) (spec next : StageSpec), (ofInput i).stages[k]? = some spec →
      (ofInput i).stages[k + 1]? = some next →
      ∃ artifact ∈ i.artifacts.paths, spec.expectedArtifacts = [artifact] ∧ ∃ before between after,
        next.args = before ++ i.toolchain.extraArgs next.stage ++ between ++ artifact :: after) ∧
    ∀ (stage : Stage) (t : Toolchain), i.toolchain.Replaced stage t → ∀ k : Nat, Stage.all[k]? ≠ some stage →
      (ofInput { i with toolchain := t }).stages[k]? = (ofInput i).stages[k]? := by
  refine ⟨?_, fun p hp => ?_, fun k spec next h hnext => argument_of_next i h hnext,
    fun stage t h k hk => stages_replaced i h hk⟩
  · rw [hi]
    exact Artifacts.nodup_paths workDir source
  · rw [hi, Artifacts.paths_derive] at hp
    obtain ⟨n, hn, rfl⟩ := List.mem_map.mp hp
    have hname := Artifacts.isName_of_mem_names hn
    exact ⟨Path.resolve_dirname_join (fun _ => hcwd) hname, n, hname, Path.resolve_join (fun _ => hcwd) hname⟩

/-- A plan for a source that is called by dots alone, in a work directory above the working directory. -/
def dotted : PlanInput where
  sourceFile := "x/.../"
  rulesFile := some ""
  artifacts := .derive "../w/." "x/.../"
  toolchain := .standard
  translatorPath := Settings.defaultTranslatorPath
  timeouts := ⟨60, 120, 60, 300⟩

/-- Its bitcode is below the work directory, and the engine gets it whatever the engine is. -/
theorem dotted_linked :
    dotted.artifacts.bitcodeFile = "../w/...bc" ∧ dotted.artifacts.paths.Nodup ∧
    Path.resolve ["a", "b"] (Path.dirname "../w/...bc") = Path.resolve ["a", "b"] "../w/." ∧
    (∃ artifact ∈ dotted.artifacts.paths, (nativeSpec dotted).expectedArtifacts = [artifact] ∧ ∃ before between after,
      (engineSpec dotted).args = before ++ ["--optimize"] ++ between ++ artifact :: after) ∧
    (ofInput { dotted with toolchain := { dotted.toolchain with engine := ⟨"klee", "bfs", ["x"]⟩ } }).stages[2]? =
      some (nativeSpec dotted) := by
  have hfile : dotted.artifacts.bitcodeFile = "../w/...bc" := by decide
  have hcwd : Location.Proper ["a", "b"] := by
    intro n hn
    simp only [List.mem_cons, List.not_mem_nil, or_false] at hn
    rcases hn with rfl | rfl
    · exact ⟨by decide, by decide, by decide, by decide⟩
    · exact ⟨by decide, by decide, by decide, by decide⟩
  obtain ⟨hnodup, hbelow, hlinks, hreplaced⟩ := artifacts_linked "../w/." "x/.../" dotted rfl ["a", "b"] hcwd
  refine ⟨hfile, hnodup, ?_, hlinks 2 _ _ rfl rfl, hreplaced .engine _ (.engine _) 2 (by decide)⟩
  exact (hbelow _ (by rw [← hfile]; simp [Artifacts.paths])).1

end Plan

end DataplaneVerdict
