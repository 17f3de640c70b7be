import Mathlib.Data.List.TakeWhile
import DataplaneVerdict.CommandLine.Program
import DataplaneVerdict.Proofs.Removal

/-!
# `Proofs.MaximumAge` — ages without a digit

The age that a cleanup allows is read as a numeral and must be a whole number. A numeral has a digit, with two
exceptions: the word for infinity, which is no whole number, and no text at all, which counts as zero
(`Number.readNumeral_of_digitless`). So a text without a digit is refused unless it is blank, and a blank one is an
age of zero.

## Contents
- **Numerals.** `Number.ofText_of_blank`, `Number.not_isInteger_ofText`.
- **Arguments.** `Invocation.ofArguments_maxAge`: a text behind an equals sign becomes the age as it stands.
- **The command.** `Program.perform_clean_digitless`.
-/

namespace DataplaneVerdict

/-! ## Numerals -/

theorem Text.trimList_eq_nil_iff {cs : List Char} : trimList cs = [] ↔ ∀ c ∈ cs, isBlank c = true := by
  rw [trimList, List.reverse_eq_nil_iff, List.dropWhile_eq_nil_iff]
  constructor
  · intro h c hc
    have hall : cs.dropWhile isBlank = [] := by
      cases hrest : cs.dropWhile isBlank with
      | nil => rfl
      | cons d rest =>
        have hhead := List.head?_dropWhile_not isBlank cs
        rw [hrest, List.head?_cons] at hhead
        cases (h d (by simp [hrest])).symm.trans hhead
    exact List.dropWhile_eq_nil_iff.mp hall c hc
  · intro h c hc
    exact h c ((List.dropWhile_sublist _).subset (List.mem_reverse.mp hc))

namespace Number

variable {cs : List Char}

theorem spanDigits_of_digitless (h : ∀ c ∈ cs, isDigit c = false) : spanDigits cs = ([], cs) := by
  cases cs with
  | nil => rfl
  | cons c cs => simp [spanDigits, h c List.mem_cons_self]

theorem readUnsigned_of_digitless (h : ∀ c ∈ cs, isDigit c = false) (negative : Bool) :
    readUnsigned negative cs = none := by
  rw [readUnsigned, spanDigits_of_digitless h]
  dsimp only
  split
  · rename_i rest
    rw [spanDigits_of_digitless fun c hc => h c (List.mem_cons_of_mem _ hc)]
    rfl
  · rfl

theorem readNumeral_cons {c : Char} (hc : c ≠ '0') :
    readNumeral (c :: cs) = readSigned (c = '-') (if c = '-' ∨ c = '+' then cs else c :: cs) := by
  unfold readNumeral
  split <;> simp_all

/-- **Without a digit** only the word for infinity is a numeral, but for no text at all. -/
theorem readNumeral_of_digitless (h : ∀ c ∈ cs, isDigit c = false) (hne : cs ≠ []) :
    readNumeral cs = none ∨ ∃ negative, readNumeral cs = some (infinity negative) := by
  obtain ⟨c, rest, rfl⟩ := List.exists_cons_of_ne_nil hne
  have hc : c ≠ '0' := by
    rintro rfl
    exact absurd (h '0' List.mem_cons_self) (by decide)
  have hrest : ∀ d ∈ (if c = '-' ∨ c = '+' then rest else c :: rest), isDigit d = false := by
    split
    · exact fun d hd => h d (List.mem_cons_of_mem _ hd)
    · exact h
  rw [readNumeral_cons hc]
  generalize (if c = '-' ∨ c = '+' then rest else c :: rest) = ds at hrest ⊢
  unfold readSigned
  split
  · exact .inr ⟨_, rfl⟩
  · exact .inl (readUnsigned_of_digitless hrest _)

/-- A blank text counts as zero, -/
theorem ofText_of_blank {text : String} (h : ∀ c ∈ text.toList, Text.isBlank c = true) : ofText text = finite 0 := by
  rw [ofText, Text.trimList_eq_nil_iff.mpr h]
  rfl

/-- and any other text without a digit as no whole number. -/
theorem not_isInteger_ofText {text : String} (h : ∀ c ∈ text.toList, isDigit c = false)
    (hshown : ¬∀ c ∈ text.toList, Text.isBlank c = true) : (ofText text).isInteger = false := by
  have htrimmed : ∀ c ∈ Text.trimList text.toList, isDigit c = false := by
    intro c hc
    have hmem := (List.dropWhile_sublist _).subset (List.mem_reverse.mp hc)
    exact h c ((List.dropWhile_sublist _).subset (List.mem_reverse.mp hmem))
  rw [ofText]
  obtain hnone | ⟨negative, hsome⟩ := readNumeral_of_digitless htrimmed (mt Text.trimList_eq_nil_iff.mp hshown)
  · rw [hnone]
    rfl
  · rw [hsome]
    rfl

end Number

/-! ## Arguments -/

namespace Grammar

variable {options : List OptionSpec} {fuel : Nat} {inUnknown : Bool} {s : Split} {arg : String} {rest : List String}

theorem splitFrom_nil : splitFrom options fuel inUnknown s [] = s := by
  cases fuel <;> rfl

/-- An argument that names no option by itself assigns one a value, or is kept. -/
theorem splitFrom_cons (hdash : arg ≠ "--") (hfind : find? options arg = none)
    (hcluster : cluster? options arg = none) :
    splitFrom options (fuel + 1) inUnknown s (arg :: rest) =
      (assigned? options arg).elim
        (splitFrom options fuel (inUnknown || isOption arg) (s.keep (inUnknown || isOption arg) [arg]) rest)
        fun g => splitFrom options fuel inUnknown { s with given := s.given ++ [g] } rest := by
  have hnone : (if isOption arg then find? options arg else none) = none := by rw [hfind, ite_self]
  rw [splitFrom, if_neg hdash, hnone]
  dsimp only
  rw [hcluster]
  cases assigned? options arg <;> rfl

end Grammar

namespace Invocation

open Grammar

theorem toList_maxAge (text : String) : ("--max-age=" ++ text).toList = "--max-age".toList ++ '=' :: text.toList := by
  rw [String.toList_append]
  rfl

theorem assigned?_maxAge (options : List OptionSpec) (text : String) :
    assigned? options ("--max-age=" ++ text) =
      (find? options "--max-age").bind fun o => if o.takesValue then some (o, text) else none := by
  have hname : ("--max-age".toList ++ '=' :: text.toList).takeWhile (· != '=') = "--max-age".toList := rfl
  have hvalue :
      String.ofList (("--max-age".toList ++ '=' :: text.toList).drop ("--max-age".toList.length + 1)) = text :=
    String.ofList_toList
  have hlonger : (Text.startsWith ("--max-age=" ++ text) "--" && 2 < "--max-age".toList.length &&
      "--max-age".toList.length < ("--max-age".toList ++ '=' :: text.toList).length) = true := by
    rw [Text.startsWith, toList_maxAge, List.length_append, List.length_cons]
    simp
  rw [assigned?, toList_maxAge, hname, if_pos hlonger, hvalue, String.ofList_toList]
  cases find? options "--max-age" <;> rfl

/-- The argument gives a command that knows the option its value, and any other command keeps it. -/
theorem splitFrom_maxAge {options : List OptionSpec} (hoptions : ∀ o ∈ options, '=' ∉ o.long.toList ∧
      ∀ flag ∈ o.short, '=' ∉ flag.toList) (text : String) (fuel : Nat) (s : Split) :
    splitFrom options (fuel + 1) false s ["--max-age=" ++ text] =
      ((find? options "--max-age").bind fun o => if o.takesValue then some (o, text) else none).elim
        { s with unknown := s.unknown ++ ["--max-age=" ++ text] } fun g => { s with given := s.given ++ [g] } := by
  have hmem : '=' ∈ ("--max-age=" ++ text).toList := by simp
  have hdash : "--max-age=" ++ text ≠ "--" := fun h => absurd (h ▸ hmem) (by decide)
  have hfind : find? options ("--max-age=" ++ text) = none := by
    rw [find?, List.find?_eq_none]
    intro o ho hnamed
    rcases (Bool.or_eq_true _ _).mp hnamed with hshort | hlong
    · exact (hoptions o ho).2 _ (of_decide_eq_true hshort) hmem
    · exact (hoptions o ho).1 (of_decide_eq_true hlong ▸ hmem)
  have hcluster : cluster? options ("--max-age=" ++ text) = none := by
    rw [cluster?, toList_maxAge]
    rfl
  have hlength : 1 < ("--max-age=" ++ text).length := by
    rw [String.length_append]
    exact Nat.lt_add_right _ (by decide)
  have hoption : isOption ("--max-age=" ++ text) = true := by
    rw [isOption, decide_eq_true hlength, Text.startsWith, toList_maxAge]
    rfl
  rw [splitFrom_cons hdash hfind hcluster, assigned?_maxAge, hoption]
  simp only [splitFrom_nil]
  rfl

/-- **Behind an equals sign** any text becomes the age as it stands. -/
theorem ofArguments_maxAge (text : String) : ofArguments ["clean", "--max-age=" ++ text] = .clean text := by
  have hprogram : split Program.spec.options ["clean", "--max-age=" ++ text] =
      { operands := ["clean"], unknown := ["--max-age=" ++ text] } := by
    have hsteps : steps ["clean", "--max-age=" ++ text] = (("--max-age=" ++ text).length + 6) + 1 + 1 := by
      have hclean : "clean".length = 5 := by decide
      simp only [steps, List.foldl_cons, List.foldl_nil, hclean]
      omega
    have hassigned : assigned? Program.spec.options "clean" = none := by decide
    have hoption : isOption "clean" = false := by decide
    rw [split, hsteps, splitFrom_cons (by decide) (by decide) (by decide), hassigned, hoption]
    exact splitFrom_maxAge (by decide) text _ _
  have hcommand : split Subcommand.clean.spec.options ["--max-age=" ++ text] =
      { given := [(Subcommand.maxAgeOption, text)] } := splitFrom_maxAge (by decide) text _ _
  have hname : Subcommand.ofName? "clean" = some .clean := by decide
  rw [ofArguments, hprogram]
  dsimp only
  rw [hname]
  dsimp only
  rw [ofCommand, hcommand]
  rfl

end Invocation

/-! ## The command -/

namespace Program

variable {σ : Type} {text : String}

theorem perform_clean_of_shown (p : Program σ) (h : ∀ c ∈ text.toList, Number.isDigit c = false)
    (hshown : ¬∀ c ∈ text.toList, Text.isBlank c = true) (w : World) (memory : σ) :
    p.perform (.clean text) w memory = ({ failure := some (.step (.invalidMaxAge text)) }, w, memory) := by
  have hage : Clean.maxAge text = .error (.invalidMaxAge text) := by
    rw [Clean.maxAge, Number.not_isInteger_ofText h hshown]
    rfl
  rw [perform, performClean, hage]

theorem maxAge_of_blank (hblank : ∀ c ∈ text.toList, Text.isBlank c = true) : Clean.maxAge text = .ok 0 := by
  rw [Clean.maxAge, Number.ofText_of_blank hblank]
  exact if_neg (by decide)

theorem perform_clean_of_blank (p : Program σ) (hblank : ∀ c ∈ text.toList, Text.isBlank c = true) (w : World)
    (memory : σ) {settings : Settings} {k : Nat} {fs' : FileSystem} (hload : Settings.load p.environment = .ok settings)
    (hcleanup : WorkDir.cleanup w.files (Path.resolve w.files.cwd settings.workRoot).text 0 (p.clock w.readings) =
      .ok (k, fs')) :
    p.perform (.clean text) w memory =
      ({ stdout := [Clean.line k (Path.resolve w.files.cwd settings.workRoot).text] },
        { w with files := fs', readings := w.readings + 1 }, memory) := by
  have hzero : Number.mul (Number.mul 0 60) 1000 = 0 := by decide
  rw [perform, performClean, maxAge_of_blank hblank]
  dsimp only
  rw [Clean.execute, hload]
  dsimp only
  rw [hzero, hcleanup]

/-- **An age without a digit** is refused, and nothing happens, unless the text is blank. Then it is an age of zero:
what a cleanup with that age removes is removed. -/
theorem perform_clean_digitless (p : Program σ) (text : String) (h : ∀ c ∈ text.toList, Number.isDigit c = false)
    (w : World) (memory : σ) :
    Invocation.ofArguments ["clean", "--max-age=" ++ text] = .clean text ∧
    ((¬∀ c ∈ text.toList, Text.isBlank c = true) →
      p.perform (.clean text) w memory = ({ failure := some (.step (.invalidMaxAge text)) }, w, memory) ∧
      (ProgramFailure.step (.invalidMaxAge text)).message = "Invalid --max-age: " ++ text) ∧
    ((∀ c ∈ text.toList, Text.isBlank c = true) →
      p.perform (.clean text) w memory = p.perform (.clean "0") w memory ∧
      ∀ settings k fs', Settings.load p.environment = .ok settings →
        WorkDir.cleanup w.files (Path.resolve w.files.cwd settings.workRoot).text 0 (p.clock w.readings) =
          .ok (k, fs') →
        p.perform (.clean text) w memory =
          ({ stdout := [Clean.line k (Path.resolve w.files.cwd settings.workRoot).text] },
            { w with files := fs', readings := w.readings + 1 }, memory)) := by
  refine ⟨Invocation.ofArguments_maxAge text, fun hshown => ⟨p.perform_clean_of_shown h hshown w memory, rfl⟩, ?_⟩
  intro hblank
  have hzero : Clean.maxAge "0" = .ok 0 := eq_ok_of_toOption (by decide)
  refine ⟨?_, fun settings k fs' hload hcleanup => p.perform_clean_of_blank hblank w memory hload hcleanup⟩
  rw [perform, performClean, maxAge_of_blank hblank, perform, performClean, hzero]

/-- A program that cleans up in the yard. -/
def caretaker : Program Unit where
  environment := [("P4VERDICT_WORK_ROOT", "/work")]
  executor := ⟨fun _ w memory => (.ok ⟨.success, some 0, none, "", "", ""⟩, w, memory)⟩
  clock := fun _ => 6000
  ids := fun _ => ""
  runId := ""

theorem caretaker_refuses :
    caretaker.perform (.clean "-Infinity") { files := WorkDir.yard } () =
      ({ failure := some (.step (.invalidMaxAge "-Infinity")) }, { files := WorkDir.yard }, ()) ∧
    caretaker.perform (.clean " \t") { files := WorkDir.yard } () =
      caretaker.perform (.clean "0") { files := WorkDir.yard } () := by
  have digitless {text : String} (h : text.toList.any Number.isDigit = false) :
      ∀ c ∈ text.toList, Number.isDigit c = false :=
    fun c hc => Bool.eq_false_iff.mpr (List.any_eq_false.mp h c hc)
  have hshown : ¬∀ c ∈ "-Infinity".toList, Text.isBlank c = true :=
    fun h => absurd (h '-' (by decide)) (by decide)
  exact ⟨((perform_clean_digitless caretaker "-Infinity" (digitless (by decide)) _ ()).2.1 hshown).1,
    ((perform_clean_digitless caretaker " \t" (digitless (by decide)) _ ()).2.2 (List.all_eq_true.mp (by decide))).1⟩

/-- **Not every text without a digit is refused.** With a blank one both work directories go, an old one and a recent
one. -/
theorem blank_age_removes :
    let run := caretaker.perform (Invocation.ofArguments ["clean", "--max-age", ""]) { files := WorkDir.yard } ()
    run.1.failure.isNone = true ∧ run.1.stdout = [Clean.line 2 "/work"] ∧
      ∀ name ∈ ["p4verdict-old", "p4verdict-new"], run.2.1.files.entry? ["work", name] = none := by
  decide +kernel

end Program

end DataplaneVerdict
