import DataplaneVerdict.Proofs.EngineBudget
import DataplaneVerdict.Proofs.Shapes

/-!
# `Proofs.Variables` — settings and the variables they are read from

Seven variables of the environment hold the settings. Each is checked on its own: whether its text is acceptable
(`Variable.Acceptable`), what it is read as, and what is said about a text that is not acceptable
(`Variable.complaints`) depend on that variable alone. The check of all settings runs these checks one after the
other, so its issues are theirs, in order (`Variable.issues_read`), and no variable hides what is wrong with another.

## Contents
- **Variables.** Names, places in the settings, and what is acceptable.
- **One variable.** What a leaf of the check makes of it.
- **All variables.** `Settings.load_variables`.
-/

namespace DataplaneVerdict

open Check

/-! ## Variables -/

/-- The variables that settings are read from. -/
inductive Variable where
  | frontendTimeout | translateTimeout | nativeTimeout | engineTimeout | workRoot | translatorPath | toolchainFile
deriving DecidableEq

namespace Variable

/-- All variables, in the order in which they are checked. -/
def all : List Variable :=
  [frontendTimeout, translateTimeout, nativeTimeout, engineTimeout, workRoot, translatorPath, toolchainFile]

/-- The name of a variable in the environment. -/
def name : Variable → String
  | frontendTimeout => "P4VERDICT_FRONTEND_TIMEOUT_SECONDS"
  | translateTimeout => "P4VERDICT_TRANSLATE_TIMEOUT_SECONDS"
  | nativeTimeout => "P4VERDICT_NATIVE_TIMEOUT_SECONDS"
  | engineTimeout => "P4VERDICT_ENGINE_TIMEOUT_SECONDS"
  | workRoot => "P4VERDICT_WORK_ROOT"
  | translatorPath => "P4VERDICT_TRANSLATOR_PATH"
  | toolchainFile => "P4VERDICT_TOOLCHAIN_FILE"

/-- The place of a variable in the settings. -/
def steps : Variable → List Step
  | frontendTimeout => [.field "timeouts", .field "frontendSeconds"]
  | translateTimeout => [.field "timeouts", .field "translateSeconds"]
  | nativeTimeout => [.field "timeouts", .field "nativeSeconds"]
  | engineTimeout => [.field "timeouts", .field "engineSeconds"]
  | workRoot => [.field "workRoot"]
  | translatorPath => [.field "translatorPath"]
  | toolchainFile => [.field "toolchainFile"]

/-- The text of that place, as messages name it. -/
def place : Variable → String
  | frontendTimeout => "timeouts.frontendSeconds"
  | translateTimeout => "timeouts.translateSeconds"
  | nativeTimeout => "timeouts.nativeSeconds"
  | engineTimeout => "timeouts.engineSeconds"
  | workRoot => "workRoot"
  | translatorPath => "translatorPath"
  | toolchainFile => "toolchainFile"

/-- The most seconds that a variable may hold, if it holds a timeout. -/
def most? : Variable → Option Nat
  | frontendTimeout | translateTimeout | nativeTimeout => some 3600
  | engineTimeout => some 86400
  | workRoot | translatorPath | toolchainFile => none

/-- **Acceptable texts.** The text of a timeout denotes a whole number from one up to the most; that of a location is
not empty. -/
def Acceptable (x : Variable) (text : String) : Prop :=
  match x.most? with
  | some most => ∃ n : Nat, Number.ofText text = .finite (n : Rat) ∧ 1 ≤ n ∧ n ≤ most
  | none => text ≠ ""

/-- What is wrong with a text as a number of seconds. A number can be wrong in several ways at once. -/
def secondsCauses (most : Nat) (text : String) : List Cause :=
  match Number.ofText text with
  | .nan => [.kind .number .nan]
  | n => (if n.isInteger then [] else [.notWhole]) ++ (if Number.lt n 1 then [.numberTooSmall 1] else []) ++
      (if Number.lt (Number.ofNat most) n then [.numberTooBig most] else [])

/-- What is wrong with the text of a variable. -/
def causes (x : Variable) (text : String) : List Cause :=
  match x.most? with
  | some most => secondsCauses most text
  | none => if text = "" then [.textTooShort 1] else []

/-- What is said about the text of a variable: its place, and what is wrong. -/
def complaints (x : Variable) (text : String) : List String :=
  (x.causes text).map fun cause => x.place ++ ": " ++ cause.message

/-- The issues of a variable in an environment; one that is not set has none. -/
def issues (x : Variable) (env : Environment) : List Issue :=
  (env.lookup x.name).elim [] fun text => (x.causes text).map fun cause => ⟨x.steps, cause⟩

theorem mem_all (x : Variable) : x ∈ all := by
  cases x <;> decide

theorem line_eq (x : Variable) (cause : Cause) : Issue.line ⟨x.steps, cause⟩ = x.place ++ ": " ++ cause.message := by
  cases x <;> rfl

/-! ## One variable -/

variable {α : Type} {env : Environment}

/-- A number is accepted or refused by the issues of its range. -/
theorem wholeNumber_num {least : Nat} {greatest : Option Nat} {n : Number} (h : n ≠ .nan) :
    wholeNumber least greatest (.num n) =
      if (rangeIssues least greatest n).isEmpty then .ok n else .error (rangeIssues least greatest n) := by
  cases n with
  | nan => exact absurd rfl h
  | _ => rfl

theorem seconds_str (most : Nat) (text : String) :
    Settings.seconds most (.str text) = Settings.seconds most (.num (Number.ofText text)) := rfl

theorem founded_seconds (most : Nat) (v : Value) : (Settings.seconds most v).Founded := by
  unfold Settings.seconds
  by_cases hnan : v.toNumber = .nan
  · rw [hnan]
    simp [Checked.Founded, wholeNumber, Checked.fail]
  · rw [wholeNumber_num hnan]
    split
    · exact Checked.founded_ok _
    · rename_i hissues
      simpa [Checked.Founded] using hissues

theorem issues_seconds (most : Nat) (text : String) :
    (Settings.seconds most (.str text)).issues = (secondsCauses most text).map (⟨[], ·⟩) := by
  show (wholeNumber 1 (some most) (.num (Number.ofText text))).issues = _
  by_cases hnan : Number.ofText text = .nan
  · rw [secondsCauses, hnan]
    rfl
  · have hissues : (secondsCauses most text).map (⟨[], ·⟩) = rangeIssues 1 (some most) (Number.ofText text) := by
      have hone : (1 : Number) = Number.ofNat 1 := rfl
      unfold secondsCauses rangeIssues
      rw [hone]
      cases hnumber : Number.ofText text with
      | nan => exact absurd hnumber hnan
      | _ => simp only [List.map_append, apply_ite (List.map _), List.map_nil, List.map_cons]
    rw [hissues, wholeNumber_num hnan]
    split
    · rename_i hnone
      exact (List.isEmpty_iff.mp hnone).symm
    · rfl

theorem secondsCauses_eq_nil_iff {most : Nat} (hmost : most ≤ Nat.pow 2 53) {text : String} :
    secondsCauses most text = [] ↔ ∃ n : Nat, Number.ofText text = .finite (n : Rat) ∧ 1 ≤ n ∧ n ≤ most := by
  constructor
  · intro h
    have hnone := issues_seconds most text
    rw [h] at hnone
    obtain ⟨t, ht⟩ := (founded_seconds most (.str text)).eq_ok hnone
    obtain ⟨n, rfl, hleast, hgreatest⟩ := Settings.seconds_eq_ok hmost ht
    exact ⟨n, Value.num.inj (Check.wholeNumber_eq_ok ht).1, hleast, hgreatest⟩
  · rintro ⟨n, hnumber, hleast, hgreatest⟩
    have hnone := issues_seconds most text
    rw [seconds_str, hnumber, Settings.seconds_natCast hmost hleast hgreatest] at hnone
    exact List.map_eq_nil_iff.mp hnone.symm

/-- **A text is acceptable just if nothing is wrong with it.** -/
theorem causes_eq_nil_iff {x : Variable} {text : String} : x.causes text = [] ↔ x.Acceptable text := by
  have htimeout : ∀ most, most ≤ 86400 → (secondsCauses most text = [] ↔
      ∃ n : Nat, Number.ofText text = .finite (n : Rat) ∧ 1 ≤ n ∧ n ≤ most) := fun most hmost =>
    secondsCauses_eq_nil_iff (Nat.le_trans hmost (by decide))
  unfold causes Acceptable
  cases x with
  | frontendTimeout | translateTimeout | nativeTimeout => exact htimeout 3600 (by decide)
  | engineTimeout => exact htimeout 86400 (by decide)
  | workRoot | translatorPath | toolchainFile => simp [most?]

theorem issues_nonEmptyText (text : String) :
    (nonEmptyText (.str text)).issues = (if text = "" then [Cause.textTooShort 1] else []).map (⟨[], ·⟩) := by
  by_cases h : text = ""
  · subst h
    rfl
  · rw [if_neg h]
    show (if text.isEmpty then _ else _ : Checked String).issues = _
    rw [if_neg (by simpa using h)]
    rfl

/-- The issues of a field that a variable is read from: none if it is not set. -/
theorem issues_field (outer : Check α) {absent : α} {name : String} {fs : Fields} {causes : String → List Cause}
    (key : String) (hfield : Value.field key fs = Settings.given env name) (habsent : outer .undefined = .ok absent)
    (hgiven : ∀ text, (outer (.str text)).issues = (causes text).map (⟨[], ·⟩)) :
    (field key outer fs).issues =
      (env.lookup name).elim [] fun text => (causes text).map (⟨[.field key], ·⟩) := by
  unfold field Settings.given at *
  rw [hfield, Checked.issues_within]
  cases env.lookup name with
  | none => rw [habsent]; rfl
  | some text => rw [hgiven, List.map_map]; rfl

/-- Those of a timeout, which lies one step further inside. -/
theorem issues_timeout (env : Environment) {most : Nat} {default : Number} {name : String} {fs : Fields} (key : String)
    (hfield : Value.field key fs = Settings.given env name) :
    (field key (orDefault default (Settings.seconds most)) fs).issues.map (Issue.within (.field "timeouts")) =
      (env.lookup name).elim [] fun text =>
        (secondsCauses most text).map (⟨[.field "timeouts", .field key], ·⟩) := by
  rw [issues_field (orDefault default (Settings.seconds most)) key hfield rfl (issues_seconds most)]
  cases env.lookup name with
  | none => rfl
  | some text =>
    show ((secondsCauses most text).map _).map _ = _
    rw [List.map_map]
    rfl

theorem issues_optional (text : String) :
    (optional nonEmptyText (.str text)).issues = (if text = "" then [Cause.textTooShort 1] else []).map (⟨[], ·⟩) := by
  rw [← issues_nonEmptyText]
  exact Checked.issues_map some (nonEmptyText (.str text))

/-- **The issues of the settings** are those of the variables, in order. -/
theorem issues_read (env : Environment) : (Settings.read env).issues = all.flatMap fun x => x.issues env := by
  unfold Settings.read Settings.readTimeouts
  simp only [Checked.issues_map, Checked.issues_both, Checked.issues_within, List.map_append, Settings.engineTimeout]
  rw [issues_timeout env "frontendSeconds" rfl, issues_timeout env "translateSeconds" rfl,
    issues_timeout env "nativeSeconds" rfl, issues_timeout env "engineSeconds" rfl,
    issues_field (orDefault (Settings.temporaryDirectory env) nonEmptyText) "workRoot" rfl rfl issues_nonEmptyText,
    issues_field (orDefault Settings.defaultTranslatorPath nonEmptyText) "translatorPath" rfl rfl issues_nonEmptyText,
    issues_field (optional nonEmptyText) "toolchainFile" rfl rfl issues_optional]
  simp only [all, List.flatMap_cons, List.flatMap_nil, List.append_nil, List.append_assoc]
  rfl

/-- What is said about a variable in an environment. -/
def lines (x : Variable) (env : Environment) : List String := (env.lookup x.name).elim [] x.complaints

theorem map_line_issues (x : Variable) (env : Environment) : (x.issues env).map Issue.line = x.lines env := by
  unfold issues lines
  cases env.lookup x.name with
  | none => rfl
  | some text =>
    show ((x.causes text).map _).map _ = (x.causes text).map _
    rw [List.map_map]
    exact List.map_congr_left fun cause _ => x.line_eq cause

theorem lines_ne_nil_iff {x : Variable} :
    x.lines env ≠ [] ↔ ∃ text, env.lookup x.name = some text ∧ ¬x.Acceptable text := by
  unfold lines
  cases env.lookup x.name with
  | none => simp
  | some text => simp [complaints, causes_eq_nil_iff]

theorem complaints_spec {x : Variable} {text : String} (h : ¬x.Acceptable text) :
    x.complaints text ≠ [] ∧ ∀ line ∈ x.complaints text, ∃ message, line = x.place ++ ": " ++ message := by
  refine ⟨?_, ?_⟩
  · rw [complaints, ne_eq, List.map_eq_nil_iff, causes_eq_nil_iff]
    exact h
  · intro line hline
    obtain ⟨cause, -, rfl⟩ := List.mem_map.mp hline
    exact ⟨cause.message, rfl⟩

/-! ## All variables -/

theorem founded_orDefault {check : Check α} (h : ∀ v, (check v).Founded) (default : α) (v : Value) :
    (orDefault default check v).Founded := by
  unfold orDefault
  split
  · exact Checked.founded_ok _
  · exact h _

theorem founded_optional {check : Check α} (h : ∀ v, (check v).Founded) (v : Value) :
    (Check.optional check v).Founded := by
  unfold Check.optional
  split
  · exact Checked.founded_ok _
  · exact (h _).map some

theorem founded_read (env : Environment) : (Settings.read env).Founded := by
  have htimeout : ∀ most default key fs, (field key (orDefault default (Settings.seconds most)) fs).Founded :=
    fun most default key fs => (founded_orDefault (founded_seconds most) default _).within _
  have htext : ∀ v, (nonEmptyText v).Founded := fun v => (Shape.enforces_nonEmptyText v).founded
  have hlocation : ∀ default key fs, (field key (orDefault default nonEmptyText) fs).Founded :=
    fun default key fs => (founded_orDefault htext default _).within _
  have hfile : ∀ key fs, (field key (optional nonEmptyText) fs).Founded :=
    fun key fs => (founded_optional htext _).within _
  unfold Settings.read Settings.readTimeouts
  exact ((((htimeout _ _ _ _).both
    ((htimeout _ _ _ _).both ((htimeout _ _ _ _).both (htimeout _ _ _ _)))).map _).within _
    |>.both ((hlocation _ _ _).both ((hlocation _ _ _).both (hfile _ _)))).map _

/-- What an accepted field is: what its variable is read as, or the default. -/
theorem eq_of_field {outer : Check α} {a absent : α} {key name : String} {fs : Fields} {read : String → α}
    (h : field key outer fs = .ok a) (hfield : Value.field key fs = Settings.given env name)
    (habsent : outer .undefined = .ok absent) (hread : ∀ text a, outer (.str text) = .ok a → a = read text) :
    a = (env.lookup name).elim absent read := by
  have hvalue := within_eq_ok h
  rw [hfield, Settings.given] at hvalue
  cases hlookup : env.lookup name with
  | none =>
    rw [hlookup] at hvalue
    exact Except.ok.inj (hvalue.symm.trans habsent)
  | some text =>
    rw [hlookup] at hvalue
    exact hread text a hvalue

theorem eq_of_seconds {most : Nat} {text : String} {a : Number} (h : Settings.seconds most (.str text) = .ok a) :
    a = Number.ofText text :=
  (Value.num.inj (Check.wholeNumber_eq_ok h).1).symm

theorem eq_of_nonEmptyText {text a : String} (h : nonEmptyText (.str text) = .ok a) : a = text := by
  have hfilled := (Shape.enforces_nonEmptyText _).filled a h
  exact Value.str.inj hfilled

theorem eq_of_optional {text : String} {a : Option String} (h : optional nonEmptyText (.str text) = .ok a) :
    a = some text := by
  obtain ⟨b, hb, rfl⟩ := map_eq_ok (x := nonEmptyText (.str text)) h
  rw [eq_of_nonEmptyText hb]

theorem flatMap_filter_lines (env : Environment) (xs : List Variable) :
    (xs.filter fun x => x.lines env ≠ []).flatMap (·.lines env) = xs.flatMap (·.lines env) := by
  induction xs with
  | nil => rfl
  | cons x xs ih =>
    by_cases h : x.lines env = []
    · rw [List.filter_cons_of_neg (by simpa using h), ih, List.flatMap_cons, h, List.nil_append]
    · rw [List.filter_cons_of_pos (by simpa using h), List.flatMap_cons, List.flatMap_cons, ih]

end Variable

namespace Settings

open Variable

/-- **The settings of an environment**, if it has settings: each field as its own variable says, else the default. -/
theorem eq_of_read {env : Environment} {s : Settings} (h : read env = .ok s) :
    s = {
      timeouts := {
        frontendSeconds := (env.lookup "P4VERDICT_FRONTEND_TIMEOUT_SECONDS").elim 60 Number.ofText
        translateSeconds := (env.lookup "P4VERDICT_TRANSLATE_TIMEOUT_SECONDS").elim 120 Number.ofText
        nativeSeconds := (env.lookup "P4VERDICT_NATIVE_TIMEOUT_SECONDS").elim 60 Number.ofText
        engineSeconds := (env.lookup "P4VERDICT_ENGINE_TIMEOUT_SECONDS").elim 300 Number.ofText }
      workRoot := (env.lookup "P4VERDICT_WORK_ROOT").getD (temporaryDirectory env)
      translatorPath := (env.lookup "P4VERDICT_TRANSLATOR_PATH").getD "/assert-p4/src/P4_to_C.py"
      toolchainFile := env.lookup "P4VERDICT_TOOLCHAIN_FILE" } := by
  have hgetD : ∀ (o : Option String) (d : String), o.elim d id = o.getD d := by
    intro o d
    cases o <;> rfl
  have hself : ∀ o : Option String, o.elim none some = o := by
    intro o
    cases o <;> rfl
  obtain ⟨⟨timeouts, root, path, file⟩, hall, rfl⟩ := map_eq_ok h
  obtain ⟨htimeouts, hlocations⟩ := both_eq_ok hall
  obtain ⟨⟨f, t, n, e⟩, hfour, rfl⟩ := map_eq_ok (within_eq_ok htimeouts)
  obtain ⟨hfrontend, hthree⟩ := both_eq_ok hfour
  obtain ⟨htranslate, htwo⟩ := both_eq_ok hthree
  obtain ⟨hnative, hengine⟩ := both_eq_ok htwo
  obtain ⟨hroot, hrest⟩ := both_eq_ok hlocations
  obtain ⟨hpath, hfile⟩ := both_eq_ok hrest
  dsimp only at *
  rw [eq_of_field hfrontend rfl rfl fun _ _ => eq_of_seconds, eq_of_field htranslate rfl rfl fun _ _ => eq_of_seconds,
    eq_of_field hnative rfl rfl fun _ _ => eq_of_seconds, eq_of_field hengine rfl rfl fun _ _ => eq_of_seconds,
    eq_of_field hroot rfl rfl fun _ _ => eq_of_nonEmptyText, eq_of_field hpath rfl rfl fun _ _ => eq_of_nonEmptyText,
    eq_of_field hfile rfl rfl fun _ _ => eq_of_optional, ← hgetD, ← hgetD, hself]
  rfl

/-- Loading fails with what is said about the variables, or there is nothing to say. -/
theorem load_cases (env : Environment) :
    (∃ s, read env = .ok s ∧ load env = .ok s ∧ ∀ x : Variable, x.lines env = []) ∨
    (load env = .error (.settings (Variable.all.flatMap (·.lines env))) ∧ ∃ x : Variable, x.lines env ≠ []) := by
  have hlines : (read env).issues.map Issue.line = Variable.all.flatMap (·.lines env) := by
    rw [issues_read, List.map_flatMap]
    exact congrArg (List.flatMap · Variable.all) (funext fun x => x.map_line_issues env)
  cases hread : read env with
  | ok s =>
    rw [hread] at hlines
    refine .inl ⟨s, rfl, by rw [load, hread], fun x => ?_⟩
    exact List.flatMap_eq_nil_iff.mp hlines.symm x x.mem_all
  | error issues =>
    rw [hread] at hlines
    refine .inr ⟨by rw [load, hread, ← hlines]; rfl, ?_⟩
    apply Classical.byContradiction
    intro hnone
    -- with nothing to say about any variable there would be no issue at all
    have hnil : Variable.all.flatMap (·.lines env) = [] :=
      List.flatMap_eq_nil_iff.mpr fun x _ => Classical.byContradiction fun hx => hnone ⟨x, hx⟩
    rw [hnil, List.map_eq_nil_iff] at hlines
    exact founded_read env (hread.trans (congrArg Except.error hlines))

/-- The directory for temporary files depends on its own three variables only. -/
theorem temporaryDirectory_congr {env other : Environment}
    (h : ∀ name ∈ ["TMPDIR", "TMP", "TEMP"], other.lookup name = env.lookup name) :
    temporaryDirectory other = temporaryDirectory env := by
  simp only [List.forall_mem_cons] at h
  obtain ⟨hdir, htmp, htemp, -⟩ := h
  simp only [temporaryDirectory, List.findSome?_cons, List.findSome?_nil, hdir, htmp, htemp]

/-- **Settings and their variables.** For every environment:
    * there are settings just if every variable that is set has an acceptable text of its own, whatever the others are;
    * then each field is what its own variable is read as, or its default if that is not set; the default of the work
      root is the directory for temporary files, which depends on three variables of its own;
    * otherwise the failure lists what is wrong with each variable whose text is not acceptable, and nothing else, in
      the order of the variables. What is said about a variable depends on its own text only, it is at least one line,
      and each line begins with the place of the variable;
    * the message consists of a heading and these lines with semicolons between them. -/
theorem load_variables (env : Environment) :
    ((∃ s, load env = .ok s) ↔ ∀ (x : Variable) (text : String), env.lookup x.name = some text → x.Acceptable text) ∧
    (∀ s, load env = .ok s → s = {
      timeouts := {
        frontendSeconds := (env.lookup "P4VERDICT_FRONTEND_TIMEOUT_SECONDS").elim 60 Number.ofText
        translateSeconds := (env.lookup "P4VERDICT_TRANSLATE_TIMEOUT_SECONDS").elim 120 Number.ofText
        nativeSeconds := (env.lookup "P4VERDICT_NATIVE_TIMEOUT_SECONDS").elim 60 Number.ofText
        engineSeconds := (env.lookup "P4VERDICT_ENGINE_TIMEOUT_SECONDS").elim 300 Number.ofText }
      workRoot := (env.lookup "P4VERDICT_WORK_ROOT").getD (temporaryDirectory env)
      translatorPath := (env.lookup "P4VERDICT_TRANSLATOR_PATH").getD "/assert-p4/src/P4_to_C.py"
      toolchainFile := env.lookup "P4VERDICT_TOOLCHAIN_FILE" }) ∧
    (∀ other : Environment, (∀ name ∈ ["TMPDIR", "TMP", "TEMP"], other.lookup name = env.lookup name) →
      temporaryDirectory other = temporaryDirectory env) ∧
    (∀ failure, load env = .error failure →
      ∃ (offending : List Variable) (lines : List String),
        failure = .settings lines ∧
        failure.message = "Configuration validation failed: " ++ Text.join "; " lines ∧
        lines = offending.flatMap (fun x => (env.lookup x.name).elim [] x.complaints) ∧
        offending ≠ [] ∧ offending.Sublist Variable.all ∧
        ∀ x, x ∈ offending ↔ ∃ text, env.lookup x.name = some text ∧ ¬x.Acceptable text) ∧
    (∀ (x : Variable) (text : String), ¬x.Acceptable text →
      x.complaints text ≠ [] ∧ ∀ line ∈ x.complaints text, ∃ message, line = x.place ++ ": " ++ message) := by
  refine ⟨?_, ?_, fun other => temporaryDirectory_congr, ?_, fun x text => complaints_spec⟩
  · rcases load_cases env with ⟨s, -, hload, hnone⟩ | ⟨hload, x, hx⟩
    · refine ⟨fun _ x text hlookup => ?_, fun _ => ⟨s, hload⟩⟩
      apply Classical.byContradiction
      intro hnot
      exact lines_ne_nil_iff.mpr ⟨text, hlookup, hnot⟩ (hnone x)
    · obtain ⟨text, hlookup, hnot⟩ := lines_ne_nil_iff.mp hx
      constructor
      · rintro ⟨s, hs⟩
        exact absurd (hload.symm.trans hs) (by simp)
      · intro hall
        exact absurd (hall x text hlookup) hnot
  · intro s hs
    rcases load_cases env with ⟨t, hread, hload, -⟩ | ⟨hload, -⟩
    · rw [← Except.ok.inj (hload.symm.trans hs)]
      exact eq_of_read hread
    · exact absurd (hload.symm.trans hs) (by simp)
  · intro failure hfailure
    rcases load_cases env with ⟨s, -, hload, -⟩ | ⟨hload, x, hx⟩
    · exact absurd (hload.symm.trans hfailure) (by simp)
    · have hmem : ∀ y, y ∈ Variable.all.filter (fun y => y.lines env ≠ []) ↔ y.lines env ≠ [] := by
        intro y
        simp [y.mem_all]
      obtain rfl := Except.error.inj (hload.symm.trans hfailure)
      refine ⟨Variable.all.filter fun y => y.lines env ≠ [], _, rfl, rfl, (flatMap_filter_lines env _).symm,
        List.ne_nil_of_mem ((hmem x).mpr hx), List.filter_sublist, ?_⟩
      intro y
      rw [hmem, lines_ne_nil_iff]

/-- An environment with a timeout that is wrong twice, one that is written in base 16, and two empty texts. -/
def mixed : Environment :=
  [("P4VERDICT_WORK_ROOT", ""), ("P4VERDICT_ENGINE_TIMEOUT_SECONDS", ""), ("TMPDIR", "/t/"),
   ("P4VERDICT_TRANSLATE_TIMEOUT_SECONDS", " 0x10 "), ("P4VERDICT_FRONTEND_TIMEOUT_SECONDS", "Infinity")]

/-- Everything that is wrong in it is told, in the order of the variables, and nothing about the timeout in base 16. -/
theorem mixed_told :
    ∃ (offending : List Variable) (lines : List String), load mixed = .error (.settings lines) ∧
      lines = ["timeouts.frontendSeconds: Expected integer, received float",
        "timeouts.frontendSeconds: Number must be less than or equal to 3600",
        "timeouts.engineSeconds: Number must be greater than or equal to 1",
        "workRoot: String must contain at least 1 character(s)"] ∧
      (∀ x, x ∈ offending ↔ ∃ text, mixed.lookup x.name = some text ∧ ¬x.Acceptable text) ∧
      .frontendTimeout ∈ offending ∧ .translateTimeout ∉ offending := by
  have hlines : Variable.all.flatMap (·.lines mixed) = ["timeouts.frontendSeconds: Expected integer, received float",
      "timeouts.frontendSeconds: Number must be less than or equal to 3600",
      "timeouts.engineSeconds: Number must be greater than or equal to 1",
      "workRoot: String must contain at least 1 character(s)"] := by decide
  rcases load_cases mixed with ⟨-, -, -, hnone⟩ | ⟨hload, -⟩
  · exact absurd (hnone .workRoot) (by decide)
  · obtain ⟨offending, lines, hfailure, -, -, -, -, hmem⟩ := (load_variables mixed).2.2.2.1 _ hload
    refine ⟨offending, lines, hfailure ▸ hload, ?_, hmem, ?_, ?_⟩
    · rw [← Failure.settings.inj hfailure, hlines]
    · exact (hmem _).mpr (lines_ne_nil_iff.mp (by decide))
    · rw [hmem, ← lines_ne_nil_iff]
      decide

/-- The message is not the lines alone: it has a heading. -/
theorem message_headed :
    ∃ lines, load [("P4VERDICT_WORK_ROOT", "")] = .error (.settings lines) ∧
      lines = ["workRoot: String must contain at least 1 character(s)"] ∧
      (Failure.settings lines).message ≠ Text.join "; " lines :=
  ⟨_, rfl, by decide, by decide⟩

end Settings

end DataplaneVerdict
