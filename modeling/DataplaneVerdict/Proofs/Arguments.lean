import DataplaneVerdict.CommandLine.RunArguments
import DataplaneVerdict.Proofs.Numerals

/-!
# `Proofs.Arguments` — every argument of a run has one role

The arguments after the source are placed one by one, each by its position and by whether it consists of digits. Read
backwards, the roles give the arguments again: the rules file, then what was ignored, then the text of the timeout
(`RunArguments.Accounts`). This law and the conditions under which the two optional roles are filled leave only one
way to place any arguments, so they say what the parser does completely (`RunArguments.parse?_accounts`).

## Contents
- **Digits.** `Number.IsDigits`, and `Number.ofText_of_isDigits`: digits are read as the number that they denote.
- **Roles.** `RunArguments.Accounts`, what placing does to it, and `RunArguments.Accounts.unique`.
-/

namespace DataplaneVerdict

/-! ## Digits -/

namespace Number

/-- A text of decimal digits only, with at least one. -/
structure IsDigits (t : String) : Prop where
  nonempty : t ≠ ""
  digits : ∀ c ∈ t.toList, '0' ≤ c ∧ c ≤ '9'

/-- The natural number that the digits of a text denote, however many there are. -/
def decimal (t : String) : Nat := Nat.ofDigitChars 10 t.toList 0

theorem isDigit_iff {c : Char} : isDigit c = true ↔ '0' ≤ c ∧ c ≤ '9' := by
  simp [isDigit]

theorem not_isBlank_of_isDigit {c : Char} (h : isDigit c = true) : Text.isBlank c = false := by
  obtain ⟨hlow, hhigh⟩ := isDigit_iff.mp h
  have hlow : 48 ≤ c.toNat := hlow
  have hhigh : c.toNat ≤ 57 := hhigh
  simp only [Text.isBlank, Bool.or_eq_false_iff, Bool.and_eq_false_iff, decide_eq_false_iff_not, beq_eq_false_iff_ne]
  omega

theorem trimList_of_digits {cs : List Char} (h : ∀ c ∈ cs, isDigit c = true) : Text.trimList cs = cs := by
  have hkept : ∀ ds : List Char, (∀ c ∈ ds, isDigit c = true) → ds.dropWhile Text.isBlank = ds := by
    intro ds hds
    cases ds with
    | nil => rfl
    | cons c ds => rw [List.dropWhile_cons, not_isBlank_of_isDigit (hds c List.mem_cons_self)]; rfl
  rw [Text.trimList, hkept cs h, hkept cs.reverse fun c hc => h c (List.mem_reverse.mp hc), List.reverse_reverse]

/-- No base and no sign is read into digits, -/
theorem readNumeral_of_digits {cs : List Char} (h : ∀ c ∈ cs, isDigit c = true) (hne : cs ≠ []) :
    readNumeral cs = readUnsigned false cs := by
  have hother : ∀ c, isDigit c = false → c ∉ cs := fun c hc hmem => absurd (h c hmem) (by rw [hc]; decide)
  have hsigned : readSigned false cs = readUnsigned false cs := by
    rw [readSigned, if_neg]
    rintro rfl
    exact hother 'I' (by decide) (by decide)
  rw [← hsigned]
  unfold readNumeral
  split
  · exact absurd rfl hne
  · exact absurd (by simp) (hother 'x' (by decide))
  · exact absurd (by simp) (hother 'X' (by decide))
  · exact absurd (by simp) (hother 'o' (by decide))
  · exact absurd (by simp) (hother 'O' (by decide))
  · exact absurd (by simp) (hother 'b' (by decide))
  · exact absurd (by simp) (hother 'B' (by decide))
  · exact absurd (by simp) (hother '-' (by decide))
  · exact absurd (by simp) (hother '+' (by decide))
  · rfl

/-- and nothing stands behind them. -/
theorem readUnsigned_of_digits {cs : List Char} (h : ∀ c ∈ cs, isDigit c = true) (hne : cs ≠ []) :
    readUnsigned false cs = some (ofNat (Nat.ofDigitChars 10 cs 0)) := by
  have hspan : spanDigits cs = (cs, []) := by
    have hall : spanDigits (cs ++ []) = (cs, []) := Json.spanDigits_append h (by simp)
    rwa [List.append_nil] at hall
  have hvalue := Json.ofDecimal_natCast (digitsToNat cs) (Nat.zero_le 400)
  rw [show Nat.pow 10 0 = 1 from rfl, Nat.mul_one] at hvalue
  rw [readUnsigned, hspan]
  simp only [List.isEmpty_eq_false_iff.mpr hne, Bool.false_and, Bool.false_eq_true, if_false, List.append_nil,
    readExponent, Option.map_some]
  rw [← digitsToNat_eq]
  exact congrArg some hvalue

/-- **Digits are read as the number that they denote**, rounded once. -/
theorem ofText_of_isDigits {t : String} (h : IsDigits t) : ofText t = ofNat (decimal t) := by
  have hdigits : ∀ c ∈ t.toList, isDigit c = true := fun c hc => isDigit_iff.mpr (h.digits c hc)
  have hne : t.toList ≠ [] := fun hnil => h.nonempty (String.toList_eq_nil_iff.mp hnil)
  rw [ofText, trimList_of_digits hdigits, readNumeral_of_digits hdigits hne, readUnsigned_of_digits hdigits hne]
  rfl

end Number

/-! ## Roles -/

namespace RunArguments

open Number

variable {a a' : RunArguments} {budget budget' : Option String} {rest : List String}

theorem isNumeric_iff {t : String} : isNumeric t = true ↔ IsDigits t := by
  rw [isNumeric, Bool.and_eq_true, Bool.not_eq_true', List.all_eq_true]
  constructor
  · rintro ⟨hne, hdigits⟩
    refine ⟨fun hempty => ?_, fun c hc => isDigit_iff.mp (hdigits c hc)⟩
    rw [hempty] at hne
    cases hne
  · rintro ⟨hne, hdigits⟩
    exact ⟨Bool.eq_false_iff.mpr fun he => hne (String.isEmpty_iff.mp he), fun c hc => isDigit_iff.mpr (hdigits c hc)⟩

/-- **The roles of the arguments after the source.** In the order of the roles they are the arguments again, so that
none is lost, none has two roles and none has changed places. The first is the rules file unless it consists of
digits, and the last is the timeout if it does. -/
structure Accounts (a : RunArguments) (budget : Option String) (rest : List String) : Prop where
  order : rest = a.rulesFile.toList ++ a.ignored ++ budget.toList
  rules : a.rulesFile.isSome ↔ ∃ r, rest.head? = some r ∧ ¬IsDigits r
  last : budget.isSome ↔ ∃ t, rest.getLast? = some t ∧ IsDigits t
  number : a.timeoutSeconds = budget.map fun t => ofNat (decimal t)

/-- Behind the first argument, all are ignored but a last one of digits. -/
theorem place_false (ha : a.timeoutSeconds = none) (rest : List String) :
    ∃ (skipped : List String) (budget : Option String), rest = skipped ++ budget.toList ∧
      (budget.isSome ↔ ∃ t, rest.getLast? = some t ∧ IsDigits t) ∧
      place false a rest =
        { a with ignored := a.ignored ++ skipped, timeoutSeconds := budget.map fun t => ofNat (decimal t) } := by
  -- what was ignored grows from step to step, so it is not fixed in the induction
  induction rest generalizing a with
  | nil =>
    refine ⟨[], none, rfl, by simp, ?_⟩
    rw [List.append_nil, Option.map_none, ← ha]
    rfl
  | cons v rest ih =>
    rw [place, Bool.false_and, if_neg Bool.false_ne_true]
    by_cases hlast : (rest.isEmpty && isNumeric v) = true
    · obtain ⟨hrest, hv⟩ := (Bool.and_eq_true _ _).mp hlast
      obtain rfl := List.isEmpty_iff.mp hrest
      have hdigits := isNumeric_iff.mp hv
      refine ⟨[], some v, rfl, by simp [hdigits], ?_⟩
      rw [if_pos hlast, place, ofText_of_isDigits hdigits, List.append_nil]
      rfl
    · obtain ⟨skipped, budget, hrest, hbudget, hplace⟩ := @ih { a with ignored := a.ignored ++ [v] } ha
      refine ⟨v :: skipped, budget, by rw [hrest]; rfl, ?_, ?_⟩
      · rw [hbudget]
        cases rest with
        | nil =>
          have hv : ¬IsDigits v := fun h => hlast (isNumeric_iff.mpr h)
          simp [hv]
        | cons w rest => rw [List.getLast?_cons_cons]
      · rw [if_neg hlast, hplace, List.append_assoc]
        rfl

/-- **Placing accounts for every argument.** -/
theorem accounts_place (source : String) (rest : List String) :
    (place true { sourceFile := source } rest).sourceFile = source ∧
      ∃ budget, Accounts (place true { sourceFile := source } rest) budget rest := by
  cases rest with
  | nil => exact ⟨rfl, none, rfl, by simp [place], by simp, rfl⟩
  | cons v rest =>
    by_cases hv : isNumeric v = true
    · -- digits are no rules file, so the first argument is placed like any other
      have hfirst : place true { sourceFile := source } (v :: rest) =
          place false { sourceFile := source } (v :: rest) := by
        rw [place, place, hv]
        rfl
      obtain ⟨skipped, budget, hrest, hbudget, hplace⟩ := @place_false { sourceFile := source } rfl (v :: rest)
      rw [hfirst, hplace]
      exact ⟨rfl, budget, hrest, by simp [isNumeric_iff.mp hv], hbudget, rfl⟩
    · have hfirst : place true { sourceFile := source } (v :: rest) =
          place false { sourceFile := source, rulesFile := some v } rest := by
        rw [place, Bool.eq_false_iff.mpr hv]
        rfl
      have hdigits : ¬IsDigits v := fun h => hv (isNumeric_iff.mpr h)
      obtain ⟨skipped, budget, hrest, hbudget, hplace⟩ :=
        @place_false { sourceFile := source, rulesFile := some v } rfl rest
      rw [hfirst, hplace]
      refine ⟨rfl, budget, by rw [hrest]; rfl, by simp [hdigits], ?_, rfl⟩
      rw [hbudget]
      cases rest with
      | nil => simp [hdigits]
      | cons w rest => rw [List.getLast?_cons_cons]

theorem Accounts.rulesFile_eq (h : Accounts a budget rest) (h' : Accounts a' budget' rest) :
    a.rulesFile = a'.rulesFile := by
  have hboth := h.rules.trans h'.rules.symm
  have horder := h.order.symm.trans h'.order
  cases hr : a.rulesFile with
  | none =>
    cases hr' : a'.rulesFile with
    | none => rfl
    | some r' => simp [hr, hr'] at hboth
  | some r =>
    cases hr' : a'.rulesFile with
    | none => simp [hr, hr'] at hboth
    | some r' =>
      rw [hr, hr'] at horder
      exact congrArg some (List.cons.inj horder).1

theorem Accounts.budget_eq (h : Accounts a budget rest) (h' : Accounts a' budget' rest) : budget = budget' := by
  have hboth := h.last.trans h'.last.symm
  have horder := h.order.symm.trans h'.order
  cases budget with
  | none =>
    cases budget' with
    | none => rfl
    | some t' => simp at hboth
  | some t =>
    cases budget' with
    | none => simp at hboth
    | some t' => exact congrArg some (List.append_singleton_inj.mp horder).2

/-- **There is only one way** to account for arguments. -/
theorem Accounts.unique (h : Accounts a budget rest) (h' : Accounts a' budget' rest)
    (hsource : a.sourceFile = a'.sourceFile) : a = a' := by
  have hrules := h.rulesFile_eq h'
  have hbudget := h.budget_eq h'
  have htimeout : a.timeoutSeconds = a'.timeoutSeconds := by rw [h.number, h'.number, hbudget]
  have hignored : a.ignored = a'.ignored := by
    have horder := h.order.symm.trans h'.order
    rw [hrules, hbudget] at horder
    exact List.append_cancel_left (List.append_cancel_right horder)
  cases a
  cases a'
  simp_all

/-- **What the parser does.** Without a first argument, or with an empty one, there is no result. Otherwise the result
has the first argument as its source, whatever it looks like, and accounts for all others; and nothing else does. -/
theorem parse?_accounts (inputs : List String) :
    (parse? inputs = none ↔ inputs = [] ∨ inputs.head? = some "") ∧
    ∀ a, parse? inputs = some a ↔
      inputs.head? = some a.sourceFile ∧ a.sourceFile ≠ "" ∧ ∃ budget, Accounts a budget inputs.tail := by
  cases inputs with
  | nil => simp [parse?]
  | cons source rest =>
    obtain ⟨hsource, budget, haccounts⟩ := accounts_place source rest
    by_cases hempty : source = ""
    · subst hempty
      simp only [parse?, List.head?_cons]
      refine ⟨by simp, fun a => ⟨by simp, ?_⟩⟩
      rintro ⟨hhead, hne, -⟩
      exact absurd (Option.some.inj hhead).symm hne
    · have hparse : parse? (source :: rest) = some (place true { sourceFile := source } rest) :=
        if_neg (mt String.isEmpty_iff.mp hempty)
      rw [hparse]
      refine ⟨by simp [hempty], fun a => ⟨?_, ?_⟩⟩
      · intro h
        obtain rfl := Option.some.inj h
        rw [hsource]
        exact ⟨rfl, hempty, budget, haccounts⟩
      · rintro ⟨hhead, -, budget', haccounts'⟩
        exact congrArg some (haccounts.unique haccounts' (hsource.trans (Option.some.inj hhead)))

end RunArguments

end DataplaneVerdict
