import DataplaneVerdict.Report.Basic
import DataplaneVerdict.Run.Executor

/-!
# `Proofs.Elapsed` — the time that a report states

A report states the whole milliseconds between two readings of a clock. The schema of reports accepts exactly whole
numbers that are not negative, so a report of a run is acceptable as soon as that time is a finite number
(`wholeNumber_elapsedMs`): rounding a whole number gives a whole number again (`isInteger_round_intCast`).

Whether the time is finite is a matter of the clock alone (`Clock.Measures`). A clock that yields whole numbers does
measure unless two readings lie so far apart that their difference exceeds every number of the format
(`Clock.measures_of_natAbs_le`).

## Contents
- **Rounding.** `floorLog2_one`, `nearestEven_le`, `isInteger_round_intCast`, `round_intCast_bounded`.
- **Elapsed time.** `Clock.Measures`, `wholeNumber_elapsedMs`, `Clock.measures_of_natAbs_le`, and `Clock.extremes`,
  which does not measure.
-/

namespace DataplaneVerdict

namespace Number

/-- Whether the number is neither infinite nor `nan`. -/
def isFinite (n : Number) : Bool := n.toRat?.isSome

/-! ## Rounding whole numbers -/

theorem floorLog2_one {num : Nat} (h : num ≠ 0) : floorLog2 num 1 = (num.log2 : Int) := by
  have hlog : (Nat.log2 1 : Int) = 0 := by decide
  have hreached : 1 * Nat.pow 2 num.log2 ≤ num := by
    rw [Nat.one_mul]; exact Nat.log2_self_le h
  simp only [floorLog2, hlog, Int.sub_zero, Int.natCast_nonneg, if_true, Int.toNat_natCast, hreached]

/-- From 53 bits on, the last place of a whole number is a whole place, and the number reaches it. -/
theorem lastPlace_one {num : Nat} (h : Nat.pow 2 53 ≤ num) :
    ∃ e : Nat, lastPlace num 1 = (e : Int) ∧ Nat.pow 2 e ≤ num := by
  have hne : num ≠ 0 := by
    intro h0; subst h0; exact absurd h (by decide)
  have hlog : 53 ≤ num.log2 := (Nat.le_log2 hne).mpr h
  refine ⟨num.log2 - 52, ?_, ?_⟩
  · rw [lastPlace, floorLog2_one hne]; omega
  · calc Nat.pow 2 (num.log2 - 52) ≤ Nat.pow 2 num.log2 :=
          Nat.pow_le_pow_right (by decide) (Nat.sub_le _ _)
      _ ≤ num := Nat.log2_self_le hne

theorem nearestEven_le (num den : Nat) : nearestEven num den ≤ num / den + 1 := by
  simp only [nearestEven]
  split
  · exact Nat.le_succ _
  · split
    · exact Nat.le_refl _
    · split
      · exact Nat.le_succ _
      · exact Nat.le_refl _

/-- A whole magnitude of 53 bits and more is rounded to a whole one, at most twice as large, unless that exceeds the
    format. -/
theorem roundMagnitude_whole {num : Nat} (h : Nat.pow 2 53 ≤ num) :
    ∃ m : Nat, m ≤ 2 * num ∧
      roundMagnitude num 1 = if (m : Rat) < ((Nat.pow 2 1024 : Nat) : Rat) then some (m : Rat) else none := by
  obtain ⟨e, he, hle⟩ := lastPlace_one h
  have he0 : (0 : Int) ≤ (e : Int) := Int.natCast_nonneg e
  refine ⟨nearestEven num (Nat.pow 2 e) * Nat.pow 2 e, ?_, ?_⟩
  · calc nearestEven num (Nat.pow 2 e) * Nat.pow 2 e
        ≤ (num / Nat.pow 2 e + 1) * Nat.pow 2 e := Nat.mul_le_mul_right _ (nearestEven_le _ _)
      _ = num / Nat.pow 2 e * Nat.pow 2 e + Nat.pow 2 e := Nat.succ_mul _ _
      _ ≤ num + num := Nat.add_le_add (Nat.div_mul_le_self _ _) hle
      _ = 2 * num := (Nat.two_mul num).symm
  · simp only [roundMagnitude, he, he0, if_true, Int.toNat_natCast, scale, Nat.one_mul]

theorem round_intCast_large {n : Int} (h : ¬n.natAbs ≤ Nat.pow 2 53) :
    round (n : Rat) =
      match roundMagnitude n.natAbs 1 with
      | none => infinity (n < 0)
      | some v =>
        if v.num = 0 then (if n < 0 then negativeZero else finite 0)
        else if n < 0 then finite (-v) else finite v :=
  if_neg fun hs => h hs.2

/-- **Rounding a whole number** gives a whole number, at most twice as far from zero, or an infinity if the magnitude
    exceeds the format. -/
theorem round_intCast_cases (n : Int) :
    ((∃ s, round (n : Rat) = infinity s) ∧ Nat.pow 2 1024 ≤ 2 * n.natAbs) ∨ round (n : Rat) = negativeZero ∨
      ∃ m : Int, round (n : Rat) = finite (m : Rat) ∧ m.natAbs ≤ 2 * n.natAbs := by
  by_cases hsmall : n.natAbs ≤ Nat.pow 2 53
  · exact Or.inr (Or.inr ⟨n, round_intCast hsmall, by omega⟩)
  · -- beyond 53 bits a whole number has places below the last one, and only the magnitude is rounded
    obtain ⟨m, hle, hm⟩ := @roundMagnitude_whole n.natAbs (by omega)
    rw [round_intCast_large hsmall, hm]
    by_cases hfits : (m : Rat) < ((Nat.pow 2 1024 : Nat) : Rat)
    · right
      simp only [if_pos hfits]
      by_cases hz : m = 0
      · by_cases hneg : n < 0
        · left; simp [hz, hneg]
        · right; exact ⟨0, by simp [hz, hneg], by simp⟩
      · right
        by_cases hneg : n < 0
        · refine ⟨-(m : Int), ?_, by simpa using hle⟩
          simp only [Rat.num_natCast, Int.natCast_eq_zero, hz, hneg, if_true, if_false, Rat.intCast_neg,
            Rat.intCast_natCast]
        · refine ⟨(m : Int), ?_, by simpa using hle⟩
          simp only [Rat.num_natCast, Int.natCast_eq_zero, hz, hneg, if_false, Rat.intCast_natCast]
    · left
      refine ⟨⟨n < 0, by simp only [if_neg hfits]⟩, ?_⟩
      have hbig : Nat.pow 2 1024 ≤ m := by
        rw [Rat.natCast_lt_natCast] at hfits; exact Nat.le_of_not_lt hfits
      exact Nat.le_trans hbig hle

theorem isInteger_round_intCast {n : Int} (h : (round (n : Rat)).isFinite = true) :
    (round (n : Rat)).isInteger = true := by
  rcases round_intCast_cases n with ⟨⟨s, hr⟩, -⟩ | hr | ⟨m, hr, -⟩
  · rw [hr] at h; exact absurd h (by simp [isFinite, toRat?])
  · rw [hr]; rfl
  · rw [hr]; simp [isInteger]

/-- A whole number far below the format's bound stays finite when it is rounded. -/
theorem round_intCast_bounded {n : Int} (h : 2 * n.natAbs < Nat.pow 2 1024) :
    round (n : Rat) = negativeZero ∨ ∃ m : Int, round (n : Rat) = finite (m : Rat) ∧ m.natAbs ≤ 2 * n.natAbs := by
  rcases round_intCast_cases n with ⟨-, hbig⟩ | hr
  · exact absurd h (Nat.not_lt.mpr hbig)
  · exact hr

/-! ## Times between readings -/

theorem atLeastZero_cases (x : Number) :
    x.atLeastZero = nan ∨ x.atLeastZero = finite 0 ∨ (x.atLeastZero = x ∧ lt (finite 0) x = true) := by
  cases x with
  | nan => exact Or.inl rfl
  | infinity s => cases s <;> simp [atLeastZero, lt]
  | negativeZero => simp [atLeastZero, lt]
  | finite r =>
    right
    by_cases h : lt (finite 0) (finite r) = true
    · right; simp [atLeastZero, h]
    · left; simp [atLeastZero, h]

theorem isFinite_atLeastZero {x : Number} (h : x.isFinite = true) : x.atLeastZero.isFinite = true := by
  rcases atLeastZero_cases x with hx | hx | ⟨hx, -⟩
  · cases x with
    | nan => exact absurd h (by simp [isFinite, toRat?])
    | infinity s => exact absurd h (by simp [isFinite, toRat?])
    | negativeZero => rfl
    | finite r => simp only [atLeastZero] at hx; split at hx <;> exact absurd hx (by simp)
  · rw [hx]; rfl
  · rw [hx]; exact h

/-- A number above zero is not below it. -/
theorem not_lt_zero_of_pos {x : Number} (h : lt (finite 0) x = true) : lt x (finite 0) = false := by
  cases x with
  | nan => rfl
  | infinity s => cases s <;> simp_all [lt]
  | negativeZero => simp [lt] at h
  | finite r =>
    simp only [lt, decide_eq_true_eq, decide_eq_false_iff_not] at h ⊢
    exact Rat.not_lt.mpr (Rat.le_of_lt h)

/-- A whole number that is not negative is what `floor` and `atLeastZero` leave, if it is finite at all. -/
theorem whole_atLeastZero_floor {x : Number} (h : (x.floor.atLeastZero).isFinite = true) :
    (x.floor.atLeastZero).isInteger = true ∧ lt x.floor.atLeastZero (finite 0) = false := by
  rcases atLeastZero_cases x.floor with hx | hx | ⟨hx, hpos⟩
  · rw [hx] at h; exact absurd h (by simp [isFinite, toRat?])
  · rw [hx]; exact ⟨by simp [isInteger], by simp [lt]⟩
  · -- nothing was cut off at zero, so the number is what `floor` left
    rw [hx] at h ⊢
    refine ⟨?_, not_lt_zero_of_pos hpos⟩
    cases x with
    | nan => exact absurd h (by simp [floor, isFinite, toRat?])
    | infinity s => exact absurd h (by simp [floor, isFinite, toRat?])
    | negativeZero => rfl
    | finite r => exact isInteger_round_intCast h

end Number

open Number

/-- The clock never yields two readings whose distance is no finite number. -/
def Clock.Measures (c : Clock) : Prop := ∀ i j, (elapsedMs (c i) (c j)).isFinite = true

/-- An elapsed time has no negative zero. -/
theorem elapsedMs_ne_negativeZero (a b : Number) : elapsedMs a b ≠ .negativeZero := by
  intro h
  rw [elapsedMs] at h
  rcases atLeastZero_cases (sub b a).floor with hx | hx | ⟨hx, hpos⟩
  · cases hx.symm.trans h
  · cases hx.symm.trans h
  · rw [← hx, h] at hpos
    exact absurd hpos (by decide)

/-- **A finite elapsed time is acceptable**: whole and not negative. -/
theorem wholeNumber_elapsedMs {a b : Number} (h : (elapsedMs a b).isFinite = true) :
    Check.wholeNumber 0 none (.num (elapsedMs a b)) = .ok (elapsedMs a b) := by
  obtain ⟨hint, hnonneg⟩ := whole_atLeastZero_floor (x := sub b a) h
  rw [← elapsedMs] at hint hnonneg
  have hzero : Number.ofNat 0 = finite 0 := by decide
  generalize elapsedMs a b = t at h hint hnonneg
  cases t with
  | nan => exact absurd h (by simp [isFinite, toRat?])
  | infinity s => exact absurd h (by simp [isFinite, toRat?])
  | negativeZero => simp [Check.wholeNumber, Check.rangeIssues, hint, hzero, hnonneg]
  | finite r => simp [Check.wholeNumber, Check.rangeIssues, hint, hzero, hnonneg]

/-- The difference of two whole numbers, rounded: whole, and at most twice as far from zero as the exact one. -/
theorem sub_intCast_bounded {m n : Int} (h : 2 * (m - n).natAbs < Nat.pow 2 1024) :
    sub (finite (m : Rat)) (finite (n : Rat)) = negativeZero ∨
      ∃ k : Int, sub (finite (m : Rat)) (finite (n : Rat)) = finite (k : Rat) ∧ k.natAbs ≤ 2 * (m - n).natAbs := by
  by_cases hn : n = 0
  · -- the negative of zero is the negative zero, which adding leaves alone, so nothing is rounded
    subst hn
    right
    exact ⟨m, by simp [sub, neg, add], by simp; omega⟩
  · have hsub : sub (finite (m : Rat)) (finite (n : Rat)) = Number.round ((m - n : Int) : Rat) := by
      have hne : (n : Rat).num ≠ 0 := by rwa [Rat.num_intCast]
      simp only [sub, neg, if_neg hne, add]
      rw [← Rat.intCast_neg, ← Rat.intCast_add, Int.sub_eq_add_neg]
    rw [hsub]
    exact round_intCast_bounded h

/-- **Clocks of whole milliseconds measure**, as long as the readings stay within an eighth of the format's range. -/
theorem Clock.measures_of_natAbs_le {c : Clock}
    (h : ∀ i, ∃ n : Int, c i = finite (n : Rat) ∧ 8 * n.natAbs < Nat.pow 2 1024) : c.Measures := by
  intro i j
  obtain ⟨a, ha, hba⟩ := h i
  obtain ⟨b, hb, hbb⟩ := h j
  have hdiff : 4 * (b - a).natAbs < Nat.pow 2 1024 := by
    generalize Nat.pow 2 1024 = bound at hba hbb; omega
  apply isFinite_atLeastZero
  rw [ha, hb]
  rcases sub_intCast_bounded (m := b) (n := a) (by generalize Nat.pow 2 1024 = bound at hdiff ⊢; omega)
    with hz | ⟨k, hk, hle⟩
  · rw [hz]; rfl
  · rw [hk, floor, Rat.floor_intCast]
    rcases round_intCast_bounded (n := k) (by generalize Nat.pow 2 1024 = bound at hdiff ⊢; omega)
      with hz | ⟨l, hl, -⟩
    · rw [hz]; rfl
    · rw [hl]; rfl

/-- A clock of whole numbers that does not measure: its second reading lies further from the first than any number of
    the format. -/
def Clock.extremes : Clock := fun n =>
  let far : Int := (Nat.pow 2 1023 : Nat)
  finite ((if n = 0 then -far else far : Int) : Rat)

theorem Clock.isInteger_extremes (i : Nat) : (extremes i).isInteger = true := by
  simp only [extremes, isInteger, Rat.den_intCast, decide_true]

end DataplaneVerdict
