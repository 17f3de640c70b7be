import DataplaneVerdict.Json.Reader
import DataplaneVerdict.Proofs.Elapsed

/-!
# `Proofs.Numerals` — whole numbers as text and back

The time of a report is a whole number of the format, and it is printed with the fewest digits that tell it from its
neighbours. This module shows that nothing is lost on the way: whatever the size of the number, the reader of JSON finds
the same number in the text (`readNumber_text`).

Up to 53 bits the text is the number in full. Beyond, the printer searches decimals with more and more digits until one
is rounded back to the number. No property of the search is needed but two: what it returns does round back, and it
stops before the decimals have a fraction, because the number itself is one of the candidates (`shortest_whole`). For
the candidates to round back at all the number must be one of the format, and rounding yields nothing else
(`whole_of_round`).

## Contents
- **Digits.** `digitsToNat` on the digits of a number, on digits with zeros behind them.
- **The format.** `Whole`, the whole numbers of the format that are not negative; `elapsedMs_whole`.
- **Printing.** `shortest_whole`, `layout_cases`.
- **Reading.** `readNumber_digits`, `readNumber_scientific`, and the round trip `readNumber_text`.
-/

namespace DataplaneVerdict

namespace Number

/-! ## Digits -/

theorem isDigit_eq (c : Char) : isDigit c = c.isDigit := by
  rw [Bool.eq_iff_iff]
  simp [isDigit, Char.isDigit, Char.le_def]

theorem digitsToNat_eq (cs : List Char) : digitsToNat cs = Nat.ofDigitChars 10 cs 0 := by
  rw [digitsToNat, Nat.ofDigitChars_eq_foldl]
  simp only [Nat.mul_comm]

theorem digitsToNat_toDigits (n : Nat) : digitsToNat (Nat.toDigits 10 n) = n := by
  rw [digitsToNat_eq, Nat.ofDigitChars_ten_toDigits]

theorem digitsToNat_append_zeros (ds : List Char) (z : Nat) :
    digitsToNat (ds ++ List.replicate z '0') = digitsToNat ds * Nat.pow 10 z := by
  rw [digitsToNat_eq, digitsToNat_eq, Nat.ofDigitChars_append, Nat.ofDigitChars_replicate_zero]
  exact Nat.mul_comm _ _

theorem isDigit_of_mem_toDigits {n : Nat} {c : Char} (h : c ∈ Nat.toDigits 10 n) : isDigit c = true := by
  rw [isDigit_eq]
  exact Nat.isDigit_of_mem_toDigits (by decide) (by decide) h

/-- The digits of a positive number do not begin with a zero. -/
theorem head?_toDigits {n : Nat} (h : 0 < n) : (Nat.toDigits 10 n).head? ≠ some '0' := by
  induction n using Nat.strongRecOn with
  | ind n ih =>
    by_cases hsmall : n < 10
    · rw [Nat.toDigits_of_lt_base hsmall]
      have hdigits : ∀ d : Fin 10, 0 < d.val → [d.val.digitChar].head? ≠ some '0' := by decide
      exact hdigits ⟨n, hsmall⟩ h
    · obtain ⟨c, cs, hcs⟩ := List.exists_cons_of_ne_nil (@Nat.toDigits_ne_nil (n / 10) 10)
      have hquotient := ih (n / 10) (by omega) (by omega)
      rw [Nat.toDigits_of_base_le (by decide) (by omega), hcs]
      rwa [hcs] at hquotient

/-- Digits that a reader takes for a whole number: at least one, and no superfluous zero at the front. -/
structure IsNumeral (ds : List Char) : Prop where
  digits : ∀ c ∈ ds, isDigit c = true
  nonempty : ds ≠ []
  leading : ds.head? = some '0' → ds.length = 1

theorem isNumeral_toDigits (n : Nat) : IsNumeral (Nat.toDigits 10 n) := by
  refine ⟨fun c hc => isDigit_of_mem_toDigits hc, Nat.toDigits_ne_nil, fun hzero => ?_⟩
  cases n with
  | zero => rfl
  | succ n => exact absurd hzero (head?_toDigits (Nat.succ_pos n))

/-- Only zeros are dropped at the end of digits. -/
theorem exists_dropFinalZeros (ds : List Char) : ∃ z, ds = dropFinalZeros ds ++ List.replicate z '0' := by
  have hzeros : ∀ c ∈ (ds.reverse.takeWhile (· == '0')).reverse, c = '0' := fun c hc =>
    eq_of_beq (List.all_eq_true.mp List.all_takeWhile c (List.mem_reverse.mp hc))
  refine ⟨(ds.reverse.takeWhile (· == '0')).reverse.length, ?_⟩
  rw [← List.eq_replicate_of_mem hzeros, dropFinalZeros, ← List.reverse_append, List.takeWhile_append_dropWhile,
    List.reverse_reverse]

/-! ## The format -/

/-- The multiple of the last place that is nearest to a whole number of more than 53 bits. -/
def nearestPlace (num : Nat) : Nat :=
  nearestEven num (Nat.pow 2 (num.log2 - 52)) * Nat.pow 2 (num.log2 - 52)

theorem nearestEven_mul (q : Nat) {den : Nat} (h : 0 < den) : nearestEven (q * den) den = q := by
  simp only [nearestEven, Nat.mul_mod_left, Nat.mul_zero, h, if_true, Nat.mul_div_cancel q h]

theorem le_nearestEven (num den : Nat) : num / den ≤ nearestEven num den := by
  simp only [nearestEven]
  split
  · exact Nat.le_refl _
  · split
    · exact Nat.le_succ _
    · split
      · exact Nat.le_refl _
      · exact Nat.le_succ _

theorem nearestPlace_of_dvd {num : Nat} (h : Nat.pow 2 (num.log2 - 52) ∣ num) : nearestPlace num = num := by
  have hpos : 0 < Nat.pow 2 (num.log2 - 52) := Nat.pow_pos (by decide)
  have heven : nearestEven num (Nat.pow 2 (num.log2 - 52)) = num / Nat.pow 2 (num.log2 - 52) := by
    conv => lhs; arg 1; rw [← Nat.div_mul_cancel h]
    exact nearestEven_mul _ hpos
  rw [nearestPlace, heven, Nat.div_mul_cancel h]

section Large

variable {num : Nat} (h : Nat.pow 2 53 ≤ num)

include h

theorem log2_of_large : 53 ≤ num.log2 := by
  have hne : num ≠ 0 := by
    rintro rfl
    exact absurd h (by decide)
  exact (Nat.le_log2 hne).mpr h

/-- The quotient by the last place has 53 bits. -/
theorem quotient_bounds :
    Nat.pow 2 52 ≤ num / Nat.pow 2 (num.log2 - 52) ∧ num / Nat.pow 2 (num.log2 - 52) < Nat.pow 2 53 := by
  have hlog := log2_of_large h
  have hne : num ≠ 0 := by
    rintro rfl
    exact absurd h (by decide)
  have hpos : 0 < Nat.pow 2 (num.log2 - 52) := Nat.pow_pos (by decide)
  obtain ⟨hlow, hhigh⟩ := (Nat.log2_eq_iff hne).mp rfl
  constructor
  · rw [Nat.le_div_iff_mul_le hpos]
    calc Nat.pow 2 52 * Nat.pow 2 (num.log2 - 52) = Nat.pow 2 (52 + (num.log2 - 52)) := (Nat.pow_add 2 _ _).symm
      _ = Nat.pow 2 num.log2 := by rw [show 52 + (num.log2 - 52) = num.log2 by omega]
      _ ≤ num := hlow
  · rw [Nat.div_lt_iff_lt_mul hpos]
    calc num < Nat.pow 2 (num.log2 + 1) := hhigh
      _ = Nat.pow 2 (53 + (num.log2 - 52)) := by rw [show 53 + (num.log2 - 52) = num.log2 + 1 by omega]
      _ = Nat.pow 2 53 * Nat.pow 2 (num.log2 - 52) := Nat.pow_add 2 _ _

/-- What rounding a whole number leaves is again a multiple of its own last place. -/
theorem dvd_nearestPlace : Nat.pow 2 ((nearestPlace num).log2 - 52) ∣ nearestPlace num := by
  obtain ⟨hlow, hhigh⟩ := quotient_bounds h
  have hupper := nearestEven_le num (Nat.pow 2 (num.log2 - 52))
  have hlower := le_nearestEven num (Nat.pow 2 (num.log2 - 52))
  rw [nearestPlace]
  generalize num.log2 - 52 = e at *
  generalize nearestEven num (Nat.pow 2 e) = q at *
  have hq : q ≤ Nat.pow 2 53 := by omega
  have hpos : 0 < Nat.pow 2 e := Nat.pow_pos (by decide)
  have hne : q * Nat.pow 2 e ≠ 0 := by
    have hbits : 0 < Nat.pow 2 52 := Nat.pow_pos (by decide)
    exact Nat.mul_ne_zero (by omega) (Nat.ne_of_gt hpos)
  by_cases hcarry : q = Nat.pow 2 53
  · -- rounding up has carried into a new bit: the number is a power of two
    have hpower : q * Nat.pow 2 e = Nat.pow 2 (53 + e) := by rw [hcarry]; exact (Nat.pow_add 2 _ _).symm
    rw [hpower]
    exact Nat.pow_dvd_pow 2 (by rw [show Nat.log2 (Nat.pow 2 (53 + e)) = 53 + e from Nat.log2_two_pow]; omega)
  · have hlog : (q * Nat.pow 2 e).log2 < 53 + e := by
      rw [Nat.log2_lt hne]
      calc q * Nat.pow 2 e < Nat.pow 2 53 * Nat.pow 2 e :=
            Nat.mul_lt_mul_of_pos_right (by omega) hpos
        _ = Nat.pow 2 (53 + e) := (Nat.pow_add 2 _ _).symm
    exact Nat.dvd_trans (Nat.pow_dvd_pow 2 (by omega)) (Nat.dvd_mul_left _ _)

theorem le_nearestPlace : Nat.pow 2 53 ≤ nearestPlace num ∧ num < 2 * nearestPlace num := by
  have hlog := log2_of_large h
  have hlow := (quotient_bounds h).1
  have hlower := le_nearestEven num (Nat.pow 2 (num.log2 - 52))
  have hpos : 0 < Nat.pow 2 (num.log2 - 52) := Nat.pow_pos (by decide)
  constructor
  · calc Nat.pow 2 53 = Nat.pow 2 52 * Nat.pow 2 1 := Nat.pow_add 2 52 1
      _ ≤ nearestEven num (Nat.pow 2 (num.log2 - 52)) * Nat.pow 2 (num.log2 - 52) :=
        Nat.mul_le_mul (Nat.le_trans hlow hlower) (Nat.pow_le_pow_right (by decide) (by omega))
  · -- the remainder is below the last place, and at least one last place is counted
    have hremainder := Nat.mod_lt num hpos
    have hdivision := Nat.div_add_mod' num (Nat.pow 2 (num.log2 - 52))
    have hquotient : num / Nat.pow 2 (num.log2 - 52) * Nat.pow 2 (num.log2 - 52) ≤ nearestPlace num :=
      Nat.mul_le_mul_right _ hlower
    have hone : Nat.pow 2 (num.log2 - 52) ≤ num / Nat.pow 2 (num.log2 - 52) * Nat.pow 2 (num.log2 - 52) :=
      Nat.le_mul_of_pos_left _ (Nat.lt_of_lt_of_le (Nat.pow_pos (by decide)) hlow)
    omega

end Large

theorem round_natCast_small {n : Nat} (h : n ≤ Nat.pow 2 53) : round (n : Rat) = finite (n : Rat) :=
  round_intCast (n := (n : Int)) h

/-- **Rounding a whole number** of more than 53 bits: to the nearest multiple of its last place, if
the format has it. -/
theorem round_natCast_large {n : Nat} (h : Nat.pow 2 53 < n) :
    round (n : Rat) =
      if nearestPlace n < Nat.pow 2 1024 then finite ((nearestPlace n : Nat) : Rat) else infinity false := by
  have hne : n ≠ 0 := by omega
  have hlog := log2_of_large (Nat.le_of_lt h)
  have hplace : lastPlace n 1 = ((n.log2 - 52 : Nat) : Int) := by
    rw [lastPlace, floorLog2_one hne]
    omega
  have hmagnitude : roundMagnitude n 1 =
      if ((nearestPlace n : Nat) : Rat) < ((Nat.pow 2 1024 : Nat) : Rat) then some ((nearestPlace n : Nat) : Rat)
      else none := by
    simp only [roundMagnitude, hplace, Int.natCast_nonneg, if_true, Int.toNat_natCast, scale, Nat.one_mul, nearestPlace]
    rfl
  have hlarge : ¬((n : Int)).natAbs ≤ Nat.pow 2 53 := Nat.not_le.mpr h
  rw [show ((n : Nat) : Rat) = ((n : Int) : Rat) from (Rat.intCast_natCast n).symm, round_intCast_large hlarge,
    Int.natAbs_natCast, hmagnitude]
  have hpositive : ¬(n : Int) < 0 := Int.not_lt.mpr (Int.natCast_nonneg n)
  have hpos : (nearestPlace n : Int) ≠ 0 := by
    have := (le_nearestPlace (Nat.le_of_lt h)).2
    omega
  by_cases hfits : nearestPlace n < Nat.pow 2 1024
  · rw [if_pos hfits, if_pos (Rat.natCast_lt_natCast.mpr hfits)]
    simp only [Rat.num_natCast, hpos, hpositive, if_false]
  · rw [if_neg hfits, if_neg (mt Rat.natCast_lt_natCast.mp hfits)]
    simp only [hpositive, decide_false]

/-- A whole number of the format that is not negative. -/
def Whole (x : Number) : Prop := ∃ n : Nat, x = finite (n : Rat) ∧ round (n : Rat) = finite (n : Rat)

theorem whole_of_le {n : Nat} (h : n ≤ Nat.pow 2 53) : Whole (finite (n : Rat)) := ⟨n, rfl, round_natCast_small h⟩

theorem Whole.isFinite {x : Number} (h : Whole x) : x.isFinite = true := by
  obtain ⟨n, rfl, -⟩ := h
  rfl

/-- **Rounding yields numbers of the format**: what a whole number is rounded to stays when it is rounded again. -/
theorem whole_of_round {n : Nat} {r : Rat} (h : round (n : Rat) = finite r) : Whole (finite r) := by
  by_cases hsmall : n ≤ Nat.pow 2 53
  · rw [round_natCast_small hsmall] at h
    rw [← h]
    exact whole_of_le hsmall
  · have hlarge : Nat.pow 2 53 < n := Nat.not_le.mp hsmall
    rw [round_natCast_large hlarge] at h
    split at h
    · rename_i hfits
      obtain ⟨hbits, -⟩ := le_nearestPlace (Nat.le_of_lt hlarge)
      refine ⟨nearestPlace n, h.symm, ?_⟩
      rcases Nat.eq_or_lt_of_le hbits with heq | hlt
      · exact round_natCast_small (Nat.le_of_eq heq.symm)
      · rw [round_natCast_large hlt, nearestPlace_of_dvd (dvd_nearestPlace (Nat.le_of_lt hlarge)), if_pos hfits]
    · cases h

/-- A whole number that is rounded to a finite one does not reach twice the bound of the format. -/
theorem lt_of_round_eq_finite {n : Nat} {r : Rat} (h : round (n : Rat) = finite r) : n < 2 * Nat.pow 2 1024 := by
  by_cases hsmall : n ≤ Nat.pow 2 53
  · have hle : n ≤ 9007199254740992 := hsmall
    have hbound : 9007199254740992 ≤ Nat.pow 2 1024 := by decide +kernel
    generalize Nat.pow 2 1024 = bound at hbound ⊢
    omega
  · have hlarge : Nat.pow 2 53 < n := Nat.not_le.mp hsmall
    rw [round_natCast_large hlarge] at h
    split at h
    · rename_i hfits
      have hhalf := (le_nearestPlace (Nat.le_of_lt hlarge)).2
      generalize Nat.pow 2 1024 = bound at hfits
      omega
    · cases h

/-- A negative whole number is not rounded to a positive one. -/
theorem not_pos_round {k : Int} (h : k < 0) : lt (finite 0) (round (k : Rat)) = false := by
  by_cases hsmall : k.natAbs ≤ Nat.pow 2 53
  · rw [round_intCast hsmall]
    simp only [lt, decide_eq_false_iff_not, Rat.not_lt]
    exact Rat.intCast_nonpos.mpr (Int.le_of_lt h)
  · obtain ⟨m, -, hm⟩ := @roundMagnitude_whole k.natAbs (by omega)
    rw [round_intCast_large hsmall, hm]
    by_cases hfits : (m : Rat) < ((Nat.pow 2 1024 : Nat) : Rat)
    · simp only [if_pos hfits, h, if_true]
      split
      · rfl
      · simp only [lt, decide_eq_false_iff_not, Rat.not_lt]
        exact Rat.neg_le_neg (a := 0) Rat.natCast_nonneg
    · simp only [if_neg hfits, h, decide_true, lt, Bool.not_true]

/-- **The elapsed time is a whole number of the format**, if it is finite at all. -/
theorem elapsedMs_whole {a b : Number} (h : (elapsedMs a b).isFinite = true) : Whole (elapsedMs a b) := by
  rw [elapsedMs] at h ⊢
  rcases atLeastZero_cases (sub b a).floor with hx | hx | ⟨hx, hpos⟩
  · rw [hx] at h
    cases h
  · rw [hx]
    exact whole_of_le (n := 0) (Nat.zero_le _)
  · -- nothing was cut off at zero: the time is what rounding the floor has left
    rw [hx] at h ⊢
    generalize sub b a = x at h hpos
    cases x with
    | nan => cases h
    | infinity s => cases h
    | negativeZero => exact absurd hpos (by simp [floor, lt])
    | finite r =>
      rw [floor] at h hpos ⊢
      rcases Int.lt_or_le r.floor 0 with hneg | hnonneg
      · rw [not_pos_round hneg] at hpos
        cases hpos
      · obtain ⟨n, hn⟩ := Int.eq_ofNat_of_zero_le hnonneg
        rw [hn, Rat.intCast_natCast] at h hpos ⊢
        cases hround : round (n : Rat) with
        | finite s => exact whole_of_round hround
        | negativeZero => rw [hround] at hpos; exact absurd hpos (by simp [lt])
        | nan => rw [hround] at h; cases h
        | infinity s => rw [hround] at h; cases h

/-! ## Printing -/

/-- What the search finds has the exponent that belongs to its number of digits, and is rounded back. -/
theorem readBack?_eq_some {r : Rat} {count : Nat} {d : Decimal} (h : readBack? r count = some d) :
    d.exponent = floorLog10 r.num.natAbs r.den + 1 - (count : Int) ∧ round d.value = finite r := by
  simp only [readBack?] at h
  split at h
  · rename_i hlow hhigh
    split at h
    · obtain rfl := Option.some.inj h
      exact ⟨rfl, of_decide_eq_true hlow⟩
    · split at h
      · obtain rfl := Option.some.inj h
        exact ⟨rfl, of_decide_eq_true hhigh⟩
      · split at h
        · obtain rfl := Option.some.inj h
          exact ⟨rfl, of_decide_eq_true hlow⟩
        · obtain rfl := Option.some.inj h
          exact ⟨rfl, of_decide_eq_true hhigh⟩
  · rename_i hlow hhigh
    obtain rfl := Option.some.inj h
    exact ⟨rfl, of_decide_eq_true hlow⟩
  · rename_i hlow hhigh
    obtain rfl := Option.some.inj h
    exact ⟨rfl, of_decide_eq_true hhigh⟩
  · cases h

/-- With as many digits as a whole number has, the number itself is a candidate. -/
theorem readBack?_ne_none {n : Nat} (hround : round (n : Rat) = finite (n : Rat)) {count : Nat}
    (hcount : floorLog10 n 1 + 1 - (count : Int) = 0) : readBack? (n : Rat) count ≠ none := by
  have hexact : (⟨gridFloor n 1 0, 0⟩ : Decimal).value = (n : Rat) := by
    simp [Decimal.value, gridFloor]
  simp only [readBack?, Rat.num_natCast, Int.natAbs_natCast, Rat.den_natCast, hcount, hexact, hround, decide_true]
  split
  · split
    · simp
    · split
      · simp
      · split <;> simp
  · simp
  · rename_i hfalse _
    cases hfalse
  · rename_i hfalse _
    cases hfalse

theorem searchShortest_eq_some {n most : Nat} (hmost : readBack? (n : Rat) most ≠ none)
    (hdigits : (most : Int) = floorLog10 n 1 + 1) {fuel count : Nat} {d : Decimal} (hcount : count ≤ most)
    (h : searchShortest (n : Rat) fuel count = some d) : 0 ≤ d.exponent ∧ round d.value = finite (n : Rat) := by
  induction fuel generalizing count with
  | zero => cases h
  | succ fuel ih =>
    rw [searchShortest] at h
    cases hback : readBack? (n : Rat) count with
    | some d' =>
      rw [hback] at h
      obtain rfl : d' = d := Option.some.inj h
      obtain ⟨hexponent, hround⟩ := readBack?_eq_some hback
      rw [Rat.num_natCast, Int.natAbs_natCast, Rat.den_natCast] at hexponent
      exact ⟨by omega, hround⟩
    | none =>
      rw [hback] at h
      have hne : count ≠ most := by
        rintro rfl
        exact hmost hback
      exact ih (by omega) h

/-- **The digits of a whole number** of the format: a multiple of a power of ten that is rounded back to the number. -/
theorem shortest_whole {n : Nat} (hpos : 0 < n) (hround : round (n : Rat) = finite (n : Rat)) :
    ∃ digits k : Nat, shortest (n : Rat) = ⟨digits, k⟩ ∧
      round ((digits * Nat.pow 10 k : Nat) : Rat) = finite (n : Rat) := by
  have hlength : floorLog10 n 1 = ((Nat.toDigits 10 n).length : Int) - 1 := by
    rw [floorLog10, if_pos (by omega), Nat.div_one]
  have hdigits : ((Nat.toDigits 10 n).length : Int) = floorLog10 n 1 + 1 := by omega
  have hsome : 0 < (Nat.toDigits 10 n).length := List.length_pos_iff.mpr Nat.toDigits_ne_nil
  have hmost : readBack? (n : Rat) (Nat.toDigits 10 n).length ≠ none := readBack?_ne_none hround (by omega)
  cases hsearch : searchShortest (n : Rat) 17 1 with
  | none =>
    refine ⟨n, 0, ?_, ?_⟩
    · simp [shortest, hsearch, show Nat.log2 1 = 0 by decide]
    · rwa [show n * Nat.pow 10 0 = n from Nat.mul_one n]
  | some d =>
    obtain ⟨hexponent, hback⟩ := searchShortest_eq_some hmost hdigits (by omega) hsearch
    refine ⟨d.digits, d.exponent.toNat, ?_, ?_⟩
    · rw [shortest, hsearch, Option.getD_some, Int.toNat_of_nonneg hexponent]
    · rwa [Decimal.value, if_pos hexponent] at hback

/-- The text of digits: the first one, a point before the others if there are any, and the exponent. -/
def scientific (c : Char) (rest : List Char) (e : Nat) : List Char :=
  c :: ((if rest.isEmpty then [] else '.' :: rest) ++ 'e' :: '+' :: Nat.toDigits 10 e)

/-- **The two layouts of a whole decimal**: in full, or with an exponent. -/
theorem layout_cases {digits : Nat} (hpos : 0 < digits) (k : Nat) :
    ∃ c rest z, (∀ x ∈ c :: rest, isDigit x = true) ∧ c ≠ '0' ∧
      digitsToNat (c :: rest) * Nat.pow 10 z = digits * Nat.pow 10 k ∧
      ((layout ⟨digits, k⟩).toList = c :: rest ++ List.replicate z '0' ∨
        (layout ⟨digits, k⟩).toList = scientific c rest (rest.length + z)) := by
  obtain ⟨z, hz⟩ := exists_dropFinalZeros (Nat.toDigits 10 digits)
  have hkept : ∀ x ∈ dropFinalZeros (Nat.toDigits 10 digits), isDigit x = true := by
    intro x hx
    apply isDigit_of_mem_toDigits (n := digits)
    rw [hz]
    exact List.mem_append_left _ hx
  have hvalue : digitsToNat (dropFinalZeros (Nat.toDigits 10 digits)) * Nat.pow 10 z = digits := by
    rw [← digitsToNat_append_zeros, ← hz, digitsToNat_toDigits]
  have hhead := head?_toDigits hpos
  have hlength := congrArg List.length hz
  rw [List.length_append, List.length_replicate] at hlength
  rw [layout]
  dsimp only
  generalize hds : dropFinalZeros (Nat.toDigits 10 digits) = ds at *
  cases ds with
  | nil =>
    -- only zeros: impossible, since a positive number does not begin with one
    rw [hz] at hhead
    cases z with
    | zero => exact absurd hvalue (by simp [digitsToNat]; omega)
    | succ z => exact absurd rfl hhead
  | cons c rest =>
    have hc : c ≠ '0' := by
      rintro rfl
      rw [hz] at hhead
      exact hhead rfl
    refine ⟨c, rest, z + k, hkept, hc, ?_, ?_⟩
    · rw [show Nat.pow 10 (z + k) = Nat.pow 10 z * Nat.pow 10 k from Nat.pow_add 10 z k, ← Nat.mul_assoc, hvalue]
    · rw [List.length_cons] at *
      -- up to 21 places are written out; there are no others to the left of the point of a whole number
      by_cases hfull : (Nat.toDigits 10 digits).length + k ≤ 21
      · left
        rw [if_pos (by omega), String.toList_ofList]
        congr 2
        omega
      · right
        rw [if_neg (by omega), if_neg (by omega), if_neg (by omega), if_neg (by omega)]
        have hexponent : (((Nat.toDigits 10 digits).length : Int) + k - 1).natAbs = rest.length + (z + k) := by omega
        rw [hexponent]
        cases rest with
        | nil => simp [scientific, natText]
        | cons d rest => simp [scientific, natText]

end Number

/-! ## Reading -/

open Number

namespace Json

/-- What stands behind a value inside a text: nothing, or the end or the continuation of a list or object. -/
def Delimited (rest : List Char) : Prop := ∀ c, rest.head? = some c → c = ',' ∨ c = ']' ∨ c = '}'

theorem delimited_nil : Delimited [] := fun _ h => nomatch h

theorem delimited_cons {c : Char} (h : c = ',' ∨ c = ']' ∨ c = '}') (rest : List Char) : Delimited (c :: rest) := by
  intro d hd
  obtain rfl : c = d := Option.some.inj hd
  exact h

variable {rest : List Char}

theorem Delimited.not_isDigit (h : Delimited rest) : ∀ c, rest.head? = some c → isDigit c = false := by
  intro c hc
  rcases h c hc with rfl | rfl | rfl <;> decide

/-- Digits before something else are split off. -/
theorem spanDigits_append {ds rest : List Char} (hds : ∀ c ∈ ds, isDigit c = true)
    (hrest : ∀ c, rest.head? = some c → isDigit c = false) : spanDigits (ds ++ rest) = (ds, rest) := by
  rw [spanDigits, List.takeWhile_append_of_pos hds, List.dropWhile_append_of_pos hds]
  cases rest with
  | nil => simp
  | cons c rest => simp [hrest c rfl]

/-- A number is read part by part. -/
theorem readNumber_parts {whole fraction afterWhole afterFraction : List Char} {e : Int} (hwhole : IsNumeral whole)
    (hspan : ∀ c, afterWhole.head? = some c → isDigit c = false)
    (hfraction : fractionPart afterWhole = some (fraction, afterFraction))
    (hexponent : exponentPart afterFraction = some (e, rest)) :
    readNumber (whole ++ afterWhole) =
      some (ofDecimal false (digitsToNat (whole ++ fraction)) (e - (fraction.length : Int)), rest) := by
  obtain ⟨c, cs, rfl⟩ := List.exists_cons_of_ne_nil hwhole.nonempty
  have hsign : c ≠ '-' := by
    rintro rfl
    exact absurd (hwhole.digits '-' List.mem_cons_self) (by decide)
  have hleading : ¬(c = '0' ∧ 0 < cs.length) := by
    rintro ⟨rfl, hlong⟩
    have hone := hwhole.leading rfl
    rw [List.length_cons] at hone
    omega
  have hunsigned : readNumber (c :: cs ++ afterWhole) = readMagnitude false (c :: cs ++ afterWhole) := by
    rw [readNumber]
    intro r hcons
    exact hsign (List.cons.inj hcons).1
  rw [hunsigned, readMagnitude, spanDigits_append hwhole.digits hspan]
  simp [hfraction, hexponent, hleading]

theorem fractionPart_of_ne (h : rest.head? ≠ some '.') : fractionPart rest = some ([], rest) := by
  rw [fractionPart]
  rintro r rfl
  exact h rfl

/-- **Digits alone** are read as the number they denote. -/
theorem readNumber_digits {ds : List Char} (h : IsNumeral ds) (hrest : Delimited rest) :
    readNumber (ds ++ rest) = some (ofDecimal false (digitsToNat ds) 0, rest) := by
  have hpoint : rest.head? ≠ some '.' := by
    intro heq
    rcases hrest '.' heq with heq | heq | heq <;> exact absurd heq (by decide)
  have hexponent : exponentPart rest = some (0, rest) := by
    cases rest with
    | nil => rfl
    | cons d rest =>
      rw [exponentPart, if_neg]
      rcases hrest d rfl with rfl | rfl | rfl <;> decide
  have hread := readNumber_parts h hrest.not_isDigit (fractionPart_of_ne hpoint) hexponent
  rwa [List.append_nil] at hread

/-- **Digits with an exponent** are read as the number they denote. -/
theorem readNumber_scientific {c : Char} {ds : List Char} (hds : ∀ x ∈ c :: ds, isDigit x = true) (z : Nat)
    (hrest : Delimited rest) :
    readNumber (scientific c ds (ds.length + z) ++ rest) =
      some (ofDecimal false (digitsToNat (c :: ds)) (z : Int), rest) := by
  have hfirst : IsNumeral [c] := by
    refine ⟨fun x hx => hds x ?_, by simp, fun _ => rfl⟩
    rw [List.mem_singleton.mp hx]
    exact List.mem_cons_self
  have hhead : ∀ {x : Char} (cs : List Char), isDigit x = false → ∀ y, (x :: cs).head? = some y →
      isDigit y = false := by
    intro x cs hx y hy
    obtain rfl := Option.some.inj hy
    exact hx
  have hexponent : exponentPart ('e' :: '+' :: (Nat.toDigits 10 (ds.length + z) ++ rest)) =
      some (((ds.length + z : Nat) : Int), rest) := by
    have hspan : spanDigits (Nat.toDigits 10 (ds.length + z) ++ rest) = (Nat.toDigits 10 (ds.length + z), rest) :=
      spanDigits_append (fun x hx => isDigit_of_mem_toDigits hx) hrest.not_isDigit
    rw [exponentPart, if_pos (Or.inl rfl)]
    simp [signPart, hspan, digitsToNat_toDigits, Nat.toDigits_ne_nil]
  cases ds with
  | nil =>
    have hread := readNumber_parts hfirst (hhead _ (by decide)) (fractionPart_of_ne (by simp)) hexponent
    simpa [scientific] using hread
  | cons d ds =>
    have hfraction : fractionPart ('.' :: (d :: ds ++ 'e' :: '+' :: (Nat.toDigits 10 ((d :: ds).length + z) ++ rest))) =
        some (d :: ds, 'e' :: '+' :: (Nat.toDigits 10 ((d :: ds).length + z) ++ rest)) := by
      rw [fractionPart, spanDigits_append (fun x hx => hds x (List.mem_cons_of_mem _ hx)) (hhead _ (by decide))]
      rfl
    have hread := readNumber_parts hfirst (hhead _ (by decide)) hfraction hexponent
    -- the digits behind the point lower the exponent by as many places
    have hshift : (((d :: ds).length + z : Nat) : Int) - ((d :: ds).length : Int) = (z : Int) := by omega
    rw [hshift] at hread
    simpa [scientific] using hread

/-- A decimal without a fraction is rounded once, as long as its exponent is in the range of the format. -/
theorem ofDecimal_natCast (digits : Nat) {e : Nat} (he : e ≤ 400) :
    ofDecimal false digits (e : Int) = Number.round ((digits * Nat.pow 10 e : Nat) : Rat) := by
  have hlow : ¬(e : Int) < -(digits.log2 : Int) - 400 := by omega
  have hhigh : ¬400 < (e : Int) := by omega
  simp only [ofDecimal, hlow, hhigh, Int.natCast_nonneg, Int.toNat_natCast, Bool.false_eq_true, if_false, if_true]
  split
  · rename_i hzero
    rw [hzero, Nat.zero_mul]
    exact (round_natCast_small (Nat.zero_le _)).symm
  · rfl

theorem readNumber_whole {ds : List Char} (h : IsNumeral ds) (hrest : Delimited rest) :
    readNumber (ds ++ rest) = some (Number.round ((digitsToNat ds : Nat) : Rat), rest) := by
  have hvalue := ofDecimal_natCast (digitsToNat ds) (Nat.zero_le 400)
  rw [show Nat.pow 10 0 = 1 from rfl, Nat.mul_one] at hvalue
  rw [readNumber_digits h hrest]
  exact congrArg (fun x => some (x, rest)) hvalue

theorem le_of_mul_natPow_lt {digits z k bound : Nat} (hpos : 0 < digits) (h : digits * Nat.pow 10 z < bound)
    (hbound : bound ≤ Nat.pow 10 (k + 1)) : z ≤ k := by
  rcases Nat.lt_or_ge k z with hlarge | hsmall
  · have hpower : Nat.pow 10 (k + 1) ≤ Nat.pow 10 z := Nat.pow_le_pow_right (by decide) hlarge
    have hfactor : Nat.pow 10 z ≤ digits * Nat.pow 10 z := Nat.le_mul_of_pos_left _ hpos
    omega
  · exact hsmall

/-- A decimal that is rounded to a finite number has an exponent in the range of the format. -/
theorem exponent_le {digits z : Nat} {r : Rat} (hpos : 0 < digits)
    (h : Number.round ((digits * Nat.pow 10 z : Nat) : Rat) = finite r) : z ≤ 400 :=
  le_of_mul_natPow_lt (k := 400) hpos (lt_of_round_eq_finite h) (by decide +kernel)

/-- **A whole number of the format is read back** from its text, whatever delimits it. -/
theorem readNumber_text {x : Number} (h : Whole x) (hrest : Delimited rest) :
    readNumber (x.text.toList ++ rest) = some (x, rest) := by
  obtain ⟨n, rfl, hround⟩ := h
  have hfull : readNumber (Nat.toDigits 10 n ++ rest) = some (finite (n : Rat), rest) := by
    rw [readNumber_whole (isNumeral_toDigits n) hrest, digitsToNat_toDigits, hround]
  rcases Nat.eq_zero_or_pos n with rfl | hpos
  · exact hfull
  · have hsign : (finite (n : Rat)).text = positiveText (n : Rat) := by
      rw [text, Rat.num_natCast, if_neg (by omega), if_neg (by omega)]
    rw [hsign, positiveText]
    split
    · rwa [Rat.num_natCast, Int.natAbs_natCast, natText, String.toList_ofList]
    · -- the digits that the search has found are rounded to the number, in whichever layout they are read
      obtain ⟨digits, k, hshortest, hback⟩ := shortest_whole hpos hround
      have hdigits : 0 < digits := by
        rcases Nat.eq_zero_or_pos digits with rfl | hdigits
        · rw [Nat.zero_mul, round_natCast_small (Nat.zero_le _)] at hback
          exact absurd (Rat.natCast_inj.mp (Number.finite.inj hback)) (by omega)
        · exact hdigits
      obtain ⟨c, ds, z, hds, hc, hvalue, hlayout⟩ := layout_cases hdigits k
      rw [← hvalue] at hback
      rw [hshortest]
      rcases hlayout with hlayout | hlayout
      · have hnumeral : IsNumeral (c :: ds ++ List.replicate z '0') := by
          refine ⟨fun x hx => ?_, by simp, fun hhead => absurd (Option.some.inj hhead) hc⟩
          rcases List.mem_append.mp hx with hx | hx
          · exact hds x hx
          · rw [List.eq_of_mem_replicate hx]
            decide
        rw [hlayout, readNumber_whole hnumeral hrest, digitsToNat_append_zeros, hback]
      · have hsome : 0 < digitsToNat (c :: ds) := by
          rcases Nat.eq_zero_or_pos (digitsToNat (c :: ds)) with hzero | hsome
          · rw [hzero, Nat.zero_mul] at hvalue
            exact absurd hvalue.symm (Nat.ne_of_gt (Nat.mul_pos hdigits (Nat.pow_pos (by decide))))
          · exact hsome
        rw [hlayout, readNumber_scientific hds z hrest, ofDecimal_natCast _ (exponent_le hsome hback), hback]

end Json

end DataplaneVerdict
