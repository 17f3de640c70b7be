import DataplaneVerdict.Run.Verification

/-!
# `Proofs.Markers` — what the rules find in an annotated output

The rules search the engine's output for markers, and before they do, a note is put under the output of an engine that
ran out of time. The note begins a line of its own and no marker reaches over the end of a line, so a marker in the
annotated output stands in the output or in the note (`infix_append_cons_iff`). In the note it cannot stand, because
each marker has a character that neither the words of the note nor the text of any number has (`Number.isTextChar`).
Hence the note neither adds nor hides a marker (`StageResult.shows_annotated_iff`).
-/

namespace DataplaneVerdict

/-! ## Occurrences -/

section Occurrence

variable {α : Type}

/-- Searching decides whether the one list is an infix of the other. -/
theorem Text.occurs_iff [BEq α] [LawfulBEq α] {needle l : List α} : occurs needle l = true ↔ needle <:+: l := by
  induction l with
  | nil => rw [occurs, List.isEmpty_iff, List.infix_nil]
  | cons c rest ih => rw [occurs, Bool.or_eq_true, List.isPrefixOf_iff_prefix, ih, List.infix_cons_iff]

theorem Text.contains_iff {text needle : String} : contains text needle = true ↔ needle.toList <:+: text.toList :=
  occurs_iff

/-- What begins a list with a separator and does not have it ends before it. -/
theorem prefix_of_prefix_append_cons {needle a b : List α} {x : α} (hx : x ∉ needle) (h : needle <+: a ++ x :: b) :
    needle <+: a := by
  have hsep : a ++ [x] <+: a ++ x :: b := ⟨b, by simp⟩
  rcases List.prefix_or_prefix_of_prefix h hsep with hshort | hlong
  · rcases List.prefix_concat_iff.mp hshort with rfl | hinside
    · exact absurd (List.mem_append_right a List.mem_cons_self) hx
    · exact hinside
  · exact absurd (hlong.subset (List.mem_append_right a List.mem_cons_self)) hx

/-- What stands in a list with a separator and does not have it stands on one side of it. -/
theorem infix_append_cons_iff {needle a b : List α} {x : α} (hx : x ∉ needle) :
    needle <:+: a ++ x :: b ↔ needle <:+: a ∨ needle <:+: b := by
  constructor
  · intro h
    induction a with
    | nil =>
      rcases List.infix_cons_iff.mp h with hprefix | hright
      · have hnil := prefix_of_prefix_append_cons (a := []) hx hprefix
        exact .inl hnil.isInfix
      · exact .inr hright
    | cons c a ih =>
      rcases List.infix_cons_iff.mp h with hprefix | hrest
      · have hinside := prefix_of_prefix_append_cons (a := c :: a) hx hprefix
        exact .inl hinside.isInfix
      · exact (ih hrest).imp List.infix_cons id
  · rintro (h | h)
    · exact h.trans (List.prefix_append _ _).isInfix
    · exact h.trans ((List.suffix_cons x b).trans (List.suffix_append a (x :: b))).isInfix

/-- What is not begun in the first part of a list stands in the second. -/
theorem infix_append_of_head_notMem {x : α} {needle a b : List α} (hx : x ∉ a) :
    x :: needle <:+: a ++ b ↔ x :: needle <:+: b := by
  induction a with
  | nil => exact Iff.rfl
  | cons c a ih =>
    have hc : ¬x :: needle <+: c :: (a ++ b) := fun h =>
      hx ((List.cons_prefix_cons.mp h).1 ▸ List.mem_cons_self)
    rw [List.cons_append, List.infix_cons_iff, or_iff_right hc]
    exact ih fun hmem => hx (List.mem_cons_of_mem c hmem)

end Occurrence

/-! ## The characters of numbers -/

namespace Number

/-- The characters that the text of a number can have. -/
def isTextChar (c : Char) : Bool := c.isDigit || "+-.INaefinty".toList.contains c

theorem isTextChar_of_mem_toDigits {n : Nat} {c : Char} (h : c ∈ Nat.toDigits 10 n) : isTextChar c = true := by
  rw [isTextChar, Nat.isDigit_of_mem_toDigits (by decide) (by decide) h, Bool.true_or]

theorem mem_of_mem_dropFinalZeros {ds : List Char} {c : Char} (h : c ∈ dropFinalZeros ds) : c ∈ ds :=
  List.mem_reverse.mp ((List.dropWhile_sublist _).subset (List.mem_reverse.mp h))

theorem isTextChar_natText {n : Nat} {c : Char} (h : c ∈ (natText n).toList) : isTextChar c = true := by
  rw [natText, String.toList_ofList] at h
  exact isTextChar_of_mem_toDigits h

theorem isTextChar_exponent {e : Int} {c : Char}
    (h : c ∈ ((if e < 0 then "e-" else "e+") ++ natText e.natAbs).toList) : isTextChar c = true := by
  rw [String.toList_append, List.mem_append] at h
  rcases h with hsign | hdigits
  · split at hsign
    · exact List.all_eq_true.mp (show "e-".toList.all isTextChar = true by decide) c hsign
    · exact List.all_eq_true.mp (show "e+".toList.all isTextChar = true by decide) c hsign
  · exact isTextChar_natText hdigits

theorem isTextChar_layout {d : Decimal} {c : Char} (h : c ∈ (layout d).toList) : isTextChar c = true := by
  have hdigits {c : Char} (hc : c ∈ dropFinalZeros (Nat.toDigits 10 d.digits)) : isTextChar c = true :=
    isTextChar_of_mem_toDigits (mem_of_mem_dropFinalZeros hc)
  unfold layout at h
  dsimp only at h
  split at h
  · rw [String.toList_ofList, List.mem_append] at h
    rcases h with h | h
    · exact hdigits h
    · rw [List.eq_of_mem_replicate h]
      decide
  · split at h
    · rw [String.toList_ofList, List.mem_append, List.mem_cons] at h
      rcases h with h | rfl | h
      · exact hdigits (List.mem_of_mem_take h)
      · decide
      · exact hdigits (List.mem_of_mem_drop h)
    · split at h
      · rw [String.toList_ofList, List.mem_cons, List.mem_cons, List.mem_append] at h
        rcases h with rfl | rfl | h | h
        · decide
        · decide
        · rw [List.eq_of_mem_replicate h]
          decide
        · exact hdigits h
      · -- with an exponent: one digit, or more around a point
        split at h
        · rw [List.mem_singleton.mp h]
          decide
        · rename_i heq
          rw [heq] at hdigits
          rw [String.toList_append, String.toList_ofList, List.mem_append] at h
          rcases h with h | h
          · exact hdigits h
          · exact isTextChar_exponent h
        · rename_i first rest _ heq
          rw [heq] at hdigits
          rw [String.toList_append, String.toList_ofList, List.mem_append, List.mem_cons, List.mem_cons] at h
          rcases h with (rfl | rfl | h) | h
          · exact hdigits List.mem_cons_self
          · decide
          · exact hdigits (List.mem_cons_of_mem _ h)
          · exact isTextChar_exponent h

theorem isTextChar_positiveText {r : Rat} {c : Char} (h : c ∈ (positiveText r).toList) : isTextChar c = true := by
  unfold positiveText at h
  split at h
  · exact isTextChar_natText h
  · exact isTextChar_layout h

/-- **The text of a number** has no other characters. -/
theorem isTextChar_text {n : Number} {c : Char} (h : c ∈ (text n).toList) : isTextChar c = true := by
  cases n with
  | nan => exact List.all_eq_true.mp (show "NaN".toList.all isTextChar = true by decide) c h
  | infinity negative =>
    cases negative with
    | false => exact List.all_eq_true.mp (show "Infinity".toList.all isTextChar = true by decide) c h
    | true => exact List.all_eq_true.mp (show "-Infinity".toList.all isTextChar = true by decide) c h
  | negativeZero => exact List.all_eq_true.mp (show "0".toList.all isTextChar = true by decide) c h
  | finite r =>
    rw [text] at h
    split at h
    · exact List.all_eq_true.mp (show "0".toList.all isTextChar = true by decide) c h
    · split at h
      · rw [String.toList_append, List.mem_append] at h
        rcases h with h | h
        · exact List.all_eq_true.mp (show "-".toList.all isTextChar = true by decide) c h
        · exact isTextChar_positiveText h
      · exact isTextChar_positiveText h

end Number

/-! ## The note of a timeout -/

/-- The markers that the rules look for. -/
def markers : List String := [assertionFailureMarker, abortFailureMarker, completionMarker]

/-- The note about a time budget that ran out. -/
def timeoutNote (seconds : Number) : String := "Timeout after " ++ seconds.text ++ "s"

/-- The text `marker` stands somewhere in `output`. -/
def Shows (output marker : String) : Prop := marker.toList <:+: output.toList

theorem contains_eq_decide_shows (output marker : String) [Decidable (Shows output marker)] :
    Text.contains output marker = decide (Shows output marker) := by
  rw [Bool.eq_iff_iff, Text.contains_iff, decide_eq_true_iff]
  rfl

instance (output marker : String) : Decidable (Shows output marker) :=
  decidable_of_iff (Text.contains output marker = true) Text.contains_iff

/-- What a result shows: its output, with the note below it if the time ran out. -/
def StageResult.annotated (r : StageResult) (seconds : Number) : String :=
  if r.status = .timedOut then
    if r.output.isEmpty then timeoutNote seconds else r.output ++ "\n" ++ timeoutNote seconds
  else r.output

/-- Every marker has a character that no note has. -/
theorem exists_foreign_of_mem_markers {marker : String} (h : marker ∈ markers) :
    ∃ x ∈ marker.toList, x ∉ "Timeout after s".toList ∧ Number.isTextChar x = false := by
  simp only [markers, List.mem_cons, List.not_mem_nil, or_false] at h
  rcases h with rfl | rfl | rfl
  · exact ⟨'S', by decide, by decide, by decide⟩
  · exact ⟨'b', by decide, by decide, by decide⟩
  · exact ⟨'K', by decide, by decide, by decide⟩

theorem newline_not_mem_of_mem_markers {marker : String} (h : marker ∈ markers) : '\n' ∉ marker.toList := by
  revert marker
  decide

theorem toList_timeoutNote (seconds : Number) :
    (timeoutNote seconds).toList = "Timeout after ".toList ++ seconds.text.toList ++ "s".toList :=
  String.toList_append.trans (congrArg (· ++ "s".toList) String.toList_append)

theorem not_shows_timeoutNote {marker : String} (h : marker ∈ markers) (seconds : Number) :
    ¬Shows (timeoutNote seconds) marker := by
  intro hshows
  -- a character of the marker that stands neither in the words around the number nor in any number
  obtain ⟨x, hx, hwords, hnumber⟩ := exists_foreign_of_mem_markers h
  have hmem : x ∈ (timeoutNote seconds).toList := hshows.subset hx
  rw [toList_timeoutNote, List.mem_append, List.mem_append] at hmem
  rcases hmem with (hmem | hmem) | hmem
  · exact hwords (List.mem_append_left "s".toList hmem)
  · rw [Number.isTextChar_text hmem] at hnumber
    cases hnumber
  · exact hwords (List.mem_append_right "Timeout after ".toList hmem)

theorem not_shows_empty {marker : String} (h : marker ∈ markers) : ¬Shows "" marker := by
  revert marker
  decide

/-- **The note neither adds nor hides a marker.** -/
theorem StageResult.shows_annotated_iff {marker : String} (h : marker ∈ markers) (r : StageResult) (seconds : Number) :
    Shows (r.annotated seconds) marker ↔ Shows r.output marker := by
  unfold annotated
  split
  · split
    · rename_i hempty
      rw [String.isEmpty_iff.mp hempty]
      exact iff_of_false (not_shows_timeoutNote h seconds) (not_shows_empty h)
    · have hlines : (r.output ++ "\n" ++ timeoutNote seconds).toList =
          r.output.toList ++ '\n' :: (timeoutNote seconds).toList := by
        simp
      have hsides := infix_append_cons_iff (a := r.output.toList) (b := (timeoutNote seconds).toList)
        (newline_not_mem_of_mem_markers h)
      rw [Shows, hlines, hsides]
      exact or_iff_left (not_shows_timeoutNote h seconds)
  · exact Iff.rfl

end DataplaneVerdict
