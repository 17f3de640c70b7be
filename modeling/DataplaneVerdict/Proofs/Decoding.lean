import DataplaneVerdict.Proofs.Markers
import DataplaneVerdict.Proofs.Settlement

/-!
# `Proofs.Decoding` — markers in bytes and in the text that they spell

A process writes bytes, and its streams are searched as text. The markers are ASCII, and for an ASCII text it makes no
difference where one looks for it, however malformed the bytes around it are: a byte below `0x80` always spells itself,
even where it breaks off an unfinished character, and no other byte ever spells an ASCII character. So between two ASCII
characters of the text there is another one just if there is another byte between their bytes.

The decoder is one fold over the bytes with the text read so far aside. `Utf8.spelled` is the text still to come, from
any state, by recursion on the bytes; what one byte can do from any sound state is said once (`Utf8.step_cases`).

## Contents
- **Unfinished characters.** `Utf8.Pending.Sound`: whatever bytes follow, the character that they finish is no ASCII
  one.
- **One byte.** `Utf8.step_cases`.
- **All bytes.** `Utf8.spelled`, `Utf8.prefix_spelled_iff`, `Utf8.infix_spelled_iff`.
- **Streams.** `Supervision.markers_of_streams`.
-/

namespace DataplaneVerdict

namespace Utf8

/-- The characters that are one byte. -/
def IsAscii (c : Char) : Prop := c.toNat < 0x80

instance (c : Char) : Decidable (IsAscii c) := inferInstanceAs (Decidable (c.toNat < 0x80))

theorem toNat_ofNat {n : Nat} (h : n.isValidChar) : (Char.ofNat n).toNat = n := by
  rw [Char.ofNat, dif_pos h]
  rfl

theorem not_isAscii_replacement : ¬IsAscii replacement := by decide

/-! ## Unfinished characters -/

namespace Pending

/-- The least code that an unfinished character can come to have. -/
def least (p : Pending) : Nat := (p.code * 64 + (p.low - 0x80)) * Nat.pow 64 (p.owed - 1)

/-- A bound of the codes that an unfinished character can come to have. -/
def bound (p : Pending) : Nat := (p.code * 64 + (p.high - 0x80) + 1) * Nat.pow 64 (p.owed - 1)

/-- **An unfinished character as the decoder has it**: only bytes that are no ASCII continue it, and all codes that it
can come to have are those of characters that are no ASCII either. -/
structure Sound (p : Pending) : Prop where
  low : 0x80 ≤ p.low
  high : p.high ≤ 0xBF
  least : 0x80 ≤ p.least
  scalar : p.bound ≤ 0xD800 ∨ 0xE000 ≤ p.least ∧ p.bound ≤ 0x110000

variable {p : Pending} {n : Nat}

/-- The last byte finishes a character that is no ASCII one. -/
theorem Sound.finish (h : p.Sound) (howed : p.owed ≤ 1) (hlow : p.low ≤ n) (hhigh : n ≤ p.high) :
    ¬IsAscii (Char.ofNat (p.code * 64 + (n - 0x80))) := by
  obtain ⟨-, -, hleast, hscalar⟩ := h
  have hzero : p.owed - 1 = 0 := by omega
  simp only [Pending.least, Pending.bound, hzero, Nat.pow_eq, Nat.pow_zero, Nat.mul_one] at hleast hscalar
  have hvalid : (p.code * 64 + (n - 0x80)).isValidChar := by
    unfold Nat.isValidChar
    omega
  rw [IsAscii, toNat_ofNat hvalid]
  omega

/-- A byte before the last one narrows down which character it can be. -/
theorem Sound.continue (h : p.Sound) (howed : ¬p.owed ≤ 1) (hlow : p.low ≤ n) (hhigh : n ≤ p.high) :
    Sound ⟨p.code * 64 + (n - 0x80), p.owed - 1, 0x80, 0xBF⟩ := by
  obtain ⟨hlow', hhigh', hleast, hscalar⟩ := h
  obtain ⟨k, hk⟩ : ∃ k, p.owed = k + 2 := ⟨p.owed - 2, by omega⟩
  have hle : p.least ≤ Pending.least ⟨p.code * 64 + (n - 0x80), p.owed - 1, 0x80, 0xBF⟩ := by
    simp only [Pending.least, hk, Nat.add_sub_cancel, Nat.sub_self, Nat.add_zero, Nat.reduceSubDiff, Nat.pow_eq,
      Nat.pow_succ]
    rw [Nat.mul_assoc (p.code * 64 + (n - 0x80)), Nat.mul_comm 64]
    exact Nat.mul_le_mul_right _ (by omega)
  have hge : Pending.bound ⟨p.code * 64 + (n - 0x80), p.owed - 1, 0x80, 0xBF⟩ ≤ p.bound := by
    have hspan : (p.code * 64 + (n - 0x80)) * 64 + (0xBF - 0x80) + 1 = (p.code * 64 + (n - 0x80) + 1) * 64 := by omega
    simp only [Pending.bound, hspan, hk, Nat.add_sub_cancel, Nat.reduceSubDiff, Nat.pow_eq, Nat.pow_succ]
    rw [Nat.mul_assoc (p.code * 64 + (n - 0x80) + 1), Nat.mul_comm 64]
    exact Nat.mul_le_mul_right _ (by omega)
  exact ⟨Nat.le_refl _, Nat.le_refl _, Nat.le_trans hleast hle, by omega⟩

end Pending

/-! ## One byte -/

/-- An unfinished character that is broken off. -/
def broken : Option Pending → List Char
  | none => []
  | some _ => [replacement]

/-- What a byte leads to that is no ASCII: characters that are no ASCII either, and an unfinished one if there are
none. -/
structure Foreign (result : List Char × Option Pending) : Prop where
  characters : ∀ c ∈ result.1, ¬IsAscii c
  pending : ∀ p, result.2 = some p → p.Sound
  later : result.1 = [] → result.2 ≠ none

theorem foreign_pending {p : Pending} (h : p.Sound) : Foreign ([], some p) :=
  ⟨fun _ hc => absurd hc List.not_mem_nil, fun _ hp => Option.some.inj hp ▸ h, fun _ => Option.some_ne_none p⟩

theorem foreign_char {c : Char} (h : ¬IsAscii c) : Foreign ([c], none) :=
  ⟨fun _ hc => List.mem_singleton.mp hc ▸ h, fun _ hp => (by cases hp), fun hnil => by cases hnil⟩

theorem Foreign.broken {result : List Char × Option Pending} (h : Foreign result) :
    Foreign (replacement :: result.1, result.2) := by
  refine ⟨?_, h.pending, fun hnil => by cases hnil⟩
  rw [List.forall_mem_cons]
  exact ⟨not_isAscii_replacement, h.characters⟩

theorem first_ascii {b : UInt8} (h : b.toNat < 0x80) : first b = ([Char.ofNat b.toNat], none) := if_pos h

/-- A first byte that is no ASCII begins a sound character or is malformed. -/
theorem first_foreign {b : UInt8} (h : ¬b.toNat < 0x80) : Foreign (first b) := by
  have hsound {code owed low high : Nat} (hlow : 0x80 ≤ low) (hhigh : high ≤ 0xBF)
      (hleast : 0x80 ≤ (code * 64 + (low - 0x80)) * 64 ^ (owed - 1))
      (hscalar : (code * 64 + (high - 0x80) + 1) * 64 ^ (owed - 1) ≤ 0xD800 ∨
        0xE000 ≤ (code * 64 + (low - 0x80)) * 64 ^ (owed - 1) ∧
          (code * 64 + (high - 0x80) + 1) * 64 ^ (owed - 1) ≤ 0x110000) :
      Foreign ([], some ⟨code, owed, low, high⟩) := foreign_pending ⟨hlow, hhigh, hleast, hscalar⟩
  unfold first
  dsimp only
  rw [if_neg h]
  repeat' split
  -- seven kinds of first bytes, and last the bytes that begin nothing
  any_goals apply hsound <;> omega
  exact foreign_char not_isAscii_replacement

/-- **What one byte can do**, from any sound state: an ASCII byte breaks off an unfinished character and spells itself;
    any other leads to nothing that is ASCII. -/
theorem step_cases {state : Option Pending} (h : ∀ p, state = some p → p.Sound) (b : UInt8) :
    (b.toNat < 0x80 ∧ step state b = (broken state ++ [Char.ofNat b.toNat], none)) ∨
      (¬b.toNat < 0x80 ∧ Foreign (step state b)) := by
  by_cases hascii : b.toNat < 0x80
  · refine .inl ⟨hascii, ?_⟩
    cases state with
    | none => exact first_ascii hascii
    | some p =>
      have hlow := (h p rfl).low
      have hout : ¬(p.low ≤ b.toNat ∧ b.toNat ≤ p.high) := by omega
      rw [step]
      dsimp only
      rw [if_neg hout, first_ascii hascii]
      rfl
  · refine .inr ⟨hascii, ?_⟩
    cases state with
    | none => exact first_foreign hascii
    | some p =>
      rw [step]
      dsimp only
      split
      · rename_i hin
        split
        · exact foreign_char ((h p rfl).finish ‹_› hin.1 hin.2)
        · exact foreign_pending ((h p rfl).continue ‹_› hin.1 hin.2)
      · exact (first_foreign hascii).broken

/-! ## All bytes -/

/-- The characters that bytes spell from a state of the decoder on. -/
def spelled : Option Pending → Bytes → List Char
  | state, [] => broken state
  | state, b :: rest => (step state b).1 ++ spelled (step state b).2 rest

theorem finish_foldl_feed (bytes : Bytes) (d : Decoder) :
    (bytes.foldl Decoder.feed d).finish = d.read.reverse ++ spelled d.pending bytes := by
  induction bytes generalizing d with
  | nil =>
    rw [List.foldl_nil, Decoder.finish]
    cases d.pending <;> simp [spelled, broken]
  | cons b rest ih =>
    rw [List.foldl_cons, ih, spelled]
    simp [Decoder.feed]

/-- The text of a byte sequence, character by character. -/
theorem toList_decode (bytes : Bytes) : (decode bytes).toList = spelled none bytes := by
  rw [decode, String.toList_ofList, finish_foldl_feed]
  rfl

theorem spelled_ascii {state : Option Pending} (h : ∀ p, state = some p → p.Sound) {b : UInt8} (hb : b.toNat < 0x80)
    (rest : Bytes) : spelled state (b :: rest) = broken state ++ Char.ofNat b.toNat :: spelled none rest := by
  rcases step_cases h b with ⟨-, heq⟩ | ⟨hnot, -⟩
  · rw [spelled, heq, List.append_assoc, List.singleton_append]
  · exact absurd hb hnot

theorem step_foreign {state : Option Pending} (h : ∀ p, state = some p → p.Sound) {b : UInt8} (hb : ¬b.toNat < 0x80) :
    Foreign (step state b) := by
  rcases step_cases h b with ⟨hascii, -⟩ | ⟨-, hforeign⟩
  · exact absurd hascii hb
  · exact hforeign

theorem sound_none : ∀ p : Pending, none = some p → p.Sound := fun _ hp => by cases hp

theorem sound_some {p : Pending} (h : p.Sound) : ∀ q, some p = some q → q.Sound := fun _ hq => Option.some.inj hq ▸ h

/-- What is not ASCII begins with a character that is none, now or with what an unfinished one ends as. -/
theorem Foreign.exists_head {result : List Char × Option Pending} {rest : Bytes} (h : Foreign result)
    (hlater : ∀ p, p.Sound → ∃ c tail, spelled (some p) rest = c :: tail ∧ ¬IsAscii c) :
    ∃ c tail, result.1 ++ spelled result.2 rest = c :: tail ∧ ¬IsAscii c := by
  cases hout : result.1 with
  | nil =>
    obtain ⟨p, hp⟩ := Option.ne_none_iff_exists'.mp (h.later hout)
    rw [hp]
    exact hlater p (h.pending p hp)
  | cons c out => exact ⟨c, _, rfl, h.characters c (hout ▸ List.mem_cons_self)⟩

/-- What an unfinished character ends as is no ASCII character. -/
theorem exists_foreign_of_pending (bytes : Bytes) :
    ∀ p : Pending, p.Sound → ∃ c rest, spelled (some p) bytes = c :: rest ∧ ¬IsAscii c := by
  induction bytes with
  | nil => exact fun _ _ => ⟨replacement, [], rfl, not_isAscii_replacement⟩
  | cons b rest ih =>
    intro p h
    by_cases hb : b.toNat < 0x80
    · exact ⟨replacement, _, spelled_ascii (sound_some h) hb rest, not_isAscii_replacement⟩
    · exact (step_foreign (sound_some h) hb).exists_head ih

/-- A byte that is no ASCII begins with a character that is none. -/
theorem exists_foreign_of_byte {b : UInt8} (hb : ¬b.toNat < 0x80) (rest : Bytes) :
    ∃ c tail, spelled none (b :: rest) = c :: tail ∧ ¬IsAscii c :=
  (step_foreign sound_none hb).exists_head (exists_foreign_of_pending rest)

/-! ### ASCII texts -/

/-- The byte of an ASCII character. -/
def byteOf (c : Char) : UInt8 := UInt8.ofNat c.toNat

theorem toNat_byteOf {c : Char} (h : IsAscii c) : (byteOf c).toNat = c.toNat := by
  rw [byteOf, UInt8.toNat_ofNat', Nat.mod_eq_of_lt]
  exact Nat.lt_trans h (by decide)

theorem eq_ofNat_iff {c : Char} (h : IsAscii c) {b : UInt8} : c = Char.ofNat b.toNat ↔ byteOf c = b := by
  constructor
  · rintro rfl
    have hvalid : b.toNat.isValidChar := .inl (Nat.lt_trans b.toNat_lt (by decide))
    rw [byteOf, toNat_ofNat hvalid, UInt8.ofNat_toNat]
  · rintro rfl
    rw [toNat_byteOf h, Char.ofNat_toNat]

theorem encode_ascii {text : String} (h : ∀ c ∈ text.toList, IsAscii c) : encode text = text.toList.map byteOf := by
  have hone : ∀ c ∈ text.toList, String.utf8EncodeChar c = [byteOf c] := by
    intro c hc
    exact if_pos (Nat.le_of_lt_succ (h c hc))
  rw [encode, List.flatMap_def, List.map_congr_left hone, ← List.flatMap_def, ← List.map_eq_flatMap]

/-- Where no character is unfinished, an ASCII text comes next in the text just if its bytes come next. -/
theorem prefix_spelled_iff {needle : List Char} (h : ∀ c ∈ needle, IsAscii c) (bytes : Bytes) :
    needle <+: spelled none bytes ↔ needle.map byteOf <+: bytes := by
  induction needle generalizing bytes with
  | nil => simp
  | cons x needle ih =>
    obtain ⟨hx, hneedle⟩ := List.forall_mem_cons.mp h
    cases bytes with
    | nil => simp [spelled, broken]
    | cons b rest =>
      rw [List.map_cons, List.cons_prefix_cons]
      by_cases hb : b.toNat < 0x80
      · have hspelled : spelled none (b :: rest) = Char.ofNat b.toNat :: spelled none rest :=
          spelled_ascii sound_none hb rest
        rw [hspelled, List.cons_prefix_cons, eq_ofNat_iff hx, ih hneedle]
      · -- the text goes on with another character, and the byte is none of an ASCII text
        obtain ⟨c, tail, hspelled, hc⟩ := exists_foreign_of_byte hb rest
        rw [hspelled, List.cons_prefix_cons]
        refine iff_of_false (fun hhead => hc (hhead.1 ▸ hx)) (fun hhead => hb ?_)
        rw [← hhead.1, toNat_byteOf hx]
        exact hx

/-- **An ASCII text stands in the text just if its bytes stand in the bytes**, from any sound state on. -/
theorem infix_spelled_iff {x : Char} {needle : List Char} (hx : IsAscii x) (hneedle : ∀ c ∈ needle, IsAscii c)
    {state : Option Pending} (hstate : ∀ p, state = some p → p.Sound) (bytes : Bytes) :
    x :: needle <:+: spelled state bytes ↔ (x :: needle).map byteOf <:+: bytes := by
  have hascii : ∀ c ∈ x :: needle, IsAscii c := List.forall_mem_cons.mpr ⟨hx, hneedle⟩
  have hbroken (state : Option Pending) : x ∉ broken state := by
    cases state with
    | none => exact List.not_mem_nil
    | some p => exact fun hmem => not_isAscii_replacement (List.mem_singleton.mp hmem ▸ hx)
  induction bytes generalizing state with
  | nil =>
    rw [List.infix_nil, List.map_cons]
    refine iff_of_false (fun h => hbroken state (h.subset List.mem_cons_self)) (List.cons_ne_nil _ _)
  | cons b rest ih =>
    by_cases hb : b.toNat < 0x80
    · -- the byte spells itself, so what begins here in the text begins here in the bytes
      have hprefix := prefix_spelled_iff hascii (b :: rest)
      have hself : spelled none (b :: rest) = Char.ofNat b.toNat :: spelled none rest :=
        spelled_ascii sound_none hb rest
      have hrest : x :: needle <:+: spelled none rest ↔ (x :: needle).map byteOf <:+: rest := ih sound_none
      rw [spelled_ascii hstate hb, infix_append_of_head_notMem (hbroken state), List.infix_cons_iff, ← hself, hprefix,
        hrest, ← List.infix_cons_iff]
    · -- nothing that the byte leads to is ASCII, and neither is the byte
      have hforeign := step_foreign hstate hb
      have hout : x ∉ (step state b).1 := fun hmem => hforeign.characters x hmem hx
      have hbyte : byteOf x ∉ [b] := by
        intro hmem
        rw [← List.mem_singleton.mp hmem, toNat_byteOf hx] at hb
        exact hb hx
      have hrest : x :: needle <:+: spelled (step state b).2 rest ↔ (x :: needle).map byteOf <:+: rest :=
        ih hforeign.pending
      rw [spelled, infix_append_of_head_notMem hout, hrest, List.map_cons,
        ← infix_append_of_head_notMem (b := rest) hbyte, List.singleton_append]

theorem shows_decode_iff {text : String} (h : ∀ c ∈ text.toList, IsAscii c) (bytes : Bytes) :
    Shows (decode bytes) text ↔ encode text <:+: bytes := by
  rw [Shows, toList_decode, encode_ascii h]
  cases htext : text.toList with
  | nil => simp
  | cons x needle =>
    rw [htext] at h
    obtain ⟨hx, hneedle⟩ := List.forall_mem_cons.mp h
    exact infix_spelled_iff hx hneedle sound_none bytes

end Utf8

/-! ## Streams -/

theorem isAscii_of_mem_markers {marker : String} (h : marker ∈ markers) : ∀ c ∈ marker.toList, Utf8.IsAscii c := by
  have hall : (markers.all fun m => m.toList.all fun c => decide (Utf8.IsAscii c)) = true := by decide
  intro c hc
  exact of_decide_eq_true (List.all_eq_true.mp (List.all_eq_true.mp hall marker h) c hc)

namespace Supervision

open ProcessEvent

/-- **Markers in streams.** A marker is ASCII, and it stands in the text of a byte sequence just if its bytes stand in
the sequence, whether or not the bytes around it are those of characters. So the result of a process that has closed
shows a marker in its output text just if the process wrote the bytes of the marker one after the other to its output
stream, in whatever pieces they came, and the same holds of its error stream. -/
theorem markers_of_streams {marker : String} (hmarker : marker ∈ markers) :
    (∀ c ∈ marker.toList, c.toNat < 0x80) ∧
    (∀ bytes, Shows (Utf8.decode bytes) marker ↔ Utf8.encode marker <:+: bytes) ∧
    (∀ command pid before code signal after, Running before →
      ∃ r, (ofEvents command pid (before ++ .close code signal :: after)).settled = some (.ok r) ∧
        (Shows r.stdout marker ↔ Utf8.encode marker <:+: before.flatMap onStdout) ∧
        (Shows r.stderr marker ↔ Utf8.encode marker <:+: before.flatMap onStderr)) := by
  have hascii := isAscii_of_mem_markers hmarker
  refine ⟨hascii, Utf8.shows_decode_iff hascii, ?_⟩
  intro command pid before code signal after hrunning
  obtain ⟨r, hr, hclosed⟩ := settled_close command pid hrunning code signal after
  refine ⟨r, hr, ?_, ?_⟩
  · rw [hclosed.stdout]
    exact Utf8.shows_decode_iff hascii _
  · rw [hclosed.stderr]
    exact Utf8.shows_decode_iff hascii _

/-- A process that writes a marker in two pieces among broken characters, and the marker around a foreign byte. -/
def torn : List ProcessEvent :=
  [.stdout ([0xE2, 0x82] ++ Utf8.encode "ASSERT"), .stderr (Utf8.encode "ASSERTION" ++ [0xFF] ++ Utf8.encode " FAIL"),
   .stdout (Utf8.encode "ION FAIL" ++ [0xC0])]

theorem running_torn : Running torn := by
  intro e he
  simp only [torn, List.mem_cons, List.not_mem_nil, or_false] at he
  rcases he with rfl | rfl | rfl <;> exact id

/-- The first marker shows and the second does not. -/
theorem torn_shown_once : assertionFailureMarker ∈ markers ∧ Running torn ∧
    ∃ r, (ofEvents "klee" (some 7) (torn ++ [.close (some 0) none])).settled = some (.ok r) ∧
      Shows r.stdout assertionFailureMarker ∧ ¬Shows r.stderr assertionFailureMarker := by
  have hmarker : assertionFailureMarker ∈ markers := List.mem_cons_self
  obtain ⟨r, hr, hstdout, hstderr⟩ :=
    (markers_of_streams hmarker).2.2 "klee" (some 7) torn (some 0) none [] running_torn
  have hwritten : Utf8.encode assertionFailureMarker <:+: torn.flatMap onStdout := by decide +kernel
  have hinterrupted : ¬Utf8.encode assertionFailureMarker <:+: torn.flatMap onStderr := by decide +kernel
  exact ⟨hmarker, running_torn, r, hr, hstdout.mpr hwritten, fun hshows => hinterrupted (hstderr.mp hshows)⟩

end Supervision

end DataplaneVerdict
