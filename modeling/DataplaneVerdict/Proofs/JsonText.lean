import Mathlib.Data.List.Forall2
import DataplaneVerdict.Proofs.Markers
import DataplaneVerdict.Proofs.Numerals

/-!
# `Proofs.JsonText` — printed values and how they are read

A value is printed on one line and read again by whoever receives the line. Two facts make that work:

* **Framing.** The printer never leaves a control character in its text, whatever the value is, because texts are quoted
  and nothing else it writes has one (`printable_write`). So a document cannot break into several lines.
* **Reading back.** `ReadsAs v w` says that wherever the text of `v` stands in a document, the reader finds `w` there
  and goes on behind it. It holds of the leaves, and it is passed on by lists and objects, so it can be put together
  for any document along its structure. At the top it gives `parse?_line`.

The relation has two values because printing forgets some things: a number without a decimal text becomes `null`, and
the two zeros are written alike.
-/

namespace DataplaneVerdict.Json

open DataplaneVerdict.Number (Whole digitValue isDigit isTextChar_text)

/-! ## Quoted characters -/

/-- **The three ways of quoting a character**: a letter behind a backslash, its code in hexadecimal digits if it is
another control character, and the character itself. -/
theorem quoteChar_cases (c : Char) :
    (∃ e, quoteChar c = ['\\', e] ∧ escape? e = some c ∧ e ≠ 'u' ∧ 0x20 ≤ e.toNat) ∨
    (quoteChar c = ['\\', 'u', '0', '0', hexDigit (c.toNat / 16), hexDigit (c.toNat % 16)] ∧ c.toNat < 0x20) ∨
    (quoteChar c = [c] ∧ c ≠ '"' ∧ c ≠ '\\' ∧ 0x20 ≤ c.toNat) := by
  unfold quoteChar
  by_cases hquote : c = '"'
  · subst hquote
    exact .inl ⟨'"', rfl, rfl, by decide, by decide⟩
  by_cases hbackslash : c = '\\'
  · subst hbackslash
    exact .inl ⟨'\\', rfl, rfl, by decide, by decide⟩
  by_cases hb : c = '\x08'
  · subst hb
    exact .inl ⟨'b', rfl, rfl, by decide, by decide⟩
  by_cases hf : c = '\x0c'
  · subst hf
    exact .inl ⟨'f', rfl, rfl, by decide, by decide⟩
  by_cases hn : c = '\n'
  · subst hn
    exact .inl ⟨'n', rfl, rfl, by decide, by decide⟩
  by_cases hr : c = '\r'
  · subst hr
    exact .inl ⟨'r', rfl, rfl, by decide, by decide⟩
  by_cases ht : c = '\t'
  · subst ht
    exact .inl ⟨'t', rfl, rfl, by decide, by decide⟩
  right
  rw [if_neg hquote, if_neg hbackslash, if_neg hb, if_neg hf, if_neg hn, if_neg hr, if_neg ht]
  by_cases hcontrol : c.toNat < 0x20
  · exact .inl ⟨if_pos hcontrol, hcontrol⟩
  · exact .inr ⟨if_neg hcontrol, hquote, hbackslash, Nat.not_lt.mp hcontrol⟩

/-- Hexadecimal digits are read as what they were written for, and none is a control character. -/
theorem hexDigit_spec {n : Nat} (h : n < 16) : digitValue (hexDigit n) = some n ∧ 0x20 ≤ (hexDigit n).toNat := by
  have hall : ∀ d : Fin 16, digitValue (hexDigit d.val) = some d.val ∧ 0x20 ≤ (hexDigit d.val).toNat := by decide
  exact hall ⟨n, h⟩

theorem readText_quoteChar (c : Char) (acc rest : List Char) :
    readText acc none (quoteChar c ++ rest) = readText (c :: acc) none rest := by
  rcases quoteChar_cases c with ⟨e, hquote, hescape, hu, -⟩ | ⟨hquote, hcontrol⟩ | ⟨hquote, hmark, hbackslash, hprint⟩
  · rw [hquote, List.cons_append, List.cons_append, List.nil_append, readText]
    · rw [hescape]
      rfl
    · intro _ _ _ _ _ he
      exact absurd he hu
  · have hhex : hex4 '0' '0' (hexDigit (c.toNat / 16)) (hexDigit (c.toNat % 16)) = some c.toNat := by
      have hzero : digitValue '0' = some 0 := by decide
      simp only [hex4, hzero, (hexDigit_spec (n := c.toNat / 16) (by omega)).1,
        (hexDigit_spec (n := c.toNat % 16) (by omega)).1]
      congr 1
      omega
    rw [hquote]
    simp only [List.cons_append, List.nil_append, readText, hhex]
    rw [if_neg (by omega), if_neg (by omega), Char.ofNat_toNat]
    rfl
  · rw [hquote, List.cons_append, List.nil_append, readText]
    · rw [if_neg (by omega)]
      rfl
    · exact hmark
    · exact fun _ _ _ _ _ he => absurd he hbackslash
    · exact fun _ _ he => absurd he hbackslash

/-- **A quoted text is read back** up to its closing mark. -/
theorem readText_quoted (cs acc rest : List Char) :
    readText acc none (cs.flatMap quoteChar ++ '"' :: rest) = some (acc.reverse ++ cs, rest) := by
  induction cs generalizing acc with
  | nil => simp [readText, settle]
  | cons c cs ih => rw [List.flatMap_cons, List.append_assoc, readText_quoteChar, ih]; simp

/-! ## Framing -/

theorem printable_quote (s : String) : ∀ c ∈ quote s, 0x20 ≤ c.toNat := by
  intro c hc
  rw [quote, List.mem_cons, List.mem_append, List.mem_singleton, List.mem_flatMap] at hc
  rcases hc with rfl | ⟨d, -, hd⟩ | rfl
  · decide
  · rcases quoteChar_cases d with ⟨e, hquote, -, -, hprint⟩ | ⟨hquote, hcontrol⟩ | ⟨hquote, -, -, hprint⟩
    · rw [hquote, List.mem_cons, List.mem_singleton] at hd
      rcases hd with rfl | rfl
      · decide
      · exact hprint
    · simp only [hquote, List.mem_cons, List.not_mem_nil, or_false] at hd
      rcases hd with rfl | rfl | rfl | rfl | rfl | rfl
      · decide
      · decide
      · decide
      · decide
      · exact (hexDigit_spec (by omega)).2
      · exact (hexDigit_spec (by omega)).2
    · rw [hquote, List.mem_singleton] at hd
      rwa [hd]
  · decide

theorem printable_of_all {cs : List Char} (h : cs.all (fun c => decide (0x20 ≤ c.toNat)) = true) :
    ∀ c ∈ cs, 0x20 ≤ c.toNat := fun c hc => of_decide_eq_true (List.all_eq_true.mp h c hc)

theorem printable_writeNumber (n : Number) : ∀ c ∈ writeNumber n, 0x20 ≤ c.toNat := by
  have htext : ∀ c ∈ n.text.toList, 0x20 ≤ c.toNat := by
    intro c hc
    have hchar := isTextChar_text hc
    rw [Number.isTextChar, Bool.or_eq_true, List.contains_iff_mem] at hchar
    rcases hchar with hdigit | hletter
    · rw [Char.isDigit, Bool.and_eq_true, decide_eq_true_eq, decide_eq_true_eq] at hdigit
      exact Nat.le_trans (by decide) (UInt32.le_iff_toNat_le.mp hdigit.1)
    · exact printable_of_all (by decide) c hletter
  cases n with
  | nan => exact @printable_of_all "null".toList (by decide)
  | infinity s => exact @printable_of_all "null".toList (by decide)
  | negativeZero => exact htext
  | finite r => exact htext

theorem printable_comma (first : Bool) : ∀ c ∈ (if first then [] else [',']), 0x20 ≤ c.toNat := by
  cases first with
  | true => exact fun _ hc => nomatch hc
  | false => exact @printable_of_all [','] (by decide)

mutual

/-- **No control character is printed**, whatever the value. -/
theorem printable_write : ∀ v : Value, ∀ c ∈ write v, 0x20 ≤ c.toNat
  | .undefined => @printable_of_all "null".toList (by decide)
  | .null => @printable_of_all "null".toList (by decide)
  | .bool true => @printable_of_all "true".toList (by decide)
  | .bool false => @printable_of_all "false".toList (by decide)
  | .num n => printable_writeNumber n
  | .str s => printable_quote s
  | .list items => by
    intro c hc
    rw [write, List.mem_cons, List.mem_append, List.mem_singleton] at hc
    rcases hc with rfl | hc | rfl
    · decide
    · exact printable_writeItems true items c hc
    · decide
  | .object fields => by
    intro c hc
    rw [write, List.mem_cons, List.mem_append, List.mem_singleton] at hc
    rcases hc with rfl | hc | rfl
    · decide
    · exact printable_writeFields true fields c hc
    · decide
  | .special _ => @printable_of_all ['{', '}'] (by decide)

theorem printable_writeItems (first : Bool) : ∀ items : List Value, ∀ c ∈ writeItems first items, 0x20 ≤ c.toNat
  | [] => fun _ hc => nomatch hc
  | v :: rest => by
    intro c hc
    rw [writeItems, List.mem_append, List.mem_append] at hc
    rcases hc with (hc | hc) | hc
    · exact printable_comma first c hc
    · exact printable_write v c hc
    · exact printable_writeItems false rest c hc

theorem printable_writeFields (first : Bool) :
    ∀ fields : List (String × Value), ∀ c ∈ writeFields first fields, 0x20 ≤ c.toNat
  | [] => fun _ hc => nomatch hc
  | (k, v) :: rest => by
    intro c hc
    rw [writeFields] at hc
    split at hc
    · exact printable_writeFields first rest c hc
    · rw [List.append_assoc, List.append_assoc, List.mem_append, List.mem_append, List.cons_append, List.mem_cons,
        List.mem_append] at hc
      rcases hc with hc | hc | rfl | hc | hc
      · exact printable_comma first c hc
      · exact printable_quote k c hc
      · decide
      · exact printable_write v c hc
      · exact printable_writeFields false rest c hc

end

/-! ## Reading back -/

/-- **The text of a value is read as a value**, wherever it stands: the reader takes exactly that text and goes on
behind it, with one unit of fuel for each of its characters. -/
structure ReadsAs (v w : Value) : Prop where
  starts : ∃ c cs, write v = c :: cs ∧ isSpace c = false ∧ c ≠ ']' ∧ c ≠ '}'
  reads : ∀ fuel rest, (write v).length ≤ fuel → Delimited rest → readValue fuel (write v ++ rest) = some (w, rest)

theorem readsAs_null : ReadsAs .null .null := by
  refine ⟨⟨'n', _, rfl, by decide⟩, fun fuel rest hfuel _ => ?_⟩
  cases fuel with
  | zero => exact absurd hfuel (by decide)
  | succ fuel => rfl

theorem readsAs_str (s : String) : ReadsAs (.str s) (.str s) := by
  refine ⟨⟨'"', _, rfl, by decide⟩, fun fuel rest hfuel _ => ?_⟩
  cases fuel with
  | zero => exact absurd hfuel (by simp [write, quote])
  | succ fuel =>
    rw [write, quote, List.cons_append, List.append_assoc, readValue]
    simp only [List.cons_append, List.nil_append, readText_quoted, Option.map_some, List.reverse_nil,
      String.ofList_toList]

/-- A number begins with a digit or a sign. -/
theorem starts_of_readNumber {cs : List Char} {p : Number × List Char} (h : readNumber cs = some p) :
    ∃ c rest, cs = c :: rest ∧ (isDigit c = true ∨ c = '-') := by
  cases cs with
  | nil => cases h
  | cons c rest =>
    refine ⟨c, rest, rfl, ?_⟩
    by_cases hsign : c = '-'
    · exact .inr hsign
    · left
      rw [readNumber] at h
      · cases hdigit : isDigit c with
        | true => rfl
        | false => simp [readMagnitude, Number.spanDigits, hdigit] at h
      · intro r hcons
        exact hsign (List.cons.inj hcons).1

/-- Where nothing else begins, a number is read. -/
theorem readValue_of_readNumber {fuel : Nat} {cs rest : List Char} {n : Number} (h : readNumber cs = some (n, rest)) :
    readValue (fuel + 1) cs = some (.num n, rest) := by
  obtain ⟨c, tail, rfl, hc⟩ := starts_of_readNumber h
  have hne : ∀ d, isDigit d = false → d ≠ '-' → c ≠ d := by
    rintro d hd hminus rfl
    rcases hc with hc | hc
    · rw [hd] at hc
      cases hc
    · exact hminus hc
  rw [readValue, h]
  · rfl
  all_goals
    intro r hcons
    exact absurd (List.cons.inj hcons).1 (hne _ (by decide) (by decide))

/-- A whole number is read back. -/
theorem readsAs_num {n : Number} (h : Whole n) : ReadsAs (.num n) (.num n) := by
  have hwrite : write (.num n) = n.text.toList := by
    obtain ⟨m, rfl, -⟩ := h
    rfl
  have hread := readNumber_text h delimited_nil
  rw [List.append_nil] at hread
  obtain ⟨c, cs, htext, hc⟩ := starts_of_readNumber hread
  refine ⟨⟨c, cs, hwrite.trans htext, ?_⟩, fun fuel rest hfuel hrest => ?_⟩
  · rcases hc with hc | rfl
    · refine ⟨?_, ?_, ?_⟩
      · cases hspace : isSpace c with
        | false => rfl
        | true =>
          simp only [isSpace, Bool.or_eq_true, decide_eq_true_eq] at hspace
          rcases hspace with ((rfl | rfl) | rfl) | rfl <;> exact absurd hc (by decide)
      · rintro rfl
        exact absurd hc (by decide)
      · rintro rfl
        exact absurd hc (by decide)
    · decide
  · cases fuel with
    | zero => rw [hwrite, htext] at hfuel; exact absurd hfuel (by simp)
    | succ fuel => rw [hwrite, readValue_of_readNumber (readNumber_text h hrest)]

/-- What is read depends on the text alone. -/
theorem ReadsAs.of_write {u v w : Value} (h : ReadsAs v w) (htext : write u = write v) : ReadsAs u w :=
  ⟨htext ▸ h.starts, htext ▸ h.reads⟩

/-- A number without a decimal text is read as `null`. -/
theorem readsAs_num_null {n : Number} (h : n.isFinite = false) : ReadsAs (.num n) .null := by
  apply readsAs_null.of_write
  cases n with
  | nan => rfl
  | infinity s => rfl
  | negativeZero => cases h
  | finite r => cases h

/-- The sign of a zero is not written. -/
theorem readsAs_negativeZero : ReadsAs (.num .negativeZero) (.num (.finite 0)) :=
  ReadsAs.of_write (readsAs_num (n := .finite ((0 : Nat) : Rat)) (Number.whole_of_le (Nat.zero_le _))) rfl

theorem skipSpace_cons {c : Char} (h : isSpace c = false) (cs : List Char) : skipSpace (c :: cs) = c :: cs := by
  simp [skipSpace, h]

theorem ReadsAs.skipSpace_eq {v w : Value} (h : ReadsAs v w) (rest : List Char) :
    skipSpace (write v ++ rest) = write v ++ rest := by
  obtain ⟨c, cs, hwrite, hspace, -⟩ := h.starts
  rw [hwrite, List.cons_append, skipSpace_cons hspace]

/-! ### Lists -/

section Items

variable {v w : Value} {vs ws : List Value}

theorem writeItems_cons (v : Value) (vs : List Value) : writeItems true (v :: vs) = write v ++ writeItems false vs := by
  rw [writeItems, if_pos rfl, List.nil_append]

theorem writeItems_false_cons (v : Value) (vs : List Value) :
    writeItems false (v :: vs) = ',' :: writeItems true (v :: vs) := by
  rw [writeItems_cons, writeItems]
  rfl

/-- **The items of a list are read back** one by one. -/
theorem readItems_write (h : ReadsAs v w) (hs : List.Forall₂ ReadsAs vs ws) {fuel : Nat} (acc : List Value)
    (rest : List Char) (hfuel : (writeItems true (v :: vs)).length < fuel) :
    readItems fuel acc (writeItems true (v :: vs) ++ ']' :: rest) = some (.list (acc.reverse ++ w :: ws), rest) := by
  induction hs generalizing v w fuel acc with
  | nil =>
    cases fuel with
    | zero => exact absurd hfuel (Nat.not_lt_zero _)
    | succ fuel =>
      rw [writeItems_cons, writeItems, List.append_nil] at hfuel ⊢
      rw [readItems, h.reads fuel _ (by omega) (delimited_cons (by decide) rest)]
      simp only [skipSpace_cons (show isSpace ']' = false by decide), List.reverse_cons]
  | @cons v' w' vs ws h' hs ih =>
    cases fuel with
    | zero => exact absurd hfuel (Nat.not_lt_zero _)
    | succ fuel =>
      rw [writeItems_cons, writeItems_false_cons] at hfuel ⊢
      rw [List.length_append, List.length_cons] at hfuel
      have hnext :
          skipSpace (writeItems true (v' :: vs) ++ ']' :: rest) = writeItems true (v' :: vs) ++ ']' :: rest := by
        rw [writeItems_cons, List.append_assoc, h'.skipSpace_eq]
      rw [List.append_assoc, List.cons_append, readItems, h.reads fuel _ (by omega) (delimited_cons (by decide) _)]
      simp only [skipSpace_cons (show isSpace ',' = false by decide), hnext]
      rw [ih h' (w :: acc) (by omega), List.reverse_cons, List.append_assoc, List.singleton_append]

/-- A list is read back if its items are. -/
theorem readsAs_list (h : List.Forall₂ ReadsAs vs ws) : ReadsAs (.list vs) (.list ws) := by
  refine ⟨⟨'[', _, rfl, by decide⟩, fun fuel rest hfuel _ => ?_⟩
  rw [write, List.length_cons, List.length_append, List.length_singleton] at hfuel
  obtain ⟨fuel, rfl⟩ : ∃ k, fuel = k + 1 := ⟨fuel - 1, by omega⟩
  rw [write, List.cons_append, List.append_assoc, List.singleton_append, readValue]
  cases h with
  | nil =>
    rw [writeItems, List.nil_append, skipSpace_cons (by decide)]
    rfl
  | @cons v w vs ws h hs =>
    obtain ⟨c, cs, hwrite, hspace, hbracket, -⟩ := h.starts
    have hread : readItems fuel [] (writeItems true (v :: vs) ++ ']' :: rest) = some (.list (w :: ws), rest) :=
      readItems_write h hs [] rest (by omega)
    rw [writeItems_cons, List.append_assoc, h.skipSpace_eq, ← List.append_assoc, ← writeItems_cons]
    split
    · rename_i r heq
      rw [writeItems_cons, hwrite] at heq
      exact absurd (List.cons.inj heq).1 hbracket
    · exact hread

end Items

/-! ### Objects -/

/-- Fields of one name whose values are read as one another. -/
def FieldsRead (f g : String × Value) : Prop := f.1 = g.1 ∧ isAbsent f.2 = false ∧ ReadsAs f.2 g.2

section Fields

variable {f g : String × Value} {fs gs : List (String × Value)}

theorem writeFields_cons (h : FieldsRead f g) (fs : List (String × Value)) :
    writeFields true (f :: fs) = quote f.1 ++ ':' :: (write f.2 ++ writeFields false fs) := by
  rw [writeFields, if_neg (by rw [h.2.1]; decide), if_pos rfl, List.nil_append, List.append_assoc, List.cons_append]

theorem writeFields_false_cons (h : FieldsRead f g) (fs : List (String × Value)) :
    writeFields false (f :: fs) = ',' :: writeFields true (f :: fs) := by
  rw [writeFields_cons h, writeFields, if_neg (by rw [h.2.1]; decide), List.append_assoc]
  simp

/-- A new field goes to the end. -/
theorem setField_of_notMem {k : String} (v : Value) {acc : List (String × Value)} (h : k ∉ acc.map (·.1)) :
    Value.setField k v acc = acc ++ [(k, v)] := by
  induction acc with
  | nil => rfl
  | cons a acc ih =>
    rw [List.map_cons, List.mem_cons, not_or] at h
    rw [Value.setField, if_neg (Ne.symm h.1), ih h.2, List.cons_append]

/-- How an object goes on behind a field. -/
def afterField (fuel : Nat) (acc : List (String × Value)) : List Char → Option (Value × List Char)
  | ',' :: r => readFields fuel acc (skipSpace r)
  | '}' :: r => some (.object acc, r)
  | _ => none

/-- One field is read, and what follows decides how to go on. -/
theorem readFields_field (h : FieldsRead f g) {fuel : Nat} (acc : List (String × Value)) {tail : List Char}
    (hfuel : (write f.2).length ≤ fuel) (htail : Delimited tail) :
    readFields (fuel + 1) acc (quote f.1 ++ ':' :: (write f.2 ++ tail)) =
      afterField fuel (Value.setField g.1 g.2 acc) (skipSpace tail) := by
  rw [quote, List.cons_append, List.append_assoc, List.singleton_append, readFields, readText_quoted]
  simp only [skipSpace_cons (show isSpace ':' = false by decide), h.2.2.skipSpace_eq, h.2.2.reads fuel tail hfuel htail,
    List.reverse_nil, List.nil_append, String.ofList_toList, h.1]
  rfl

/-- **The fields of an object are read back** one by one, if their names differ. -/
theorem readFields_write (h : FieldsRead f g) (hs : List.Forall₂ FieldsRead fs gs) {fuel : Nat}
    {acc : List (String × Value)} (hnames : ((acc ++ g :: gs).map (·.1)).Nodup) (rest : List Char)
    (hfuel : (writeFields true (f :: fs)).length < fuel) :
    readFields fuel acc (writeFields true (f :: fs) ++ '}' :: rest) = some (.object (acc ++ g :: gs), rest) := by
  have hnew : ∀ (acc gs : List (String × Value)) (g : String × Value), ((acc ++ g :: gs).map (·.1)).Nodup →
      Value.setField g.1 g.2 acc = acc ++ [g] := by
    intro acc gs g hnames
    rw [List.map_append, List.map_cons, List.nodup_append] at hnames
    exact setField_of_notMem g.2 fun hmem => hnames.2.2 _ hmem _ List.mem_cons_self rfl
  -- by induction on the fields behind the first, with those read so far in `acc`
  induction hs generalizing f g fuel acc with
  | nil =>
    rw [writeFields_cons h, writeFields, List.append_nil] at hfuel ⊢
    simp only [List.length_append, List.length_cons] at hfuel
    obtain ⟨fuel, rfl⟩ : ∃ k, fuel = k + 1 := ⟨fuel - 1, by omega⟩
    rw [List.append_assoc, List.cons_append,
      readFields_field h acc (by omega) (delimited_cons (by decide) rest), skipSpace_cons (by decide),
      hnew acc [] g hnames]
    rfl
  | @cons f' g' fs gs h' hs ih =>
    rw [writeFields_cons h, writeFields_false_cons h'] at hfuel ⊢
    simp only [List.length_append, List.length_cons] at hfuel
    obtain ⟨fuel, rfl⟩ : ∃ k, fuel = k + 1 := ⟨fuel - 1, by omega⟩
    have hnext :
        skipSpace (writeFields true (f' :: fs) ++ '}' :: rest) = writeFields true (f' :: fs) ++ '}' :: rest := by
      rw [writeFields_cons h', quote, List.cons_append, List.cons_append, skipSpace_cons (by decide)]
    rw [List.append_assoc, List.cons_append, List.append_assoc, List.cons_append,
      readFields_field h acc (by omega) (delimited_cons (by decide) _), skipSpace_cons (by decide), hnew acc _ g hnames]
    have hsplit : acc ++ g :: g' :: gs = acc ++ [g] ++ g' :: gs := by simp
    rw [hsplit] at hnames ⊢
    rw [afterField, hnext]
    exact ih h' hnames (by omega)

/-- An object is read back if its fields are, none is absent and their names differ. -/
theorem readsAs_object (h : List.Forall₂ FieldsRead fs gs) (hnames : (gs.map (·.1)).Nodup) :
    ReadsAs (.object fs) (.object gs) := by
  refine ⟨⟨'{', _, rfl, by decide⟩, fun fuel rest hfuel _ => ?_⟩
  rw [write, List.length_cons, List.length_append, List.length_singleton] at hfuel
  obtain ⟨fuel, rfl⟩ : ∃ k, fuel = k + 1 := ⟨fuel - 1, by omega⟩
  rw [write, List.cons_append, List.append_assoc, List.singleton_append, readValue]
  cases h with
  | nil =>
    rw [writeFields, List.nil_append, skipSpace_cons (by decide)]
    rfl
  | @cons f g fs gs h hs =>
    have hread : readFields fuel [] (writeFields true (f :: fs) ++ '}' :: rest) = some (.object (g :: gs), rest) :=
      readFields_write h hs hnames rest (by omega)
    rw [writeFields_cons h, quote, List.cons_append, List.cons_append] at hread ⊢
    rw [skipSpace_cons (by decide)]
    exact hread

end Fields

/-- **A document is read back from its line.** -/
theorem parse?_line {v w : Value} (h : ReadsAs v w) : parse? (line v) = some w := by
  have hskip := h.skipSpace_eq []
  have hread := h.reads ((write v).length + 1) [] (Nat.le_succ _) delimited_nil
  rw [List.append_nil] at hskip hread
  simp only [parse?, line, String.toList_ofList, hskip, hread]
  rfl

end DataplaneVerdict.Json
