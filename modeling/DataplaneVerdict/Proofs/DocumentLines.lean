import DataplaneVerdict.CommandLine.Program
import DataplaneVerdict.Proofs.JsonText
import DataplaneVerdict.Proofs.Paths
import DataplaneVerdict.Proofs.Reporter

/-!
# `Proofs.DocumentLines` — documents and the lines they are printed on

* **Acceptance.** What the schema accepts is valid (`Report.valid_of_check`), and every valid report whose time is a
  number of the format is assembled from some draft (`Report.exists_draft`).
* **Reading a line back.** A report is read back as its own data, except that a time without a decimal text is read as
  `null` (`Report.timed`), and then the time is what the schema objects to.
* **Lines.** A document has no line end inside, so the lines of several documents are cut apart where they were joined.
-/

namespace DataplaneVerdict

/-! ## Acceptance -/

namespace Check

theorem ne_nil_of_texts_one {v : Value} {ss : List String} (h : texts 1 v = .ok ss) : ss ≠ [] := by
  cases v with
  | list items =>
    cases items with
    | nil => cases h
    | cons v vs =>
      rintro rfl
      simp only [texts, textItems] at h
      cases hitems : Checked.both ((text v).within (.item 0)) (textItems (0 + 1) vs) with
      | ok p => simp [hitems] at h
      | error is => simp [hitems] at h
  | _ => cases h

theorem eq_ok_of_optional {α : Type} {c : Check α} {v : Value} {a : α} (h : Check.optional c v = .ok (some a)) :
    c v = .ok a := by
  unfold Check.optional at h
  split at h
  · cases h
  · obtain ⟨b, hb, hsome⟩ := map_eq_ok h
    rw [hb, Option.some.inj hsome]

end Check

namespace Report

open Check

/-- **What the schema accepts is valid.** -/
theorem valid_of_check {v : Value} {r : Report} (h : check v = .ok r) : r.Valid := by
  cases v with
  | object fields =>
    obtain ⟨⟨verdict, time, details, evidence⟩, hfields, rfl⟩ := map_eq_ok (alsoRefusing_eq_ok h)
    have htime := within_eq_ok (both_eq_ok (both_eq_ok hfields).2).1
    have hevidence := within_eq_ok (both_eq_ok (both_eq_ok (both_eq_ok hfields).2).2).2
    refine ⟨(wholeNumber_eq_ok htime).1 ▸ htime, ?_⟩
    rintro rfl
    exact ne_nil_of_texts_one (eq_ok_of_optional hevidence) rfl
  | _ => cases h

/-- A valid time below the bound of exact integers is a number of the format, or the negative zero. -/
theorem Valid.whole {r : Report} (h : r.Valid) (hlt : Number.lt r.timeMs 9007199254740992 = true) :
    r.timeMs.Whole ∨ r.timeMs = .negativeZero := by
  obtain ⟨-, hint, hnonneg, -⟩ := wholeNumber_eq_ok h.time
  have hzero : Number.ofNat 0 = .finite 0 := by decide
  have hbound : (9007199254740992 : Number) = .finite ((9007199254740992 : Nat) : Rat) :=
    @Number.round_natCast_small 9007199254740992 (by decide)
  rw [hzero] at hnonneg
  rw [hbound] at hlt
  generalize r.timeMs = t at hint hnonneg hlt
  cases t with
  | nan => cases hint
  | infinity s => cases hint
  | negativeZero => exact .inr rfl
  | finite q =>
    simp only [Number.lt, decide_eq_true_eq, decide_eq_false_iff_not, Rat.not_lt] at hlt hnonneg
    obtain ⟨m, rfl⟩ : ∃ m : Int, q = (m : Rat) := ⟨q.num, Rat.ext rfl (of_decide_eq_true hint)⟩
    obtain ⟨n, rfl⟩ := Int.eq_ofNat_of_zero_le (Rat.intCast_nonneg.mp hnonneg)
    rw [Rat.intCast_natCast, Rat.natCast_lt_natCast] at hlt
    exact .inl (Number.whole_of_le (Nat.le_of_lt hlt))

/-- A time of the format is the time between zero and itself. -/
theorem elapsedMs_zero {t : Number} (h : t.Whole) : elapsedMs (.finite 0) t = t := by
  obtain ⟨n, rfl, hn⟩ := h
  -- subtracting zero adds the negative zero, which rounds nothing
  have hfloor : Number.floor (Number.sub (.finite n) (.finite 0)) = .finite n := by
    rw [Number.sub, show Number.neg (.finite 0) = .negativeZero from rfl, Number.add, Number.floor,
      ← Rat.intCast_natCast, Rat.floor_intCast, Rat.intCast_natCast, hn]
  rw [elapsedMs, hfloor]
  cases n with
  | zero => rfl
  | succ n =>
    have hpos : Number.lt (.finite 0) (.finite ((n + 1 : Nat) : Rat)) = true :=
      decide_eq_true (Rat.natCast_pos.mpr (Nat.succ_pos n))
    simp only [Number.atLeastZero, hpos, if_true]

/-- **Every valid report is assembled from a draft**, if its time is a number of the format. -/
theorem exists_draft {r : Report} (h : r.Valid) (htime : r.timeMs.Whole) : ∃ d, assemble d = .ok r := by
  obtain ⟨verdict, t, details, evidence⟩ := r
  have helapsed : elapsedMs (.finite 0) t = t := elapsedMs_zero htime
  -- the draft starts at zero, and its log is one entry with all of the details
  refine ⟨⟨.str verdict.name, .finite 0, t, [details], (evidence.getD []).map .str⟩, ?_⟩
  rw [assemble_of_finite (helapsed.symm ▸ htime.isFinite), ofRun, helapsed]
  cases evidence with
  | none => rfl
  | some xs =>
    cases xs with
    | nil => exact absurd rfl h.evidence
    | cons x xs => rfl

/-! ## Reading a line back -/

/-- The data of a report with a given time. -/
def timed (r : Report) (time : Value) : Value :=
  .object ([("verdict", .str r.verdict.name), ("time_ms", time), ("details", .str r.details)] ++
    (r.assertionErrors.map fun xs => ("assertion_errors", .list (xs.map .str))).toList)

theorem toValue_eq (r : Report) : r.toValue = r.timed (.num r.timeMs) := by
  obtain ⟨verdict, t, details, evidence⟩ := r
  cases evidence <;> rfl

/-- A line is read back as the report, with the time as its own text is read. -/
theorem parse?_line {r : Report} {time : Value} (h : Json.ReadsAs (.num r.timeMs) time) :
    Json.parse? r.line = some (r.timed time) := by
  obtain ⟨verdict, t, details, evidence⟩ := r
  apply Json.parse?_line
  rw [toValue_eq]
  cases evidence with
  | none =>
    refine Json.readsAs_object (.cons ⟨rfl, rfl, Json.readsAs_str _⟩ (.cons ⟨rfl, rfl, h⟩
      (.cons ⟨rfl, rfl, Json.readsAs_str _⟩ .nil))) ?_
    show ["verdict", "time_ms", "details"].Nodup
    decide
  | some xs =>
    have hxs : List.Forall₂ Json.ReadsAs (xs.map .str) (xs.map .str) := by
      rw [List.forall₂_map_left_iff, List.forall₂_map_right_iff, List.forall₂_same]
      exact fun x _ => Json.readsAs_str x
    refine Json.readsAs_object (.cons ⟨rfl, rfl, Json.readsAs_str _⟩ (.cons ⟨rfl, rfl, h⟩
      (.cons ⟨rfl, rfl, Json.readsAs_str _⟩ (.cons ⟨rfl, rfl, Json.readsAs_list hxs⟩ .nil)))) ?_
    show ["verdict", "time_ms", "details", "assertion_errors"].Nodup
    decide

/-- **The time decides**: whatever stands in its place, the rest of a report is accepted. -/
theorem check_timed {r : Report} (h : r.assertionErrors ≠ some []) (time : Value) :
    check (r.timed time) =
      ((wholeNumber 0 none time).within (.field "time_ms")).map fun t => { r with timeMs := t } := by
  obtain ⟨verdict, t, details, evidence⟩ := r
  have hindex : ∀ k ∈ ["verdict", "time_ms", "details", "assertion_errors"], Value.index? k = none := by decide
  cases evidence with
  | none =>
    rw [timed, check, strict, strangers_eq_nil ?_ hindex, alsoRefusing_nil]
    · cases hw : wholeNumber 0 none time <;>
        simp [readFields, field, Value.field, List.lookup_cons, Verdict.check_name, hw, text, Check.optional,
          Checked.within, Checked.both, Except.map]
    · show ["verdict", "time_ms", "details"] ⊆ _
      decide
  | some xs =>
    have hne : xs ≠ [] := fun hx => h (by rw [hx])
    rw [timed, check, strict, strangers_eq_nil ?_ hindex, alsoRefusing_nil]
    · cases hw : wholeNumber 0 none time <;>
        simp [readFields, field, Value.field, List.lookup_cons, Verdict.check_name, hw, text, Check.optional,
          texts_one_map_str hne, Checked.within, Checked.both, Except.map]
    · show ["verdict", "time_ms", "details", "assertion_errors"] ⊆ _
      decide

/-- A report without a time is refused for that. -/
theorem check_timed_null {r : Report} (h : r.assertionErrors ≠ some []) :
    check (r.timed .null) = .error [⟨[.field "time_ms"], .kind .number .null⟩] := by
  rw [check_timed h]
  rfl

end Report

theorem ErrorDocument.parse?_line (d : ErrorDocument) : Json.parse? d.line = some d.toValue := by
  apply Json.parse?_line
  refine Json.readsAs_object (.cons ⟨rfl, rfl, Json.readsAs_str _⟩ (.cons ⟨rfl, rfl, Json.readsAs_str _⟩ .nil)) ?_
  show ["error", "verdict"].Nodup
  decide

/-! ## What the reporter leaves -/

/-- A report that a call returns bears the time of its draft, and its evidence is absent or not empty. -/
theorem Served.reported_eq {x : Service} (h : Served x) {d : Draft} (hcall : x.call = .report d) {doc : Document}
    (hanswer : x.answer = .ok doc) :
    ∃ r, doc = .report r ∧ r.timeMs = elapsedMs d.startedAt d.finishedAt ∧ r.assertionErrors ≠ some [] := by
  cases h with
  | error message o => cases hcall
  | reported hassemble =>
    cases hcall
    cases hanswer
    have htime := (Check.wholeNumber_eq_ok (Report.time_of_assemble hassemble)).1
    exact ⟨_, rfl, (Value.num.inj htime).symm, (Report.valid_of_check hassemble).evidence⟩
  | unassembled hassemble o =>
    cases hcall
    cases hanswer
    exact ⟨_, rfl, rfl, nofun⟩
  | unwritten hassemble htext o =>
    cases hcall
    cases hanswer
    exact ⟨_, rfl, rfl, nofun⟩
  | wordless hassemble htext => cases hanswer

/-- A line that a call leaves is that of the document it returns. -/
theorem Served.line_eq {x : Service} (h : Served x) {line : String} (hline : line ∈ x.written) :
    ∃ doc, x.answer = .ok doc ∧ line = doc.line := by
  obtain ⟨o, -, hwritten⟩ := h.sound.line
  rw [hwritten] at hline
  cases ho : o.isNone with
  | false => simp [ho] at hline
  | true =>
    cases hanswer : x.answer with
    | error f => simp [ho, hanswer, Except.toOption] at hline
    | ok doc =>
      refine ⟨doc, rfl, ?_⟩
      simpa [ho, hanswer, Except.toOption] using hline

namespace Sink

/-- On a writer that never fails, every call leaves the line of the document it returns. -/
theorem written_of_open {s : Sink} (h : s.Open) (c : ReporterCall) :
    ∃ doc, (s.service c).answer = .ok doc ∧ (s.service c).written = [doc.line] := by
  have hnone : ∀ o ∈ (s.service c).outcomes, o = none := by
    intro o ho
    obtain ⟨i, -, rfl⟩ := List.mem_map.mp ho
    exact h i
  have hsound := (s.served_service c).1.sound
  obtain ⟨o, hlast, hwritten⟩ := hsound.line
  rw [hnone o (List.mem_of_getLast? hlast)] at hwritten
  cases hanswer : (s.service c).answer with
  | ok doc => exact ⟨doc, rfl, by rw [hwritten, hanswer]; rfl⟩
  | error f =>
    obtain ⟨d, r, v, -, -, houtcomes, -⟩ := hsound.fails.mp ⟨f, hanswer⟩
    cases hnone _ (houtcomes ▸ List.mem_singleton_self _)

/-- **Lines of reports.** Whatever the draft and the writer, a line that the reporter leaves is read back as data, and
the schema accepts that as the report returned, if the elapsed time is finite. If it is not, the schema refuses the
line for its time. -/
theorem service_lines_checked (s : Sink) (d : Draft) (line : String) (h : line ∈ (s.service (.report d)).written) :
    ∃ r v, (s.service (.report d)).answer = .ok (.report r) ∧ line = r.line ∧ Json.parse? line = some v ∧
      Report.check v =
        if (elapsedMs d.startedAt d.finishedAt).isFinite then .ok r
        else .error [⟨[.field "time_ms"], .kind .number .null⟩] := by
  have hserved := (s.served_service (.report d)).1
  obtain ⟨doc, hanswer, rfl⟩ := hserved.line_eq h
  obtain ⟨r, rfl, htime, hevidence⟩ := hserved.reported_eq rfl hanswer
  refine ⟨r, ?_⟩
  cases hfinite : (elapsedMs d.startedAt d.finishedAt).isFinite with
  | true =>
    have hvalid : r.Valid := ⟨htime ▸ wholeNumber_elapsedMs hfinite, hevidence⟩
    have hparse := Report.parse?_line (Json.readsAs_num (htime ▸ Number.elapsedMs_whole hfinite))
    exact ⟨r.timed (.num r.timeMs), hanswer, rfl, hparse, r.toValue_eq ▸ Report.check_toValue hvalid⟩
  | false =>
    have hparse := Report.parse?_line (Json.readsAs_num_null (htime ▸ hfinite))
    exact ⟨r.timed .null, hanswer, rfl, hparse, Report.check_timed_null hevidence⟩

/-- A draft whose verdict is none. -/
def unjudged : Draft := ⟨.str "maybe", 0, 5, ["a\nb"], [.str "seen"]⟩

/-- The fallback of a draft that cannot be assembled is accepted, since its time is finite. -/
theorem unjudged_line_checked : ∃ line r v, (({} : Sink).service (.report unjudged)).written = [line] ∧
    (({} : Sink).service (.report unjudged)).answer = .ok (.report r) ∧ Json.parse? line = some v ∧
    Report.check v = .ok r := by
  obtain ⟨doc, -, hwritten⟩ := written_of_open (s := {}) (fun _ => rfl) (.report unjudged)
  obtain ⟨r, v, hanswer, -, hparse, hcheck⟩ :=
    service_lines_checked {} unjudged doc.line (hwritten ▸ List.mem_singleton_self _)
  rw [if_pos (by decide)] at hcheck
  exact ⟨doc.line, r, v, hwritten, hanswer, hparse, hcheck⟩

/-- A draft with nothing wrong in it but its first reading, which is no number. -/
def untimed : Draft := { flawless with startedAt := .nan }

/-- **The fallback of an untimed draft is no report**: the time that has spoilt the report stands in it again. -/
theorem untimed_line_refused : ∃ line v, line ∈ (({} : Sink).service (.report untimed)).written ∧
    Json.parse? line = some v ∧ ∀ r, Report.check v ≠ .ok r := by
  obtain ⟨doc, hanswer, hwritten⟩ := written_of_open (s := {}) (fun _ => rfl) (.report untimed)
  obtain ⟨r, rfl, htime, hevidence⟩ := (served_service {} (.report untimed)).1.reported_eq rfl hanswer
  refine ⟨r.line, r.timed .null, hwritten ▸ List.mem_singleton_self _, ?_, ?_⟩
  · exact Report.parse?_line (Json.readsAs_num_null (htime ▸ by decide))
  · rw [Report.check_timed_null hevidence]
    nofun

end Sink

/-! ## Lines of output -/

/-- A text of lines is cut into these lines, with nothing behind the last one. -/
theorem Ending.splitOn_text {lines : List String} (h : ∀ line ∈ lines, '\n' ∉ line.toList) :
    Text.splitOn (Ending.text lines) '\n' = lines ++ [""] := by
  induction lines with
  | nil => rfl
  | cons line lines ih =>
    have hcons : Ending.text (line :: lines) = line ++ "\n" ++ Ending.text lines := by
      cases lines with
      | nil => simp [Ending.text, Text.join]
      | cons next lines => simp [Ending.text, Text.join]
    have hchars :
        (line ++ "\n" ++ Ending.text lines).toList = line.toList ++ '\n' :: (Ending.text lines).toList := by simp
    rw [hcons, Text.splitOn, hchars, Text.pieces_append, Text.pieces_of_notMem (h line List.mem_cons_self),
      List.map_append, List.map_singleton, String.ofList_toList, ← Text.splitOn,
      ih fun x hx => h x (List.mem_cons_of_mem _ hx)]
    rfl

/-- A report whose time has no sign: a negative zero becomes zero, the same number without it, and any other time
stays. -/
def Report.settled (r : Report) : Report :=
  if r.timeMs = .negativeZero then { r with timeMs := .finite 0 } else r

theorem Report.timed_settled (r : Report) (time : Value) : r.settled.timed time = r.timed time := by
  unfold settled
  split <;> rfl

/-- A valid report with a time below the bound of exact integers: its time is read back without its sign, and without
    the sign the report is valid and its time a number of the format. -/
theorem Report.Valid.settled {r : Report} (h : r.Valid) (hlt : Number.lt r.timeMs 9007199254740992 = true) :
    Json.ReadsAs (.num r.timeMs) (.num r.settled.timeMs) ∧ r.settled.Valid ∧ r.settled.timeMs.Whole := by
  rcases h.whole hlt with hwhole | hzero
  · have hsettled : r.settled = r := by
      rw [Report.settled, if_neg]
      intro hzero
      obtain ⟨n, hn, -⟩ := hwhole
      cases hzero.symm.trans hn
    rw [hsettled]
    exact ⟨Json.readsAs_num hwhole, h, hwhole⟩
  · have htime : Check.wholeNumber 0 none (.num (.finite 0)) = .ok (.finite 0) := by decide
    rw [Report.settled, if_pos hzero, hzero]
    exact ⟨Json.readsAs_negativeZero, ⟨htime, h.evidence⟩, Number.whole_of_le (n := 0) (Nat.zero_le _)⟩

namespace Document

/-- A document with a time that has no sign. -/
def settled : Document → Document
  | report r => report r.settled
  | error d => error d

/-- No character of a document's line controls a terminal, so none of them ends the line. -/
theorem printable_line (doc : Document) : ∀ c ∈ doc.line.toList, 0x20 ≤ c.toNat := by
  rw [line, Json.line, String.toList_ofList]
  exact Json.printable_write doc.toValue

/-- **Documents and lines.** Documents are printed as one line each, free of control characters, and each of the lines
is read back as its document, up to the sign of a time that is zero. Up to that sign the reports that the schema
accepts are those that the reporter assembles. -/
theorem lines_framed (docs : List Document)
    (h : ∀ r, Document.report r ∈ docs → Report.check r.toValue = .ok r ∧ Number.lt r.timeMs 9007199254740992 = true) :
    Text.splitOn (Ending.text (docs.map line)) '\n' = docs.map line ++ [""] ∧
    (∀ doc ∈ docs, (∀ c ∈ doc.line.toList, 0x20 ≤ c.toNat) ∧ Json.parse? doc.line = some doc.settled.toValue) ∧
    (∀ r, Document.report r ∈ docs → ∃ d, Report.assemble d = .ok r.settled) ∧
    ∀ d r, Report.assemble d = .ok r → Report.check r.toValue = .ok r := by
  refine ⟨?_, ?_, ?_, ?_⟩
  · apply Ending.splitOn_text
    rintro _ hline hbreak
    obtain ⟨doc, -, rfl⟩ := List.mem_map.mp hline
    exact absurd (doc.printable_line _ hbreak) (by decide)
  · intro doc hdoc
    refine ⟨doc.printable_line, ?_⟩
    cases doc with
    | error d => exact d.parse?_line
    | report r =>
      obtain ⟨hcheck, hlt⟩ := h r hdoc
      obtain ⟨hread, -⟩ := (Report.valid_of_check hcheck).settled hlt
      have hparse := Report.parse?_line hread
      rw [← r.timed_settled, ← Report.toValue_eq] at hparse
      exact hparse
  · intro r hr
    obtain ⟨hcheck, hlt⟩ := h r hr
    obtain ⟨-, hvalid, hwhole⟩ := (Report.valid_of_check hcheck).settled hlt
    exact Report.exists_draft hvalid hwhole
  · intro d r hassemble
    exact Report.check_toValue (Report.valid_of_check hassemble)

/-- Documents that say line ends, quotes, backslashes and characters beyond the first plane. -/
def eventful : List Document :=
  [.report ⟨.violated, 1500, "ASSERTION FAIL\n\t\"x\" = 𐀀", some ["a\\b", "\x00"]⟩, .error ⟨"no\r\nsource"⟩]

theorem eventful_framed : Text.splitOn (Ending.text (eventful.map line)) '\n' = eventful.map line ++ [""] ∧
    (∀ doc ∈ eventful, Json.parse? doc.line = some doc.toValue) ∧
    ∃ d, Report.assemble d = .ok ⟨.violated, 1500, "ASSERTION FAIL\n\t\"x\" = 𐀀", some ["a\\b", "\x00"]⟩ := by
  have haccepted : ∀ r, Document.report r ∈ eventful →
      Report.check r.toValue = .ok r ∧ Number.lt r.timeMs 9007199254740992 = true := by
    intro r hr
    obtain rfl : r = _ := by simpa [eventful] using hr
    exact ⟨Report.check_toValue ⟨by decide, by decide⟩, by decide⟩
  obtain ⟨hsplit, hread, hdraft, -⟩ := lines_framed eventful haccepted
  refine ⟨hsplit, fun doc hdoc => ?_, hdraft _ List.mem_cons_self⟩
  have hsettled : doc.settled = doc := by
    simp only [eventful, List.mem_cons, List.not_mem_nil, or_false] at hdoc
    rcases hdoc with rfl | rfl <;> rfl
  rw [(hread doc hdoc).2, hsettled]

/-- A report of a time of minus zero. -/
def signed : Report := ⟨.holds, .negativeZero, "x", none⟩

/-- **The sign of a zero is lost**: the schema accepts such a report, but its line is read back as another one, and no
    draft is assembled to it. -/
theorem sign_lost :
    Report.check signed.toValue = .ok signed ∧ Number.lt signed.timeMs 9007199254740992 = true ∧
    Json.parse? (line (.report signed)) ≠ some signed.toValue ∧ ∀ d, Report.assemble d ≠ .ok signed := by
  have hvalid : signed.Valid := ⟨by decide, by decide⟩
  refine ⟨Report.check_toValue hvalid, by decide, ?_, fun d hassemble => ?_⟩
  · obtain ⟨hread, -⟩ := hvalid.settled (by decide)
    rw [line, toValue, ← Report.line, Report.parse?_line hread, Report.toValue_eq]
    intro hsame
    simp [signed, Report.timed, Report.settled] at hsame
  · have htime := (Check.wholeNumber_eq_ok (Report.time_of_assemble hassemble)).1
    exact elapsedMs_ne_negativeZero _ _ (Value.num.inj htime)

end Document

end DataplaneVerdict
