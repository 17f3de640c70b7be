import DataplaneVerdict.Proofs.Elapsed

/-!
# `Proofs.Documents` — the documents that a writer receives

Every document goes to a writer as one line. Two facts about documents are settled here, so that later proofs never open
a schema or a reporter again:

* **Acceptance.** A report as data is accepted by the schema of reports if its time is acceptable and its evidence is
  not an empty list (`Report.check_toValue`); an error document is accepted if its message is not empty
  (`ErrorDocument.check_toValue`). Assembling a draft with a finite elapsed time gives exactly the report that the
  draft describes (`Report.assemble_of_finite`).
* **Writing.** On a writer that never fails, `Sink.emit` and `Sink.emitError` add exactly the line of the document they
  return (`Sink.emit_of_open`, `Sink.emitError_of_open`). On a writer whose failures can be worded, `Sink.emit` still
  returns a document (`Sink.emit_of_worded`).
-/

namespace DataplaneVerdict

open Check

/-! ## Acceptance -/

theorem textItems_map_str (i : Nat) (xs : List String) : textItems i (xs.map .str) = .ok xs := by
  induction xs generalizing i with
  | nil => rfl
  | cons x xs ih => simp only [List.map_cons, textItems, ih, text, Checked.within, Checked.both]

/-- A list of texts is a list of texts, long enough if it is not empty. -/
theorem texts_one_map_str {xs : List String} (h : xs ≠ []) : texts 1 (.list (xs.map .str)) = .ok xs := by
  have hlen : ¬(xs.map Value.str).length < 1 := by
    rw [List.length_map]
    exact Nat.not_lt.mpr (List.length_pos_iff.mpr h)
  simp only [texts, if_neg hlen, textItems_map_str, List.isEmpty_nil, if_true]

theorem Verdict.check_name (v : Verdict) : Verdict.check (.str v.name) = .ok v := by
  cases v <;> rfl

/-- No stranger is found among fields that are all known, if no known field is named like a list index. -/
theorem strangers_eq_nil {known : List String} {fields : Fields} (hsub : fields.map (·.1) ⊆ known)
    (hindex : ∀ k ∈ known, Value.index? k = none) : strangers known fields = [] := by
  have hnone : ∀ f ∈ fields, Value.index? f.1 = none := fun f hf =>
    hindex f.1 (hsub (List.mem_map_of_mem hf))
  have hindices : (fields.filterMap fun f => (Value.index? f.1).map fun n => (n, f)) = [] := by
    rw [List.filterMap_eq_nil_iff]
    intro f hf
    rw [hnone f hf]; rfl
  -- without indices the order of the fields is their own, so every key is one of the given names
  have hkeys : (((Value.orderFields fields).map (·.1)).filter fun k => !known.contains k) = [] := by
    rw [List.filter_eq_nil_iff]
    intro k hk
    simp only [Value.orderFields, hindices, List.mergeSort_nil, List.map_nil, List.nil_append, List.mem_map,
      List.mem_filter] at hk
    obtain ⟨f, ⟨hf, -⟩, rfl⟩ := hk
    simp [hsub (List.mem_map_of_mem hf)]
  simp only [strangers, hkeys, List.isEmpty_nil, if_true]

/-- An object whose fields are all known is what its fields are read as. -/
theorem strict_of_known {α : Type} {known : List String} {read : Fields → Checked α} {fields : Fields} {a : α}
    (hsub : fields.map (·.1) ⊆ known) (hindex : ∀ k ∈ known, Value.index? k = none) (hread : read fields = .ok a) :
    strict known read (.object fields) = .ok a := by
  simp only [strict, hread, strangers_eq_nil hsub hindex, Checked.alsoRefusing, List.isEmpty_nil, if_true]

/-! ### Reading an acceptance backwards -/

section Inversion

variable {α β : Type}

theorem both_eq_ok {x : Checked α} {y : Checked β} {p : α × β} (h : Checked.both x y = .ok p) :
    x = .ok p.1 ∧ y = .ok p.2 := by
  cases x with
  | error is => cases y <;> exact absurd h (by simp [Checked.both])
  | ok a =>
    cases y with
    | error is => exact absurd h (by simp [Checked.both])
    | ok b => rw [← Except.ok.inj h]; exact ⟨rfl, rfl⟩

theorem within_eq_ok {step : Step} {x : Checked α} {a : α} (h : x.within step = .ok a) : x = .ok a := by
  cases x with
  | ok b => exact h
  | error is => exact absurd h (by simp [Checked.within])

theorem alsoRefusing_eq_ok {x : Checked α} {issues : List Issue} {a : α} (h : x.alsoRefusing issues = .ok a) :
    x = .ok a := by
  cases x with
  | error is => exact absurd h (by simp [Checked.alsoRefusing])
  | ok b =>
    simp only [Checked.alsoRefusing] at h
    split at h
    · exact h
    · exact absurd h (by simp)

theorem map_eq_ok {x : Checked α} {f : α → β} {b : β} (h : x.map f = .ok b) : ∃ a, x = .ok a ∧ f a = b := by
  cases x with
  | error is => exact absurd h (by simp [Except.map])
  | ok a => exact ⟨a, rfl, Except.ok.inj h⟩

theorem alsoRefusing_nil (x : Checked α) : x.alsoRefusing [] = x := by
  cases x with
  | ok a => rfl
  | error is => exact congrArg Except.error (List.append_nil is)

/-- A whole number is accepted as it is, and it keeps the bounds. -/
theorem Check.wholeNumber_eq_ok {least : Nat} {greatest : Option Nat} {v : Value} {t : Number}
    (h : wholeNumber least greatest v = .ok t) :
    v = .num t ∧ t.isInteger = true ∧ Number.lt t (Number.ofNat least) = false ∧
      ∀ most, greatest = some most → Number.lt (Number.ofNat most) t = false := by
  have hissues : v = .num t ∧ (rangeIssues least greatest t).isEmpty = true := by
    cases v with
    | num n =>
      cases n with
      | nan => cases h
      | infinity s | negativeZero | finite r =>
        simp only [wholeNumber] at h
        split at h
        · rename_i hempty
          rw [← Except.ok.inj h]
          exact ⟨rfl, hempty⟩
        · cases h
    | _ => cases h
  obtain ⟨rfl, hempty⟩ := hissues
  cases greatest with
  | none => simpa [rangeIssues] using hempty
  | some most => simpa [rangeIssues, and_assoc] using hempty

end Inversion

namespace Report

/-- What the schema of reports asks beyond the type of reports. -/
structure Valid (r : Report) : Prop where
  time : wholeNumber 0 none (.num r.timeMs) = .ok r.timeMs
  evidence : r.assertionErrors ≠ some []

/-- **A valid report is accepted**, and read back unchanged. -/
theorem check_toValue {r : Report} (h : r.Valid) : check r.toValue = .ok r := by
  obtain ⟨verdict, timeMs, details, evidence⟩ := r
  have htime : wholeNumber 0 none (.num timeMs) = .ok timeMs := h.time
  have hindex : ∀ k ∈ ["verdict", "time_ms", "details", "assertion_errors"], Value.index? k = none := by
    decide
  cases evidence with
  | none =>
    apply strict_of_known _ hindex
    · simp [readFields, field, Value.field, List.lookup_cons, Verdict.check_name, htime, text, Check.optional,
        Checked.within, Checked.both, Except.map]
    · show ["verdict", "time_ms", "details"] ⊆ _
      decide
  | some xs =>
    have hne : xs ≠ [] := fun hx => h.evidence (by rw [hx])
    apply strict_of_known _ hindex
    · simp [readFields, field, Value.field, List.lookup_cons, Verdict.check_name, htime, text, Check.optional,
        texts_one_map_str hne, Checked.within, Checked.both, Except.map]
    · show ["verdict", "time_ms", "details", "assertion_errors"] ⊆ _
      decide

end Report

namespace ErrorDocument

/-- **An error document with a message is accepted**, and read back unchanged. -/
theorem check_toValue {d : ErrorDocument} (h : d.error ≠ "") : check d.toValue = .ok d := by
  obtain ⟨error⟩ := d
  have hnonempty : error.isEmpty = false := by
    rw [Bool.eq_false_iff]; intro he; exact h (String.isEmpty_iff.mp he)
  apply strict_of_known
  · show ["error", "verdict"] ⊆ _
    decide
  · decide
  · simp [readFields, field, Value.field, List.lookup_cons, nonEmptyText, hnonempty, literal, Checked.within,
      Checked.both, Except.map]

end ErrorDocument

/-! ## Assembly -/

namespace Report

/-- The report that the facts of a run amount to; evidence is only mentioned if there is some. -/
def ofRun (v : Verdict) (startedAt finishedAt : Number) (log evidence : List String) : Report :=
  ⟨v, elapsedMs startedAt finishedAt, Text.join "\n" log, if evidence.isEmpty then none else some evidence⟩

variable {v : Verdict} {a b : Number} {log evidence : List String}

theorem ofRun_valid (h : (elapsedMs a b).isFinite = true) : (ofRun v a b log evidence).Valid := by
  refine ⟨wholeNumber_elapsedMs h, ?_⟩
  cases evidence with
  | nil => simp [ofRun]
  | cons x xs => simp [ofRun]

theorem unchecked_eq_toValue :
    unchecked ⟨.str v.name, a, b, log, evidence.map .str⟩ = (ofRun v a b log evidence).toValue := by
  cases evidence with
  | nil => rfl
  | cons x xs => rfl

/-- **Assembling the draft of a run** with a finite elapsed time gives the report of its facts. -/
theorem assemble_of_finite (h : (elapsedMs a b).isFinite = true) :
    assemble ⟨.str v.name, a, b, log, evidence.map .str⟩ = .ok (ofRun v a b log evidence) := by
  rw [assemble, unchecked_eq_toValue]
  exact check_toValue (ofRun_valid h)

/-- Whatever is assembled bears the verdict of its draft. -/
theorem verdict_of_assemble {values : List Value} {r : Report} (h : assemble ⟨.str v.name, a, b, log, values⟩ = .ok r) :
    r.verdict = v := by
  obtain ⟨⟨verdict, rest⟩, hfields, rfl⟩ := map_eq_ok (alsoRefusing_eq_ok h)
  have hverdict := within_eq_ok (both_eq_ok hfields).1
  rw [show Value.field "verdict" _ = .str v.name from rfl, Verdict.check_name] at hverdict
  exact (Except.ok.inj hverdict).symm

/-- Whatever is assembled bears the elapsed time, and the schema has accepted it. -/
theorem time_of_assemble {d : Draft} {r : Report} (h : assemble d = .ok r) :
    wholeNumber 0 none (.num (elapsedMs d.startedAt d.finishedAt)) = .ok r.timeMs := by
  obtain ⟨⟨verdict, time, rest⟩, hfields, rfl⟩ := map_eq_ok (alsoRefusing_eq_ok h)
  exact within_eq_ok (both_eq_ok (both_eq_ok hfields).2).1

/-- Whatever is assembled without evidence mentions none. -/
theorem evidence_of_assemble {verdict : Value} {r : Report} (h : assemble ⟨verdict, a, b, log, []⟩ = .ok r) :
    r.assertionErrors = none := by
  obtain ⟨⟨verdict, time, details, evidence⟩, hfields, rfl⟩ := map_eq_ok (alsoRefusing_eq_ok h)
  have hevidence := within_eq_ok (both_eq_ok (both_eq_ok (both_eq_ok hfields).2).2).2
  exact (Except.ok.inj hevidence).symm

/-- A draft is assembled from its verdict, its time and its evidence; the log is the details whatever it says. -/
theorem assemble_eq (verdict : Value) (startedAt finishedAt : Number) (evidence : List Value) :
    ∃ (V : Checked Verdict) (T : Checked Number) (E : Checked (Option (List String))), ∀ log : List String,
      assemble ⟨verdict, startedAt, finishedAt, log, evidence⟩ =
        (Checked.both V (Checked.both T (Checked.both (.ok (Text.join "\n" log)) E))).map
          fun x => ⟨x.1, x.2.1, x.2.2.1, x.2.2.2⟩ := by
  have hindex : ∀ k ∈ ["verdict", "time_ms", "details", "assertion_errors"], Value.index? k = none := by decide
  cases hempty : evidence.isEmpty with
  | true =>
    refine ⟨(Verdict.check verdict).within (.field "verdict"),
      (wholeNumber 0 none (.num (elapsedMs startedAt finishedAt))).within (.field "time_ms"), .ok none, fun log => ?_⟩
    simp only [assemble, unchecked, hempty, if_true]
    rw [check, strict, strangers_eq_nil ?_ hindex, alsoRefusing_nil]
    · rfl
    · show ["verdict", "time_ms", "details"] ⊆ _
      decide
  | false =>
    refine ⟨(Verdict.check verdict).within (.field "verdict"),
      (wholeNumber 0 none (.num (elapsedMs startedAt finishedAt))).within (.field "time_ms"),
      Checked.within (.field "assertion_errors") ((texts 1 (.list evidence)).map some), fun log => ?_⟩
    simp only [assemble, unchecked, hempty, Bool.false_eq_true, if_false]
    rw [check, strict, strangers_eq_nil ?_ hindex, alsoRefusing_nil]
    · rfl
    · show ["verdict", "time_ms", "details", "assertion_errors"] ⊆ _
      decide

/-- The log of a draft becomes the details of the report and nothing else. -/
theorem assemble_log (d : Draft) (log : List String) :
    assemble { d with log := log } = (assemble d).map fun a => { a with details := Text.join "\n" log } := by
  obtain ⟨V, T, E, hassemble⟩ := assemble_eq d.verdict d.startedAt d.finishedAt d.evidence
  rw [hassemble log, show assemble d = _ from hassemble d.log]
  cases V <;> cases T <;> cases E <;> rfl

/-- Whatever is assembled has its log as details. -/
theorem details_of_assemble {d : Draft} {a : Report} (h : assemble d = .ok a) :
    a.details = Text.join "\n" d.log := by
  have hsame := assemble_log d d.log
  rw [show ({ d with log := d.log } : Draft) = d from rfl, h] at hsame
  exact congrArg Report.details (Except.ok.inj hsame)

end Report

/-! ## Writing -/

namespace Failure

/-- A failure that can be put into words. -/
def Worded (f : Failure) : Prop := ∃ reason, f.text = .ok reason

/-- A failure without any words is a bare value, and asking for its words fails with a message or in the value's own
    way. -/
theorem cases_of_text {f g : Failure} (h : f.text = .error g) :
    (∃ v, f = .value v ∧ v.text? = none ∧ g = .noText) ∨ f = .wordless g := by
  cases f with
  | value v =>
    simp only [text] at h
    split at h
    · cases h
    · rename_i htext
      exact .inl ⟨v, rfl, htext, (Except.error.inj h).symm⟩
  | wordless thrown => exact .inr (congrArg wordless (Except.error.inj h))
  | _ => exact absurd h (by simp [text])

theorem not_worded_of_text {f g : Failure} (h : f.text = .error g) : ¬f.Worded := by
  rintro ⟨reason, hreason⟩
  rw [h] at hreason
  cases hreason

theorem text_value_of_some {v : Value} {t : String} (h : v.text? = some t) : (value v).text = .ok t := by
  simp only [text, h]

theorem text_value_of_none {v : Value} (h : v.text? = none) : (value v).text = .error noText := by
  simp only [text, h]

/-- What can be put into words is worded by its message. -/
theorem Worded.text_eq {f : Failure} (h : f.Worded) : f.text = .ok f.message := by
  cases f with
  | value v =>
    cases hv : v.text? with
    | none => exact absurd h (not_worded_of_text (text_value_of_none hv))
    | some t =>
      have htext : v.text = t := Option.some.inj (Option.ite_none_right_eq_some.mp hv).2
      rw [text_value_of_some hv, ← htext]
      rfl
  | wordless thrown => exact absurd h (not_worded_of_text (g := thrown) rfl)
  | _ => rfl

/-- A failure that can be told: it has words, or what comes instead of them has. -/
def Tellable (f : Failure) : Prop := ∀ g, f.text = .error g → g.Worded

theorem Worded.tellable {f : Failure} (h : f.Worded) : f.Tellable := fun _ hg => absurd h (not_worded_of_text hg)

end Failure

/-- The document that stands for a draft when every attempt to write it succeeds. -/
def Report.ofDraft (d : Draft) : Report :=
  match Report.assemble d with
  | .ok report => report
  | .error issues => Report.fallback d (Failure.schema issues).message

namespace Sink

/-- A writer that never fails. -/
def Open (s : Sink) : Prop := ∀ i, s.refuse i = none

/-- A writer all of whose failures can be put into words. -/
def Worded (s : Sink) : Prop := ∀ i f, s.refuse i = some f → f.Worded

/-- A writer after one more line. -/
def wrote (s : Sink) (line : String) : Sink := { s with attempts := s.attempts + 1, lines := s.lines ++ [line] }

variable {s : Sink}

theorem worded_of_open (h : s.Open) : s.Worded := by
  intro i f hf
  rw [h i] at hf
  exact absurd hf (by simp)

theorem write_of_open (h : s.Open) (line : String) : s.write line = (.ok (), s.wrote line) := by
  simp only [write, h s.attempts, wrote]

/-- **On a writer that never fails**, emitting a draft writes exactly the line of the document it returns. -/
theorem emit_of_open (h : s.Open) (d : Draft) :
    s.emit d = (.ok (Report.ofDraft d), s.wrote (Report.ofDraft d).line) := by
  cases hd : Report.assemble d with
  | ok report => simp only [emit, Report.ofDraft, hd, write_of_open h]
  | error issues => simp only [emit, Report.ofDraft, hd, emitFallback, write_of_open h]

theorem emitError_of_open (h : s.Open) (message : String) :
    s.emitError message = (⟨message⟩, s.wrote (ErrorDocument.line ⟨message⟩)) := by
  simp only [emitError, write_of_open h]

/-- **On a writer whose failures can be worded**, emitting a draft returns the assembled report or the fallback. -/
theorem emit_of_worded (h : s.Worded) (d : Draft) :
    ∃ report s', s.emit d = (.ok report, s') ∧
      (Report.assemble d = .ok report ∨ ∃ message, report = Report.fallback d message) := by
  cases hd : Report.assemble d with
  | error issues =>
    exact ⟨_, _, by simp only [emit, hd, emitFallback]; rfl, Or.inr ⟨_, rfl⟩⟩
  | ok report =>
    cases hr : s.refuse s.attempts with
    | none => exact ⟨report, _, by simp only [emit, hd, write, hr]; rfl, Or.inl rfl⟩
    | some f =>
      -- the report could not be written: its failure has words, and these are what the fallback says
      obtain ⟨reason, hreason⟩ := h _ f hr
      exact ⟨_, _, by simp only [emit, hd, write, hr, hreason, emitFallback]; rfl, Or.inr ⟨_, rfl⟩⟩

/-- Whatever the writer does, a document that is returned is the assembled report or the fallback. -/
theorem emit_cases {d : Draft} {report : Report} {s' : Sink} (hemit : s.emit d = (.ok report, s')) :
    Report.assemble d = .ok report ∨ ∃ message, report = Report.fallback d message := by
  unfold emit at hemit
  split at hemit
  · exact .inr ⟨_, (Except.ok.inj (Prod.mk.inj hemit).1).symm⟩
  · rename_i assembled hassemble
    split at hemit
    · rw [hassemble]
      exact .inl (congrArg Except.ok (Except.ok.inj (Prod.mk.inj hemit).1))
    · split at hemit
      · cases hemit
      · exact .inr ⟨_, (Except.ok.inj (Prod.mk.inj hemit).1).symm⟩

/-- Emitting a draft leaves a writer whose failures have words. -/
theorem Worded.emit (h : s.Worded) (d : Draft) : (s.emit d).2.Worded := by
  have hwrite : ∀ (s : Sink) (line : String), s.Worded → (s.write line).2.Worded := by
    intro s line hs
    unfold write
    split <;> exact hs
  unfold Sink.emit
  split
  · exact hwrite _ _ h
  · rename_i report hassemble
    have hwritten := hwrite s report.line h
    rcases hline : s.write report.line with ⟨result, s'⟩
    rw [hline] at hwritten
    cases result with
    | ok _ => exact hwritten
    | error f =>
      dsimp only
      split
      · exact hwritten
      · exact hwrite _ _ hwritten

/-- Whatever is emitted bears the verdict of its draft, or `error`. -/
theorem verdict_of_emit (h : s.Worded) {v : Verdict} {a b : Number} {log : List String} {values : List Value}
    {report : Report} {s' : Sink} (hemit : s.emit ⟨.str v.name, a, b, log, values⟩ = (.ok report, s')) :
    report.verdict = v ∨ report.verdict = .error := by
  obtain ⟨report', s'', hemit', hreport⟩ := emit_of_worded h ⟨.str v.name, a, b, log, values⟩
  have hsame : report' = report := Except.ok.inj (Prod.mk.inj (hemit'.symm.trans hemit)).1
  subst hsame
  rcases hreport with hassemble | ⟨message, rfl⟩
  · exact Or.inl (Report.verdict_of_assemble hassemble)
  · exact Or.inr rfl

/-- Whatever is emitted without evidence mentions none. -/
theorem evidence_of_emit {verdict : Value} {a b : Number} {log : List String} {report : Report} {s' : Sink}
    (hemit : s.emit ⟨verdict, a, b, log, []⟩ = (.ok report, s')) : report.assertionErrors = none := by
  rcases emit_cases hemit with hassemble | ⟨message, rfl⟩
  · exact Report.evidence_of_assemble hassemble
  · rfl

end Sink

end DataplaneVerdict
