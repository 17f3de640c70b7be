import DataplaneVerdict.Proofs.Documents

/-!
# `Proofs.Reporter` — calls on one reporter

A reporter is called with drafts and with messages, and its writer may fail at any attempt. What one call does is told
by `Served`: which attempts it makes, which line it leaves and what it returns, for each way in which the call can go.
Every call of every sequence goes one of these ways (`Sink.served`), and the way is fixed by the call and by the
outcomes of its own attempts (`Served.unique`), so nothing is carried over from the calls before.

Four of the five ways return a document. The fifth is the exception: the report was assembled, and writing it failed
with a value that cannot be put into words. Then the reporter cannot word its fallback, and the call itself fails
(`Service.Wordless`).
-/

namespace DataplaneVerdict

/-- A document on its way to a writer. -/
inductive Document where
  | report (r : Report)
  | error (d : ErrorDocument)
deriving DecidableEq

namespace Document

/-- A document as data. -/
def toValue : Document → Value
  | report r => r.toValue
  | error d => d.toValue

/-- The line of a document. -/
def line (doc : Document) : String := Json.line doc.toValue

end Document

/-- A call on a reporter. -/
inductive ReporterCall where
  | report (d : Draft)
  | error (message : String)

/-- What a call did: its attempts to write with their outcomes, the lines it wrote and what it returned. -/
structure Service where
  call : ReporterCall
  outcomes : List (Option Failure)
  written : List String
  answer : Except Failure Document

/-- What is left of one attempt to write a line. -/
def Document.left (doc : Document) (outcome : Option Failure) : List String :=
  if outcome.isNone then [doc.line] else []

/-! ## The ways of a call -/

/-- **The ways of a call.** -/
inductive Served : Service → Prop where
  /-- an error document is written, or not -/
  | error (message : String) (o : Option Failure) :
    Served ⟨.error message, [o], (Document.error ⟨message⟩).left o, .ok (.error ⟨message⟩)⟩
  /-- the report is assembled and written -/
  | reported {d : Draft} {r : Report} (hassemble : Report.assemble d = .ok r) :
    Served ⟨.report d, [none], [(Document.report r).line], .ok (.report r)⟩
  /-- the report cannot be assembled, and the fallback is written or not -/
  | unassembled {d : Draft} {issues : List Issue} (hassemble : Report.assemble d = .error issues) (o : Option Failure) :
    Served ⟨.report d, [o], (Document.report (Report.fallback d (Failure.schema issues).message)).left o,
      .ok (.report (Report.fallback d (Failure.schema issues).message))⟩
  /-- the report cannot be written, and the fallback is written or not -/
  | unwritten {d : Draft} {r : Report} (hassemble : Report.assemble d = .ok r) {f : Failure} {m : String}
      (htext : f.text = .ok m) (o : Option Failure) :
    Served ⟨.report d, [some f, o], (Document.report (Report.fallback d m)).left o,
      .ok (.report (Report.fallback d m))⟩
  /-- the report cannot be written, and the failure has no text -/
  | wordless {d : Draft} {r : Report} (hassemble : Report.assemble d = .ok r) {f g : Failure}
      (htext : f.text = .error g) :
    Served ⟨.report d, [some f], [], .error g⟩

/-- **A call is determined by its input and by the outcomes of its own attempts.** -/
theorem Served.unique {x y : Service} (hx : Served x) (hy : Served y) (hcall : x.call = y.call)
    (houtcomes : x.outcomes = y.outcomes) : x = y := by
  cases hx <;> cases hy <;> simp_all

namespace Sink

/-! ## Sequences of calls -/

/-- Serves one call. -/
def serve (s : Sink) : ReporterCall → Except Failure Document × Sink
  | .report d => ((s.emit d).1.map .report, (s.emit d).2)
  | .error message => (.ok (.error (s.emitError message).1), (s.emitError message).2)

/-- What one call does on a writer: the attempts that it makes and the lines that it adds. -/
def service (s : Sink) (c : ReporterCall) : Service where
  call := c
  outcomes := (List.range' s.attempts ((s.serve c).2.attempts - s.attempts)).map s.refuse
  written := (s.serve c).2.lines.drop s.lines.length
  answer := (s.serve c).1

/-- What the calls of a sequence do, one after the other on the same writer. -/
def services (s : Sink) : List ReporterCall → List Service
  | [] => []
  | c :: cs => s.service c :: (s.serve c).2.services cs

/-- The writer after a sequence of calls. -/
def after (s : Sink) (cs : List ReporterCall) : Sink := cs.foldl (fun s c => (s.serve c).2) s

/-- A writer after one attempt to write a document. -/
def tried (s : Sink) (doc : Document) : Sink :=
  { s with attempts := s.attempts + 1, lines := s.lines ++ doc.left (s.refuse s.attempts) }

theorem write_eq (s : Sink) (doc : Document) :
    s.write doc.line = ((s.refuse s.attempts).elim (.ok ()) .error, s.tried doc) := by
  unfold write tried Document.left
  cases s.refuse s.attempts with
  | none => rfl
  | some f => simp

section Step

variable {s : Sink} {c : ReporterCall} {answer : Except Failure Document} {first second : Document}

theorem service_of_tried (h : s.serve c = (answer, s.tried first)) :
    s.service c = ⟨c, [s.refuse s.attempts], first.left (s.refuse s.attempts), answer⟩ := by
  rw [service, h]
  simp [tried]

theorem service_of_tried_twice {f : Failure} (hfailed : s.refuse s.attempts = some f)
    (h : s.serve c = (answer, (s.tried first).tried second)) :
    s.service c = ⟨c, [some f, s.refuse (s.attempts + 1)], second.left (s.refuse (s.attempts + 1)), answer⟩ := by
  have htwo : s.attempts + 1 + 1 - s.attempts = 2 := by omega
  rw [service, h]
  simp [tried, hfailed, Document.left, htwo, List.range'_succ]

/-- A call leaves the writer's failures alone, makes its attempts in a row and adds its lines at the end. -/
structure Continues (s t : Sink) : Prop where
  refuse : t.refuse = s.refuse
  attempts : s.attempts ≤ t.attempts
  lines : s.lines <+: t.lines

theorem continues_tried (s : Sink) (doc : Document) : s.Continues (s.tried doc) :=
  ⟨rfl, Nat.le_succ _, List.prefix_append _ _⟩

theorem Continues.trans {s t u : Sink} (hst : s.Continues t) (htu : t.Continues u) : s.Continues u :=
  ⟨htu.refuse.trans hst.refuse, Nat.le_trans hst.attempts htu.attempts, hst.lines.trans htu.lines⟩

/-- **One call**: it goes one of the ways, and the writer goes on behind it. -/
theorem served_service (s : Sink) (c : ReporterCall) : Served (s.service c) ∧ s.Continues (s.serve c).2 := by
  cases c with
  | error message =>
    have hserve : s.serve (.error message) = (.ok (.error ⟨message⟩), s.tried (.error ⟨message⟩)) := by
      simp only [serve, emitError]
      rw [show ErrorDocument.line ⟨message⟩ = (Document.error ⟨message⟩).line from rfl, write_eq]
    rw [service_of_tried hserve, hserve]
    exact ⟨.error message _, continues_tried _ _⟩
  | report d =>
    cases hassemble : Report.assemble d with
    | error issues =>
      have hserve : s.serve (.report d) = (.ok (.report (Report.fallback d (Failure.schema issues).message)),
          s.tried (.report (Report.fallback d (Failure.schema issues).message))) := by
        simp only [serve, emit, hassemble, emitFallback]
        rw [show Report.line _ = (Document.report _).line from rfl, write_eq]
        rfl
      rw [service_of_tried hserve, hserve]
      exact ⟨.unassembled hassemble _, continues_tried _ _⟩
    | ok r =>
      have hwrite : s.write r.line = _ := s.write_eq (.report r)
      -- the first attempt decides whether there is a second one
      cases hfirst : s.refuse s.attempts with
      | none =>
        have hserve : s.serve (.report d) = (.ok (.report r), s.tried (.report r)) := by
          rw [hfirst] at hwrite
          simp only [serve, emit, hassemble, hwrite]
          rfl
        rw [service_of_tried hserve, hserve, hfirst]
        exact ⟨.reported hassemble, continues_tried _ _⟩
      | some f =>
        rw [hfirst] at hwrite
        cases htext : f.text with
        | error g =>
          -- no words for the fallback, so the failure of finding them is the answer
          have hserve : s.serve (.report d) = (.error g, s.tried (.report r)) := by
            simp only [serve, emit, hassemble, hwrite, Option.elim_some, htext]
            rfl
          rw [service_of_tried hserve, hserve, hfirst]
          exact ⟨.wordless hassemble htext, continues_tried _ _⟩
        | ok m =>
          have hserve : s.serve (.report d) = (.ok (.report (Report.fallback d m)),
              (s.tried (.report r)).tried (.report (Report.fallback d m))) := by
            simp only [serve, emit, hassemble, hwrite, Option.elim_some, htext, emitFallback]
            rw [show Report.line _ = (Document.report _).line from rfl, write_eq]
            rfl
          rw [service_of_tried_twice hfirst hserve, hserve]
          exact ⟨.unwritten hassemble htext _, (continues_tried _ _).trans (continues_tried _ _)⟩

end Step

/-- **Every call of a sequence** goes one of the ways. -/
theorem served (s : Sink) (calls : List ReporterCall) : ∀ x ∈ s.services calls, Served x := by
  induction calls generalizing s with
  | nil => exact fun _ hx => nomatch hx
  | cons c calls ih =>
    intro x hx
    rcases List.mem_cons.mp hx with rfl | hx
    · exact (served_service s c).1
    · exact ih (s.serve c).2 x hx

/-- The calls of a sequence share one writer: their attempts follow each other, and their lines stand in order. -/
theorem after_eq (s : Sink) (calls : List ReporterCall) :
    (s.services calls).map (·.call) = calls ∧ s.Continues (s.after calls) ∧
    (s.services calls).flatMap (·.outcomes) =
      (List.range' s.attempts ((s.after calls).attempts - s.attempts)).map s.refuse ∧
    (s.after calls).lines = s.lines ++ (s.services calls).flatMap (·.written) := by
  induction calls generalizing s with
  | nil => exact ⟨rfl, ⟨rfl, Nat.le_refl _, List.prefix_rfl⟩, by simp [services, after], by simp [services, after]⟩
  | cons c calls ih =>
    have hstep := (served_service s c).2
    obtain ⟨hcalls, hrun, houtcomes, hlines⟩ := ih (s.serve c).2
    rw [show s.after (c :: calls) = (s.serve c).2.after calls from rfl]
    refine ⟨?_, hstep.trans hrun, ?_, ?_⟩
    · rw [services, List.map_cons, hcalls]
      rfl
    · have hfirst := hstep.attempts
      have hrest := hrun.attempts
      -- the attempts of the first call and those of the rest are one range, since the first call ends where the rest
      -- begins
      rw [services, List.flatMap_cons, houtcomes, hstep.refuse, service, ← List.map_append]
      generalize (s.serve c).2.attempts = n at *
      generalize ((s.serve c).2.after calls).attempts = m at *
      obtain ⟨k, rfl⟩ := Nat.exists_eq_add_of_le hfirst
      obtain ⟨l, rfl⟩ := Nat.exists_eq_add_of_le hrest
      rw [Nat.add_sub_cancel_left, Nat.add_sub_cancel_left, Nat.add_assoc, Nat.add_sub_cancel_left,
        List.range'_append_1]
    · rw [services, List.flatMap_cons, hlines, ← List.append_assoc]
      exact congrArg (· ++ _) (List.prefix_iff_eq_append.mp hstep.lines).symm

end Sink

/-! ## The service -/

namespace Service

/-- The one way in which a call fails: its report was assembled, and writing it failed with a bare value that has no
    text, or that fails in its own way when it is asked for one. -/
def Wordless (x : Service) : Prop :=
  ∃ d r f, x.call = .report d ∧ Report.assemble d = .ok r ∧ x.outcomes = [some f] ∧
    ((∃ v, f = .value v ∧ v.text? = none) ∨ ∃ g, f = .wordless g)

/-- **What a caller may rely on.** -/
structure Sound (x : Service) : Prop where
  /-- a call fails in that way only, and then always -/
  fails : (∃ f, x.answer = .error f) ↔ x.Wordless
  /-- an error document is returned, after one attempt to write it -/
  error : ∀ message, x.call = .error message → x.outcomes.length = 1 ∧ x.answer = .ok (.error ⟨message⟩)
  /-- a report that is assembled and written is returned, after one attempt -/
  reported : ∀ d r, x.call = .report d → Report.assemble d = .ok r → x.outcomes.head? = some none →
    x.outcomes.length = 1 ∧ x.answer = .ok (.report r)
  /-- for a report that cannot be assembled the fallback is returned, after one attempt -/
  unassembled : ∀ d issues, x.call = .report d → Report.assemble d = .error issues →
    x.outcomes.length = 1 ∧ x.answer = .ok (.report ⟨.error, elapsedMs d.startedAt d.finishedAt,
      "Report assembly failed: " ++ (Failure.schema issues).message, none⟩)
  /-- for a report that cannot be written it is returned as well, after two attempts -/
  unwritten : ∀ d r f m, x.call = .report d → Report.assemble d = .ok r → x.outcomes.head? = some (some f) →
    f.text = .ok m → x.outcomes.length = 2 ∧ x.answer = .ok (.report ⟨.error, elapsedMs d.startedAt d.finishedAt,
      "Report assembly failed: " ++ m, none⟩)
  /-- the last attempt leaves the line of the document that is returned, or nothing -/
  line : ∃ o, x.outcomes.getLast? = some o ∧
    x.written = if o.isNone then (x.answer.toOption.map Document.line).toList else []

end Service

theorem Served.sound {x : Service} (h : Served x) : x.Sound := by
  constructor
  case fails =>
    cases h with
    | @wordless d r hassemble f g htext =>
      have hbare : (∃ v, f = .value v ∧ v.text? = none) ∨ ∃ g, f = .wordless g := by
        rcases Failure.cases_of_text htext with ⟨v, hf, hv, -⟩ | hf
        · exact .inl ⟨v, hf, hv⟩
        · exact .inr ⟨g, hf⟩
      exact ⟨fun _ => ⟨d, r, f, rfl, hassemble, rfl, hbare⟩, fun _ => ⟨g, rfl⟩⟩
    | _ => simp_all [Service.Wordless]
  case error =>
    intro message hcall
    cases h <;> simp_all
  case reported =>
    intro d r hcall hassemble hfirst
    cases h <;> simp_all
  case unassembled =>
    intro d issues hcall hassemble
    cases h <;> simp_all [Report.fallback]
  case unwritten =>
    intro d r f m hcall hassemble hfirst htext
    cases h with
    | wordless _ hnone =>
      cases hfirst
      rw [hnone] at htext
      cases htext
    | _ => simp_all [Report.fallback]
  case line => cases h <;> exact ⟨_, rfl, rfl⟩

namespace Sink

/-- **Calls on one reporter.** The calls of every sequence on every writer follow each other: their attempts are the
    writer's attempts in order, and their lines are what the writer has got. Each of them is sound, and what it did is
    what any other reporter would do for the same call when its attempts have the same outcomes. -/
theorem services_sound (s : Sink) (calls : List ReporterCall) :
    (s.services calls).map (·.call) = calls ∧
    (s.services calls).flatMap (·.outcomes) =
      (List.range' s.attempts ((s.after calls).attempts - s.attempts)).map s.refuse ∧
    (s.after calls).lines = s.lines ++ (s.services calls).flatMap (·.written) ∧
    ∀ x ∈ s.services calls, x.Sound ∧ ∀ (t : Sink) (others : List ReporterCall), ∀ y ∈ t.services others,
      y.call = x.call → y.outcomes = x.outcomes → y = x := by
  obtain ⟨hcalls, -, houtcomes, hlines⟩ := s.after_eq calls
  refine ⟨hcalls, houtcomes, hlines, fun x hx => ⟨(s.served calls x hx).sound, ?_⟩⟩
  intro t others y hy hcall houtcome
  exact (t.served others y hy).unique (s.served calls x hx) hcall houtcome

/-- The first attempt of a call is the next one of its writer. -/
theorem head?_outcomes (s : Sink) (c : ReporterCall) : (s.service c).outcomes.head? = some (s.refuse s.attempts) := by
  obtain ⟨o, hlast, -⟩ := (s.served_service c).1.sound.line
  rw [service, List.getLast?_map] at hlast
  rw [service, List.head?_map]
  cases hcount : (s.serve c).2.attempts - s.attempts with
  | zero => simp [hcount] at hlast
  | succ n => rfl

/-- A writer that fails at its first attempt and at no other. -/
def failingFirst (f : Failure) : Sink where
  refuse i := if i = 0 then some f else none

/-- A draft with nothing wrong in it. -/
def flawless : Draft := ⟨.str "true", 0, 5, ["all paths explored"], []⟩

theorem assemble_flawless : Report.assemble flawless = .ok ⟨.holds, 5, "all paths explored", none⟩ :=
  @Report.assemble_of_finite .holds 0 5 ["all paths explored"] [] (by decide)

/-- A writer that fails once costs a report its verdict, and leaves the call behind it alone. -/
theorem failingFirst_sound : ((failingFirst (.other "EPIPE" none)).services [.report flawless, .error "no source"]).map
      (fun x => (x.outcomes.length, x.answer)) =
    [(2, .ok (.report ⟨.error, 5, "Report assembly failed: EPIPE", none⟩)), (1, .ok (.error ⟨"no source"⟩))] := by
  obtain ⟨-, -, -, hsound⟩ := services_sound (failingFirst (.other "EPIPE" none)) [.report flawless, .error "no source"]
  have hfirst := (hsound _ (List.mem_cons_self ..)).1
  have hsecond := (hsound _ (List.mem_cons_of_mem _ (List.mem_cons_self ..))).1
  obtain ⟨htwo, hreport⟩ := hfirst.unwritten _ _ _ _ rfl assemble_flawless (head?_outcomes _ _) rfl
  obtain ⟨hone, herror⟩ := hsecond.error _ rfl
  simp only [services, List.map_cons, List.map_nil, htwo, hreport, hone, herror]
  rfl

/-- **A value without a text** stops the reporter: a good report is lost, and the call fails. -/
theorem emit_textless :
    ((failingFirst (.value (.object [("toString", .num 1)]))).emit flawless).1 = .error .noText := by
  rw [emit, assemble_flawless]
  rfl

end Sink

end DataplaneVerdict
