import Mathlib.Data.List.Chain
import DataplaneVerdict.Run.Lookup

/-!
# `Proofs.Transitions` — what a sequence of events makes of a run

Events may come to a run in any order and number. The table of phases accepts some of them and refuses the others, and a
refused event leaves the run as it was. What is true of every run that arises so follows from what one accepted event
does: it leads one edge further through the table, and the phases rise along every edge (`Phase.rank_lt_of_next?`). So
no phase comes twice, and the number of accepted events is bounded, although the number of events is not.

A run also exists as data, whose table can be asked for any name. On the names of phases and events the two agree,
step by step (`RunRecord.advance_record`), so what is said of runs here is said of their data too.

## Contents
- **Routes.** `Phase.Route` are the ways through the table from its beginning; what comes before a phase on a route.
- **Sequences of events.** `Run.replay` and `Run.accepted`; `Run.Traced` is kept by every event.
- **Runs as data.** `Run.record`, `RunRecord.replay_record`.
- **The whole sequence.** `Run.replay_traced`.
-/

namespace DataplaneVerdict

/-! ## Routes -/

namespace Phase

variable {p q : Phase} {e : Event} {events : List Event} {phases pre post : List Phase}

/-- The place of a phase in the order of all phases. -/
def rank : Phase → Nat
  | init => 0
  | frontend => 1
  | translate => 2
  | native => 3
  | engine => 4
  | classify => 5
  | report => 6
  | done => 7

theorem rank_le (p : Phase) : p.rank ≤ 7 := by
  cases p <;> decide

/-- Some event leads from a phase to another. -/
def Leads (p q : Phase) : Prop := ∃ e, p.next? e = some q

/-- **Every edge of the table rises.** -/
theorem rank_lt_of_next? (h : p.next? e = some q) : p.rank < q.rank := by
  cases p <;> cases e <;> cases h <;> decide

/-- An edge that does not lead to the end of the run leads from a phase to the very next one. -/
theorem rank_of_next? (h : p.next? e = some q) (hq : q.rank < report.rank) : q.rank = p.rank + 1 := by
  cases p <;> cases e <;> cases h <;> revert hq <;> decide

theorem eq_report_of_next? (h : p.next? e = some done) : p = report := by
  cases p <;> cases e <;> cases h
  rfl

theorem next?_done (e : Event) : next? done e = none := by
  cases e <;> rfl

theorem all_take_rank_succ (q : Phase) : all.take (q.rank + 1) = all.take q.rank ++ [q] := by
  cases q <;> rfl

/-- **Routes through the table.** `Route events phases p`: the events lead, one after the other and none of them
refused, through the phases `phases`, of which the first is `init` and the last is `p`. -/
inductive Route : List Event → List Phase → Phase → Prop
  | start : Route [] [init] init
  | move {events : List Event} {phases : List Phase} {p q : Phase} {e : Event} (hroute : Route events phases p)
      (hnext : p.next? e = some q) : Route (events ++ [e]) (phases ++ [q]) q

namespace Route

theorem getLast? (h : Route events phases p) : phases.getLast? = some p := by
  cases h with
  | start => rfl
  | move hroute hnext => exact List.getLast?_concat

theorem head? (h : Route events phases p) : phases.head? = some init := by
  induction h with
  | start => rfl
  | move hroute hnext ih => rw [List.head?_append, ih]; rfl

theorem length_eq (h : Route events phases p) : phases.length = events.length + 1 := by
  induction h with
  | start => rfl
  | move hroute hnext ih => rw [List.length_append, List.length_append, ih]; rfl

/-- Consecutive phases of a route are edges of the table. -/
theorem isChain (h : Route events phases p) : phases.IsChain Leads := by
  induction h with
  | start => exact List.isChain_singleton _
  | @move events phases p q e hroute hnext ih =>
    refine List.isChain_append.mpr ⟨ih, List.isChain_singleton _, ?_⟩
    intro x hx y hy
    rw [hroute.getLast?, Option.mem_some] at hx
    rw [List.head?_cons, Option.mem_some] at hy
    subst hx hy
    exact ⟨e, hnext⟩

/-- The phases of a route rise up to its last one. -/
theorem rank_le (h : Route events phases p) : ∀ x ∈ phases, x.rank ≤ p.rank := by
  induction h with
  | start => simp
  | move hroute hnext ih =>
    have hrise := rank_lt_of_next? hnext
    intro x hx
    rcases List.mem_append.mp hx with hx | hx
    · exact Nat.le_of_lt (Nat.lt_of_le_of_lt (ih x hx) hrise)
    · exact Nat.le_of_eq (congrArg rank (List.mem_singleton.mp hx))

theorem rising (h : Route events phases p) : phases.Pairwise (fun x y => x.rank < y.rank) := by
  induction h with
  | start => exact List.pairwise_singleton _ _
  | move hroute hnext ih =>
    have hrise := rank_lt_of_next? hnext
    refine List.pairwise_append.mpr ⟨ih, List.pairwise_singleton _ _, ?_⟩
    intro x hx y hy
    rw [List.mem_singleton.mp hy]
    exact Nat.lt_of_le_of_lt (hroute.rank_le x hx) hrise

/-- No phase comes twice. -/
theorem nodup (h : Route events phases p) : phases.Nodup :=
  h.rising.imp fun hlt heq => absurd (heq ▸ hlt) (Nat.lt_irrefl _)

/-- A route is no longer than its last phase is high. -/
theorem length_le_rank (h : Route events phases p) : events.length ≤ p.rank := by
  induction h with
  | start => exact Nat.le_refl _
  | move hroute hnext ih =>
    have hrise := rank_lt_of_next? hnext
    rw [List.length_append, List.length_singleton]
    omega

/-- A route that has not come to the report has passed every phase before its last one, in order. -/
theorem eq_take (h : Route events phases p) (hp : p.rank < report.rank) : phases = all.take (p.rank + 1) := by
  induction h with
  | start => rfl
  | @move events phases p q e hroute hnext ih =>
    have hlt := rank_lt_of_next? hnext
    have hsucc := rank_of_next? hnext hp
    rw [ih (Nat.lt_trans hlt hp), all_take_rank_succ q, hsucc]

/-- **A route can be cut** after any of its phases. -/
theorem cut (h : Route events phases p) (hphases : phases = pre ++ q :: post) :
    ∃ before, Route before (pre ++ [q]) q := by
  induction h generalizing post with
  | start =>
    -- the only phase is the first one
    obtain ⟨rfl, hq⟩ : pre = [] ∧ [init] = q :: post := by
      cases pre with
      | nil => exact ⟨rfl, hphases⟩
      | cons x pre => exact absurd (List.cons.inj hphases).2 (by simp)
    rw [← (List.cons.inj hq).1]
    exact ⟨[], .start⟩
  | @move events phases p r e hroute hnext ih =>
    rcases List.eq_nil_or_concat post with rfl | ⟨post, last, rfl⟩
    · obtain ⟨rfl, hr⟩ := List.append_inj' hphases rfl
      rw [← (List.cons.inj hr).1]
      exact ⟨_, .move hroute hnext⟩
    · rw [List.concat_eq_append, ← List.cons_append, ← List.append_assoc] at hphases
      exact ih (List.append_inj' hphases rfl).1

/-- **Classification** comes after all four stages, in their order. -/
theorem before_classify (h : Route events (pre ++ classify :: post) p) :
    pre = [init, frontend, translate, native, engine] := by
  obtain ⟨before, hcut⟩ := h.cut rfl
  have htake : pre ++ [classify] = [init, frontend, translate, native, engine] ++ [classify] :=
    hcut.eq_take (by decide)
  exact (List.append_inj' htake rfl).1

/-- **The end** comes directly after the report, and nothing comes after it. -/
theorem around_done (h : Route events (pre ++ done :: post) p) : pre.getLast? = some report ∧ post = [] := by
  constructor
  · obtain ⟨before, hcut⟩ := h.cut rfl
    generalize hphases : pre ++ [done] = phases at hcut
    cases hcut with
    | move hroute hnext =>
      rw [(List.append_inj' hphases rfl).1, hroute.getLast?, eq_report_of_next? hnext]
  · cases post with
    | nil => rfl
    | cons x post =>
      have hrise := (List.pairwise_append.mp h.rising).2.1
      have hlt : done.rank < x.rank := (List.pairwise_cons.mp hrise).1 x List.mem_cons_self
      exact absurd hlt (Nat.not_lt.mpr x.rank_le)

end Route

end Phase

/-! ## Sequences of events -/

namespace Run

variable {first run : Run} {past : List Event}

/-- The run after a sequence of events; the refused ones leave it as it was. -/
def replay (run : Run) (events : List Event) : Run := events.foldl offer run

/-- Those events of a sequence that a run accepts when they come to it one after the other. -/
def accepted (run : Run) : List Event → List Event
  | [] => []
  | event :: events =>
    match run.advance event with
    | .ok next => event :: next.accepted events
    | .error _ => run.accepted events

/-- **One event** leads along an edge of the table, or it is refused with the phase and the event. -/
theorem advance_cases (run : Run) (event : Event) :
    (∃ q, run.phase.next? event = some q ∧
      run.advance event = .ok { run with phase := q, history := run.history ++ [q] }) ∨
    (run.phase.next? event = none ∧ run.advance event = .error ⟨run.phase, event.name⟩) := by
  unfold advance
  cases hnext : run.phase.next? event with
  | none => exact .inr ⟨rfl, rfl⟩
  | some q => exact .inl ⟨q, rfl, rfl⟩

theorem offer_of_ok {event : Event} {next : Run} (h : run.advance event = .ok next) : run.offer event = next := by
  rw [offer, h]

theorem offer_of_error {event : Event} {refusal : InvalidTransition} (h : run.advance event = .error refusal) :
    run.offer event = run := by
  rw [offer, h]

theorem replay_cons (run : Run) (event : Event) (events : List Event) :
    run.replay (event :: events) = (run.offer event).replay events := rfl

theorem replay_append (run : Run) (events further : List Event) :
    run.replay (events ++ further) = (run.replay events).replay further := List.foldl_append

theorem accepted_of_ok {event : Event} {next : Run} (h : run.advance event = .ok next) (events : List Event) :
    run.accepted (event :: events) = event :: next.accepted events := by
  rw [accepted, h]

theorem accepted_of_error {event : Event} {refusal : InvalidTransition} (h : run.advance event = .error refusal)
    (events : List Event) : run.accepted (event :: events) = run.accepted events := by
  rw [accepted, h]

/-- **What every event keeps.** `Traced first run past`: the run `run` differs from the run `first` in its phase and
history only, and these are the route of the events `past`. -/
structure Traced (first run : Run) (past : List Event) : Prop where
  same : run = { first with phase := run.phase, history := run.history }
  route : Phase.Route past run.history run.phase

/-- One event. -/
theorem Traced.offer (h : Traced first run past) (event : Event) :
    Traced first (run.offer event) (past ++ run.accepted [event]) := by
  rcases run.advance_cases event with ⟨q, hnext, hadvance⟩ | ⟨-, hadvance⟩
  · rw [offer_of_ok hadvance, accepted_of_ok hadvance]
    refine ⟨?_, h.route.move hnext⟩
    show Run.mk run.id run.request q run.startedAt (run.history ++ [q]) run.workDir = _
    rw [h.same]
  · rw [offer_of_error hadvance, accepted_of_error hadvance, accepted, List.append_nil]
    exact h

theorem accepted_cons (run : Run) (event : Event) (events : List Event) :
    run.accepted (event :: events) = run.accepted [event] ++ (run.offer event).accepted events := by
  rcases run.advance_cases event with ⟨q, -, hadvance⟩ | ⟨-, hadvance⟩
  · rw [accepted_of_ok hadvance, accepted_of_ok hadvance, offer_of_ok hadvance]
    rfl
  · rw [accepted_of_error hadvance, accepted_of_error hadvance, offer_of_error hadvance]
    rfl

/-- A whole sequence of them. -/
theorem Traced.replay (h : Traced first run past) (events : List Event) :
    Traced first (run.replay events) (past ++ run.accepted events) := by
  induction events generalizing run past with
  | nil =>
    rw [accepted, List.append_nil]
    exact h
  | cons event events ih =>
    rw [replay_cons, accepted_cons, ← List.append_assoc]
    exact ih (h.offer event)

theorem traced_fresh (id : String) (request : Request) (startedAt : Number) (workDir : String) :
    Traced (fresh id request startedAt workDir) (fresh id request startedAt workDir) [] :=
  ⟨rfl, .start⟩

/-- **The accepted events alone**, none of them refused, lead where the whole sequence does. -/
theorem foldlM_accepted (run : Run) (events : List Event) :
    (run.accepted events).foldlM advance run = .ok (run.replay events) := by
  induction events generalizing run with
  | nil => rfl
  | cons event events ih =>
    rcases run.advance_cases event with ⟨q, -, hadvance⟩ | ⟨-, hadvance⟩
    · rw [accepted_of_ok hadvance, replay_cons, offer_of_ok hadvance, List.foldlM_cons, hadvance]
      exact ih _
    · rw [accepted_of_error hadvance, replay_cons, offer_of_error hadvance]
      exact ih run

theorem accepted_sublist (run : Run) (events : List Event) : (run.accepted events).Sublist events := by
  induction events generalizing run with
  | nil => exact .slnil
  | cons event events ih =>
    rcases run.advance_cases event with ⟨q, -, hadvance⟩ | ⟨-, hadvance⟩
    · rw [accepted_of_ok hadvance]
      exact (ih _).cons_cons event
    · rw [accepted_of_error hadvance]
      exact (ih run).cons event

/-- A run that is done refuses every event. -/
theorem advance_of_done (h : run.phase = .done) (event : Event) : run.advance event = .error ⟨.done, event.name⟩ := by
  rw [advance, h, Phase.next?_done]

theorem replay_of_done (h : run.phase = .done) (events : List Event) : run.replay events = run := by
  induction events with
  | nil => rfl
  | cons event events ih => rw [replay_cons, offer_of_error (advance_of_done h event), ih]

end Run

/-! ## Runs as data -/

/-- A request as data; rules that are not given are left out. -/
def Request.record (r : Request) : Value :=
  .object ([("sourceFile", .str r.sourceFile)] ++ r.rulesFile.toList.map (fun f => ("rulesFile", .str f)) ++
    [("engineTimeoutSeconds", .num r.engineTimeoutSeconds)])

/-- A run as data. -/
def Run.record (run : Run) : RunRecord :=
  [("id", .str run.id), ("request", run.request.record), ("phase", .str run.phase.name),
   ("startedAt", .num run.startedAt), ("history", .list (run.history.map fun p => .str p.name)),
   ("workDir", .str run.workDir)]

/-- A refusal as data. -/
def InvalidTransition.record (e : InvalidTransition) : RunRecord.Refusal :=
  .transition (.str e.phase.name) (.str e.event)

theorem Phase.ofName?_name (p : Phase) : ofName? p.name = some p := by
  cases p <;> rfl

theorem Event.ofName?_name (e : Event) : ofName? e.name = some e := by
  cases e <;> rfl

/-- No event has the name of a member that every record has. -/
theorem Event.name_uncommon (e : Event) : e.name ≠ Member.parentName ∧ Member.common.lookup e.name = none := by
  cases e <;> exact ⟨by decide, rfl⟩

/-- **The table asked by name** answers as the table does. -/
theorem Transition.look_name (p : Phase) (e : Event) :
    look (.str p.name) (.str e.name) =
      some ⟨(p.next? e).isSome, (p.next? e).map fun q => .plain (.str q.name)⟩ := by
  have hrow : Member.ofTable? p.name = some (.row p) := by rw [Member.ofTable?, Phase.ofName?_name]
  have hphase : (Value.str p.name).text?.bind Member.ofTable? = some (.row p) := hrow
  have hevent : (Value.str e.name).text? = some e.name := rfl
  rw [look, hphase, hevent]
  dsimp only
  rw [Member.read, Event.ofName?_name, Option.bind_some]
  cases p.next? e with
  | some q => rfl
  | none =>
    dsimp only
    rw [if_neg e.name_uncommon.1, e.name_uncommon.2]
    rfl

namespace RunRecord

/-- The record of a run after an event, unchanged if the event is refused. -/
def offer (run : RunRecord) (event : Value) : RunRecord :=
  match run.advance event with
  | .ok next => next
  | .error _ => run

/-- **One event** makes of the data of a run what it makes of the run. -/
theorem advance_record (run : Run) (event : Event) :
    RunRecord.advance run.record (.str event.name) =
      ((run.advance event).map Run.record).mapError InvalidTransition.record := by
  have hphase : Value.field "phase" run.record = .str run.phase.name := rfl
  have hhistory : Value.field "history" run.record = .list (run.history.map fun p => .str p.name) := rfl
  unfold advance
  rw [hphase]
  dsimp only
  rw [Transition.look_name, hhistory]
  rcases run.advance_cases event with ⟨q, hnext, hadvance⟩ | ⟨hnext, hadvance⟩
  · rw [hnext, hadvance]
    simp [items?, Member.toValue, Run.record, Value.setField, Except.map, Except.mapError]
  · rw [hnext, hadvance]
    rfl

theorem offer_record (run : Run) (event : Event) :
    RunRecord.offer run.record (.str event.name) = (run.offer event).record := by
  rw [offer, advance_record]
  rcases run.advance_cases event with ⟨q, -, hadvance⟩ | ⟨-, hadvance⟩
  · rw [run.offer_of_ok hadvance, hadvance]
    rfl
  · rw [run.offer_of_error hadvance, hadvance]
    rfl

/-- A whole sequence of events. -/
theorem replay_record (run : Run) (events : List Event) :
    (events.map fun e => Value.str e.name).foldl RunRecord.offer run.record = (run.replay events).record := by
  induction events generalizing run with
  | nil => rfl
  | cons event events ih => rw [List.map_cons, List.foldl_cons, offer_record, ih, Run.replay_cons]

end RunRecord

/-! ## The whole sequence -/

/-- **Any sequence of events.** When events come to a fresh run, whatever they are and however many of them are refused:
    * the history begins with `init`, ends with the phase of the run, goes along edges of the table and has no phase
      twice;
    * at most seven events are accepted, one for each phase after the first;
    * a classification in the history comes after all four stages, in their order and with nothing else before it;
    * an end in the history comes directly after the report, and it is the last phase;
    * a refusal carries the phase of the run and the event and leaves the run as it was; once the run is done, every
      event that may still come is refused so;
    * the identity, the request, the start and the work directory of the run stay;
    * the accepted events alone, of which none is refused then, lead to the same run, so sequences that differ in
      refused events only lead to the same run;
    * the data of the run goes along with it. -/
theorem Run.replay_traced (id : String) (request : Request) (startedAt : Number) (workDir : String)
    (events : List Event) :
    let first := Run.fresh id request startedAt workDir
    let run := first.replay events
    (run.history.head? = some .init ∧ run.history.getLast? = some run.phase ∧ run.history.IsChain Phase.Leads ∧
      run.history.Nodup) ∧
    (run.history.length = (first.accepted events).length + 1 ∧ (first.accepted events).length ≤ 7) ∧
    (∀ pre post, run.history = pre ++ .classify :: post → pre = [.init, .frontend, .translate, .native, .engine]) ∧
    (∀ pre post, run.history = pre ++ .done :: post → pre.getLast? = some .report ∧ post = []) ∧
    (∀ event refusal, run.advance event = .error refusal →
      refusal = ⟨run.phase, event.name⟩ ∧ first.replay (events ++ [event]) = run) ∧
    (.done ∈ run.history → ∀ further event, first.replay (events ++ further) = run ∧ run.phase = .done ∧
      run.advance event = .error ⟨.done, event.name⟩) ∧
    (run.id = id ∧ run.request = request ∧ run.startedAt = startedAt ∧ run.workDir = workDir) ∧
    ((first.accepted events).Sublist events ∧ (first.accepted events).foldlM Run.advance first = .ok run ∧
      ∀ others, first.accepted others = first.accepted events → first.replay others = run) ∧
    (events.map fun e => Value.str e.name).foldl RunRecord.offer first.record = run.record := by
  intro first run
  have htraced : Traced first run (first.accepted events) := (traced_fresh id request startedAt workDir).replay events
  have hroute := htraced.route
  refine ⟨⟨hroute.head?, hroute.getLast?, hroute.isChain, hroute.nodup⟩,
    ⟨hroute.length_eq, Nat.le_trans hroute.length_le_rank (Phase.rank_le _)⟩, ?_, ?_, ?_, ?_, ?_,
    ⟨first.accepted_sublist events, first.foldlM_accepted events, ?_⟩, RunRecord.replay_record first events⟩
  · intro pre post hhistory
    exact (hhistory ▸ hroute).before_classify
  · intro pre post hhistory
    exact (hhistory ▸ hroute).around_done
  · intro event refusal hrefused
    rcases run.advance_cases event with ⟨q, -, hadvance⟩ | ⟨-, hadvance⟩
    · exact absurd (hadvance.symm.trans hrefused) (by simp)
    · refine ⟨(Except.error.inj (hadvance.symm.trans hrefused)).symm, ?_⟩
      rw [replay_append]
      exact offer_of_error hadvance
  · intro hdone further event
    -- nothing comes after the end, so it is where the run stands
    have hphase : run.phase = .done := by
      obtain ⟨pre, post, hhistory⟩ := List.append_of_mem hdone
      obtain rfl := (hhistory ▸ hroute).around_done.2
      have hlast := hroute.getLast?
      rw [hhistory, List.getLast?_concat] at hlast
      exact (Option.some.inj hlast).symm
    refine ⟨?_, hphase, advance_of_done hphase event⟩
    rw [replay_append]
    exact replay_of_done hphase further
  · rw [htraced.same]
    exact ⟨rfl, rfl, rfl, rfl⟩
  · intro others hothers
    have hsame := first.foldlM_accepted others
    rw [hothers, first.foldlM_accepted events] at hsame
    exact (Except.ok.inj hsame).symm

/-- Events of which more are refused than accepted. -/
def Run.unruly : List Event :=
  [.reported, .started, .started, .engineFinished, .stageFailed, .classified, .reported, .started]

/-- They still bring a run to its end, past a stage that failed, and it takes no event after that. -/
theorem Run.unruly_done :
    ((Run.fresh "run" ⟨"router.p4", none, 300⟩ 0 "/w").replay unruly).history = [.init, .frontend, .report, .done] ∧
    ∀ event, ((Run.fresh "run" ⟨"router.p4", none, 300⟩ 0 "/w").replay unruly).advance event =
      .error ⟨.done, event.name⟩ := by
  obtain ⟨-, -, -, -, -, hdone, -⟩ := replay_traced "run" ⟨"router.p4", none, 300⟩ 0 "/w" unruly
  exact ⟨rfl, fun event => (hdone (by decide) [] event).2.2⟩

end DataplaneVerdict
