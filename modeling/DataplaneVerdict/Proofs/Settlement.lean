import DataplaneVerdict.Process.Supervisor

/-!
# `Proofs.Settlement` — a supervised process is settled once

The events of a process come in any order and its streams in any pieces. What a supervisor makes of them is said here
without the supervisor: `Closed` lists what the result of a closed process has to be, in terms of the events before the
close alone. The supervisor's state enters only through two invariants. `Watched` says what it knows of a process that
goes on, `Over` that an end has settled the reply and disarmed the timer and the listener; one event carries each of
them on, and so do all of them.

## Contents
- **Events.** Ends, and what an event adds to a stream.
- **While the process runs.** `Watched`, event by event.
- **The end.** `Closed`; `Over`, event by event.
- **Kills.** `Fires`: the events that kill.
- **Pieces.** `SameStory`: two sequences that differ only in how the streams are cut and woven.
-/

namespace DataplaneVerdict

/-! ## Events -/

namespace ProcessEvent

/-- The events that end a process. -/
def IsEnd : ProcessEvent → Prop
  | error _ _ | close _ _ => True
  | _ => False

/-- What an event adds to the output stream. -/
def onStdout : ProcessEvent → Bytes
  | stdout chunk => chunk
  | _ => []

/-- What an event adds to the error stream. -/
def onStderr : ProcessEvent → Bytes
  | stderr chunk => chunk
  | _ => []

end ProcessEvent

open ProcessEvent

/-- No event has ended the process. -/
def Running (events : List ProcessEvent) : Prop := ∀ e ∈ events, ¬ e.IsEnd

theorem running_nil : Running [] := fun _ he => absurd he List.not_mem_nil

namespace Supervision

variable {command : String} {pid : Option Nat} {events before : List ProcessEvent} {s : Supervision}

/-! ## While the process runs -/

theorem bytes_cons (chunk : Bytes) (chunks : List Bytes) : bytes (chunk :: chunks) = bytes chunks ++ chunk := by
  simp [bytes]

/-- What a supervisor knows of a process that has not ended. -/
structure Watched (pid : Option Nat) (events : List ProcessEvent) (s : Supervision) : Prop where
  pid : s.pid = pid
  stdout : bytes s.stdout = events.flatMap onStdout
  stderr : bytes s.stderr = events.flatMap onStderr
  timedOut : s.timedOut = true ↔ ProcessEvent.timer ∈ events
  aborted : s.aborted = true ↔ ProcessEvent.abort ∈ events
  timerSet : s.timerSet = true ↔ ProcessEvent.timer ∉ events
  listening : s.listening = true ↔ ProcessEvent.abort ∉ events
  settled : s.settled = none

theorem Watched.onTimer (h : Watched pid events s) : Watched pid (events ++ [.timer]) s.onTimer := by
  obtain ⟨hpid, hout, herr, htimer, habort, hset, hlistening, hopen⟩ := h
  unfold Supervision.onTimer
  split
  · exact ⟨hpid, by simp [kill, hout, onStdout], by simp [kill, herr, onStderr], by simp [kill], by simp [kill, habort],
      by simp [kill], by simp [kill, hlistening], hopen⟩
  · -- the timer has gone off before
    have hgone : ProcessEvent.timer ∈ events := by grind
    exact ⟨hpid, by simp [hout, onStdout], by simp [herr, onStderr], by simp [htimer, hgone], by simp [habort],
      by simp [hset, hgone], by simp [hlistening], hopen⟩

theorem Watched.onAbort (h : Watched pid events s) : Watched pid (events ++ [.abort]) s.onAbort := by
  obtain ⟨hpid, hout, herr, htimer, habort, hset, hlistening, hopen⟩ := h
  unfold Supervision.onAbort
  split
  · exact ⟨hpid, by simp [kill, hout, onStdout], by simp [kill, herr, onStderr], by simp [kill, htimer], by simp [kill],
      by simp [kill, hset], by simp [kill], hopen⟩
  · -- the signal has been heard before
    have hgone : ProcessEvent.abort ∈ events := by grind
    exact ⟨hpid, by simp [hout, onStdout], by simp [herr, onStderr], by simp [htimer], by simp [habort, hgone],
      by simp [hset], by simp [hlistening, hgone], hopen⟩

/-- **One event** of a process that goes on. -/
theorem Watched.step (h : Watched pid events s) {e : ProcessEvent} (he : ¬ e.IsEnd) :
    Watched pid (events ++ [e]) (step command s e) := by
  cases e with
  | stdout chunk => exact ⟨h.pid, by simp [Supervision.step, bytes_cons, h.stdout, onStdout],
      by simp [Supervision.step, h.stderr, onStderr], by simp [Supervision.step, h.timedOut],
      by simp [Supervision.step, h.aborted], by simp [Supervision.step, h.timerSet],
      by simp [Supervision.step, h.listening], h.settled⟩
  | stderr chunk => exact ⟨h.pid, by simp [Supervision.step, h.stdout, onStdout],
      by simp [Supervision.step, bytes_cons, h.stderr, onStderr], by simp [Supervision.step, h.timedOut],
      by simp [Supervision.step, h.aborted], by simp [Supervision.step, h.timerSet],
      by simp [Supervision.step, h.listening], h.settled⟩
  | timer => exact h.onTimer
  | abort => exact h.onAbort
  | error reason code => exact absurd trivial he
  | close code signal => exact absurd trivial he

theorem ofEvents_append (first rest : List ProcessEvent) :
    ofEvents command pid (first ++ rest) = rest.foldl (Supervision.step command) (ofEvents command pid first) := by
  rw [ofEvents, List.foldl_append, ← ofEvents]

theorem ofEvents_append_singleton (first : List ProcessEvent) (e : ProcessEvent) :
    ofEvents command pid (first ++ [e]) = Supervision.step command (ofEvents command pid first) e :=
  ofEvents_append first [e]

/-- **All events** of a process that goes on: the supervisor has seen some, and the others come. -/
theorem Watched.foldl (h : Watched pid before s) (hevents : Running events) :
    Watched pid (before ++ events) (events.foldl (Supervision.step command) s) := by
  induction events generalizing before s with
  | nil => rwa [List.append_nil]
  | cons e events ih =>
    obtain ⟨he, hrest⟩ := List.forall_mem_cons.mp hevents
    rw [List.append_cons, List.foldl_cons]
    exact ih (h.step he) hrest

theorem watched_ofEvents (h : Running events) : Watched pid events (ofEvents command pid events) := by
  have hnone : Watched pid [] (ofEvents command pid []) := ⟨rfl, rfl, rfl, by simp [ofEvents], by simp [ofEvents],
    by simp [ofEvents], by simp [ofEvents], rfl⟩
  exact hnone.foldl h

/-! ## The end -/

/-- What a supervisor knows of a process that has ended: the reply, and nothing is left that could go off. -/
structure Over (reply : Reply) (s : Supervision) : Prop where
  settled : s.settled = some reply
  timerSet : s.timerSet = false
  listening : s.listening = false

theorem over_onEnd (h : s.settled = none) (reply : Reply) : Over reply (s.onEnd reply) := by
  unfold onEnd
  rw [h]
  exact ⟨rfl, rfl, rfl⟩

/-- **One event after the end** leaves the reply and kills nothing. -/
theorem Over.step {reply : Reply} (h : Over reply s) (e : ProcessEvent) :
    Over reply (step command s e) ∧ (Supervision.step command s e).kills = s.kills := by
  have honEnd : ∀ other, s.onEnd other = s := by
    intro other
    rw [onEnd, h.settled]
  have honTimer : s.onTimer = s := if_neg (by rw [h.timerSet]; decide)
  have honAbort : s.onAbort = s := if_neg (by rw [h.listening]; decide)
  cases e with
  | stdout chunk | stderr chunk => exact ⟨⟨h.settled, h.timerSet, h.listening⟩, rfl⟩
  | timer => simpa only [Supervision.step, honTimer, and_true] using h
  | abort => simpa only [Supervision.step, honAbort, and_true] using h
  | error reason code => simpa only [Supervision.step, honEnd, and_true] using h
  | close code signal => simpa only [Supervision.step, honEnd, and_true] using h

/-- **All events after the end** leave the reply and kill nothing. -/
theorem Over.foldl {reply : Reply} (h : Over reply s) (after : List ProcessEvent) :
    Over reply (after.foldl (Supervision.step command) s) ∧
      (after.foldl (Supervision.step command) s).kills = s.kills := by
  induction after generalizing s with
  | nil => exact ⟨h, rfl⟩
  | cons e after ih =>
    obtain ⟨hstep, hkills⟩ := h.step e
    obtain ⟨hover, hrest⟩ := ih hstep
    exact ⟨hover, hrest.trans hkills⟩

/-- Of the events of an ended process, the first end stands out. -/
theorem exists_first_end (h : ¬ Running events) :
    ∃ before e after, events = before ++ e :: after ∧ Running before ∧ e.IsEnd := by
  induction events with
  | nil => exact absurd running_nil h
  | cons x events ih =>
    by_cases hx : x.IsEnd
    · exact ⟨[], x, events, rfl, running_nil, hx⟩
    · have hrest : ¬ Running events := by
        intro hrest
        exact h (List.forall_mem_cons.mpr ⟨hx, hrest⟩)
      obtain ⟨before, e, after, rfl, hbefore, he⟩ := ih hrest
      exact ⟨x :: before, e, after, rfl, List.forall_mem_cons.mpr ⟨hx, hbefore⟩, he⟩

/-- The result that a close has to give, in terms of what came before it. -/
structure Closed (before : List ProcessEvent) (code : Option Number) (signal : Option String) (r : StageResult) :
    Prop where
  aborted : r.status = .aborted ↔ ProcessEvent.abort ∈ before
  timedOut : r.status = .timedOut ↔ ProcessEvent.abort ∉ before ∧ ProcessEvent.timer ∈ before
  success : r.status = .success ↔ ProcessEvent.abort ∉ before ∧ ProcessEvent.timer ∉ before ∧ code = some 0
  failed : r.status = .failed ↔ ProcessEvent.abort ∉ before ∧ ProcessEvent.timer ∉ before ∧ code ≠ some 0
  exitCode : r.exitCode = code
  exitSignal : r.exitSignal = signal
  stdout : r.stdout = Utf8.decode (before.flatMap onStdout)
  stderr : r.stderr = Utf8.decode (before.flatMap onStderr)
  output : r.output = r.stdout ++ r.stderr

/-- What a supervisor knows decides the status. -/
theorem Watched.closed (h : Watched pid before s) (code : Option Number) (signal : Option String) :
    Closed before code signal (s.result code signal) := by
  have hstatus : (s.result code signal).status = s.status code := rfl
  refine ⟨?_, ?_, ?_, ?_, rfl, rfl, congrArg Utf8.decode h.stdout, congrArg Utf8.decode h.stderr, rfl⟩
  all_goals
    rw [hstatus, status]
    simp only [← h.aborted, ← h.timedOut]
    cases s.aborted <;> cases s.timedOut <;> by_cases hcode : code = some 0 <;> simp [hcode]

/-- **The first end** settles the process for good. -/
theorem over_ofEvents (h : Running before) {e : ProcessEvent} {reply : Reply}
    (he : step command (ofEvents command pid before) e = (ofEvents command pid before).onEnd reply)
    (after : List ProcessEvent) : Over reply (ofEvents command pid (before ++ e :: after)) := by
  have hopen : (ofEvents command pid before).settled = none := (watched_ofEvents h).settled
  have hend : Over reply (ofEvents command pid (before ++ [e])) := by
    rw [ofEvents_append_singleton, he]
    exact over_onEnd hopen reply
  rw [List.append_cons, ofEvents_append]
  exact (hend.foldl after).1

theorem settled_close (command : String) (pid : Option Nat) (h : Running before) (code : Option Number)
    (signal : Option String) (after : List ProcessEvent) :
    ∃ r, (ofEvents command pid (before ++ .close code signal :: after)).settled = some (.ok r) ∧
      Closed before code signal r :=
  ⟨(ofEvents command pid before).result code signal, (over_ofEvents h rfl after).settled,
    (watched_ofEvents h).closed code signal⟩

theorem settled_error (command : String) (pid : Option Nat) (h : Running before) (reason : String)
    (code : Option String) (after : List ProcessEvent) :
    (ofEvents command pid (before ++ .error reason code :: after)).settled =
      some (.error (.spawn command reason code)) :=
  (over_ofEvents h rfl after).settled

/-- An ended process is over. -/
theorem exists_over (h : ¬ Running events) : ∃ reply, Over reply (ofEvents command pid events) := by
  obtain ⟨before, e, after, rfl, hbefore, he⟩ := exists_first_end h
  cases e with
  | error reason code => exact ⟨_, over_ofEvents hbefore rfl after⟩
  | close code signal => exact ⟨_, over_ofEvents hbefore rfl after⟩
  | stdout chunk | stderr chunk | timer | abort => exact absurd he id

/-- **Nothing after the end** changes the reply or kills anything. -/
theorem ofEvents_of_ended (h : ¬ Running before) (after : List ProcessEvent) :
    (ofEvents command pid (before ++ after)).settled = (ofEvents command pid before).settled ∧
      (ofEvents command pid (before ++ after)).kills = (ofEvents command pid before).kills := by
  obtain ⟨reply, hover⟩ : ∃ reply, Over reply (ofEvents command pid before) := exists_over h
  obtain ⟨hafter, hkills⟩ := hover.foldl after
  rw [ofEvents_append]
  exact ⟨hafter.settled.trans hover.settled.symm, hkills⟩

/-- A process is unsettled exactly while it runs. -/
theorem settled_eq_none_iff : (ofEvents command pid events).settled = none ↔ Running events := by
  refine ⟨fun h => Classical.byContradiction fun hended => ?_, fun h => (watched_ofEvents h).settled⟩
  obtain ⟨reply, hover⟩ : ∃ reply, Over reply (ofEvents command pid events) := exists_over hended
  rw [hover.settled] at h
  cases h

/-- A result is always that of a close. -/
theorem closed_of_settled {r : StageResult} (h : (ofEvents command pid events).settled = some (.ok r)) :
    ∃ before code signal, Closed before code signal r := by
  have hended : ¬ Running events := by
    intro hrunning
    rw [settled_eq_none_iff.mpr hrunning] at h
    cases h
  obtain ⟨before, e, after, rfl, hbefore, he⟩ := exists_first_end hended
  cases e with
  | error reason code =>
    rw [settled_error command pid hbefore] at h
    cases h
  | close code signal =>
    obtain ⟨r', hr', hclosed⟩ := settled_close command pid hbefore code signal after
    rw [hr'] at h
    obtain rfl := Except.ok.inj (Option.some.inj h)
    exact ⟨before, code, signal, hclosed⟩
  | stdout chunk | stderr chunk | timer | abort => exact absurd he id

/-! ## Kills -/

/-- The timer or the abort signal goes off for the first time, and the process has not ended. -/
def Fires (first : List ProcessEvent) (e : ProcessEvent) : Prop :=
  Running first ∧ (e = .timer ∨ e = .abort) ∧ e ∉ first

theorem Watched.kills_onTimer (h : Watched pid events s) :
    (ProcessEvent.timer ∉ events → s.onTimer.kills = s.kills ++ pid.toList) ∧
    (ProcessEvent.timer ∈ events → s.onTimer.kills = s.kills) := by
  constructor
  · intro hfirst
    rw [Supervision.onTimer, if_pos (h.timerSet.mpr hfirst), kill, h.pid]
  · intro hgone
    rw [Supervision.onTimer, if_neg (fun hset => h.timerSet.mp hset hgone)]

theorem Watched.kills_onAbort (h : Watched pid events s) :
    (ProcessEvent.abort ∉ events → s.onAbort.kills = s.kills ++ pid.toList) ∧
    (ProcessEvent.abort ∈ events → s.onAbort.kills = s.kills) := by
  constructor
  · intro hfirst
    rw [Supervision.onAbort, if_pos (h.listening.mpr hfirst), kill, h.pid]
  · intro hgone
    rw [Supervision.onAbort, if_neg (fun hlistening => h.listening.mp hlistening hgone)]

/-- An event that fires kills the process, if it has a number; no other event kills anything. -/
theorem kills_append_singleton (first : List ProcessEvent) (e : ProcessEvent) :
    (Fires first e →
      (ofEvents command pid (first ++ [e])).kills = (ofEvents command pid first).kills ++ pid.toList) ∧
    (¬ Fires first e → (ofEvents command pid (first ++ [e])).kills = (ofEvents command pid first).kills) := by
  rw [ofEvents_append_singleton]
  by_cases hrunning : Running first
  · have hwatched : Watched pid first (ofEvents command pid first) := watched_ofEvents hrunning
    cases e with
    | stdout chunk | stderr chunk => simp [Fires, step]
    | timer => simpa [Fires, step, hrunning] using hwatched.kills_onTimer
    | abort => simpa [Fires, step, hrunning] using hwatched.kills_onAbort
    | error reason code | close code signal => simp [Fires, step, onEnd, hwatched.settled, cleanup]
  · obtain ⟨reply, hover⟩ : ∃ reply, Over reply (ofEvents command pid first) := exists_over hrunning
    exact ⟨fun h => absurd h.1 hrunning, fun _ => (hover.step e).2⟩

/-! ## Pieces -/

/-- The same bytes on each stream, however they are cut into pieces and woven together, and the same interruptions. -/
structure SameStory (events other : List ProcessEvent) : Prop where
  stdout : events.flatMap onStdout = other.flatMap onStdout
  stderr : events.flatMap onStderr = other.flatMap onStderr
  timer : ProcessEvent.timer ∈ events ↔ ProcessEvent.timer ∈ other
  abort : ProcessEvent.abort ∈ events ↔ ProcessEvent.abort ∈ other

theorem SameStory.closed {other : List ProcessEvent} (h : SameStory before other) {code : Option Number}
    {signal : Option String} {r : StageResult} (hr : Closed before code signal r) : Closed other code signal r := by
  obtain ⟨h₁, h₂, h₃, h₄, hcode, hsignal, hout, herr, houtput⟩ := hr
  rw [h.abort, h.timer] at h₂ h₃ h₄
  exact ⟨h₁.trans h.abort, h₂, h₃, h₄, hcode, hsignal, h.stdout ▸ hout, h.stderr ▸ herr, houtput⟩

/-- The events before a close leave no choice. -/
theorem Closed.unique {code : Option Number} {signal : Option String} {r r' : StageResult}
    (h : Closed before code signal r) (h' : Closed before code signal r') : r = r' := by
  have hstatus : r.status = r'.status := by
    by_cases habort : ProcessEvent.abort ∈ before
    · rw [h.aborted.mpr habort, h'.aborted.mpr habort]
    by_cases htimer : ProcessEvent.timer ∈ before
    · rw [h.timedOut.mpr ⟨habort, htimer⟩, h'.timedOut.mpr ⟨habort, htimer⟩]
    by_cases hcode : code = some 0
    · rw [h.success.mpr ⟨habort, htimer, hcode⟩, h'.success.mpr ⟨habort, htimer, hcode⟩]
    · rw [h.failed.mpr ⟨habort, htimer, hcode⟩, h'.failed.mpr ⟨habort, htimer, hcode⟩]
  have hout : r.stdout = r'.stdout := h.stdout.trans h'.stdout.symm
  have herr : r.stderr = r'.stderr := h.stderr.trans h'.stderr.symm
  have houtput : r.output = r'.output := by rw [h.output, h'.output, hout, herr]
  have hcode : r.exitCode = r'.exitCode := h.exitCode.trans h'.exitCode.symm
  have hsignal : r.exitSignal = r'.exitSignal := h.exitSignal.trans h'.exitSignal.symm
  cases r
  cases r'
  simp_all

theorem SameStory.settled {other : List ProcessEvent} (h : SameStory before other) (hbefore : Running before)
    (hother : Running other) {e : ProcessEvent} (he : e.IsEnd) (after after' : List ProcessEvent) :
    (ofEvents command pid (before ++ e :: after)).settled = (ofEvents command pid (other ++ e :: after')).settled := by
  cases e with
  | error reason code => rw [settled_error command pid hbefore, settled_error command pid hother]
  | close code signal =>
    obtain ⟨r, hr, hclosed⟩ := settled_close command pid hbefore code signal after
    obtain ⟨r', hr', hclosed'⟩ := settled_close command pid hother code signal after'
    rw [hr, hr', (h.closed hclosed).unique hclosed']
  | stdout chunk | stderr chunk | timer | abort => exact absurd he id

theorem not_running_finish (before later : List ProcessEvent) (finish : Finish) :
    ¬ Running (before ++ finish.event :: later) := by
  intro hrunning
  refine hrunning finish.event (by simp) ?_
  cases finish <;> trivial

/-- The reply to a process that was started is the one it was settled with. -/
theorem settled_finish (command : String) (pid : Option Nat) (before later : List ProcessEvent) (finish : Finish) :
    (ofEvents command pid (before ++ finish.event :: later)).settled =
      some ((Launch.started pid before finish later).reply command) :=
  (Option.some_get _).symm

/-- **A supervised process is settled once**, whatever events come and in whatever order. It is unsettled until the
first end; a close gives the result that `Closed` describes and an error the failure to start the command; nothing
after the end changes the reply or kills anything. A process with a number is killed each time an event fires, that
is, at most once by the timer and once by the abort signal, both before the end; no other event kills, and a process
without a number is never killed. How the streams were cut and woven makes no difference, and the reply of a call that
started the process is the one it was settled with. -/
theorem settled_once (command : String) (pid : Option Nat) (events : List ProcessEvent) :
    ((ofEvents command pid events).settled = none ↔ Running events) ∧
    (∀ before code signal after, events = before ++ .close code signal :: after → Running before →
      ∃ r, (ofEvents command pid events).settled = some (.ok r) ∧ Closed before code signal r) ∧
    (∀ before reason code after, events = before ++ .error reason code :: after → Running before →
      (ofEvents command pid events).settled = some (.error (.spawn command reason code))) ∧
    (∀ before after, events = before ++ after → ¬ Running before →
      (ofEvents command pid events).settled = (ofEvents command pid before).settled ∧
      (ofEvents command pid events).kills = (ofEvents command pid before).kills) ∧
    (∀ first e after, events = first ++ e :: after →
      (Fires first e →
        (ofEvents command pid (first ++ [e])).kills = (ofEvents command pid first).kills ++ pid.toList) ∧
      (¬ Fires first e → (ofEvents command pid (first ++ [e])).kills = (ofEvents command pid first).kills)) ∧
    (∀ before e after other after', events = before ++ e :: after → e.IsEnd → Running before → Running other →
      SameStory before other →
      (ofEvents command pid events).settled = (ofEvents command pid (other ++ e :: after')).settled) ∧
    (∀ before finish later w, events = before ++ Finish.event finish :: later →
      (ofEvents command pid events).settled =
        some (ProcessHost.settle command (.started pid before finish later) w).1) := by
  refine ⟨settled_eq_none_iff, ?_, ?_, ?_, ?_, ?_, ?_⟩
  · rintro before code signal after rfl hbefore
    exact settled_close command pid hbefore code signal after
  · rintro before reason code after rfl hbefore
    exact settled_error command pid hbefore reason code after
  · rintro before after rfl hended
    exact ofEvents_of_ended hended after
  · rintro first e after -
    exact kills_append_singleton first e
  · rintro before e after other after' rfl he hbefore hother hstory
    exact hstory.settled hbefore hother he after after'
  · rintro before finish later w rfl
    rw [ProcessHost.settle_fst]
    exact settled_finish command pid before later finish

/-- A character cut in two, a timeout overtaken by an abort that is repeated, and a close and an abort that come too
    late: the process is killed twice. -/
example :
    let s := ofEvents "klee" (some 7) [.stdout [0xE2, 0x82], .stderr [0x21], .timer, .stdout [0xAC], .abort, .abort,
      .close (some 0) none, .abort, .close (some 1) none]
    s.settled = some (.ok ⟨.aborted, some 0, none, "€", "!", "€!"⟩) ∧ s.kills = [7, 7] := ⟨rfl, rfl⟩

end Supervision

end DataplaneVerdict
