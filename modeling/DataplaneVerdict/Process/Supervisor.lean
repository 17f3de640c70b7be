import DataplaneVerdict.Run.Executor

/-!
# `Process.Supervisor` — watching one process

A started process reports events: chunks of its two output streams, its end, or the news that it could not be started
after all. A timer and an abort signal may go off in between, and then the process is killed. The supervisor has one
handler for each kind of event. The first end settles the reply, clears the timer and stops listening to the signal; the
handlers of the streams stay.

## Contents
- **Events.** `ProcessEvent`.
- **Supervision.** `Supervision.step` takes one event, `Supervision.ofEvents` all of them.
- **Executor.** `ProcessHost` starts processes; `ProcessHost.executor` supervises them.
-/

namespace DataplaneVerdict

/-- What a supervisor can be told. -/
inductive ProcessEvent where
  | stdout (chunk : Bytes)
  | stderr (chunk : Bytes)
  /-- the time budget has run out -/
  | timer
  /-- the run has been interrupted -/
  | abort
  /-- the process could not be started -/
  | error (reason : String) (code : Option String)
  /-- the process has ended and its streams are closed -/
  | close (code : Option Number) (signal : Option String)

/-- What a supervisor knows. The chunks of a stream are listed with the newest first. -/
structure Supervision where
  /-- the number of the process; one that could not be started has none -/
  pid : Option Nat
  stdout : List Bytes := []
  stderr : List Bytes := []
  timedOut : Bool := false
  aborted : Bool := false
  /-- whether the timer can still go off -/
  timerSet : Bool := true
  /-- whether the abort signal is still listened to -/
  listening : Bool := true
  /-- the processes killed so far, each with its descendants -/
  kills : List Nat := []
  settled : Option Reply := none

namespace Supervision

def bytes (chunks : List Bytes) : Bytes := chunks.reverse.flatten

/-- The status that an end has. An abort outranks a timeout, and both outrank the exit code. -/
def status (s : Supervision) (code : Option Number) : StageStatus :=
  if s.aborted then .aborted
  else if s.timedOut then .timedOut
  else if code = some 0 then .success
  else .failed

def result (s : Supervision) (code : Option Number) (signal : Option String) : StageResult :=
  let stdout := Utf8.decode (bytes s.stdout)
  let stderr := Utf8.decode (bytes s.stderr)
  ⟨s.status code, code, signal, stdout, stderr, stdout ++ stderr⟩

/-- Kills the process, if it has a number to be killed by. -/
def kill (s : Supervision) : Supervision := { s with kills := s.kills ++ s.pid.toList }

/-- The timer goes off once, and not at all after it was cleared. -/
def onTimer (s : Supervision) : Supervision :=
  if s.timerSet then kill { s with timerSet := false, timedOut := true } else s

/-- The abort signal is heard once, and not at all after the listener was removed. -/
def onAbort (s : Supervision) : Supervision :=
  if s.listening then kill { s with listening := false, aborted := true } else s

def cleanup (s : Supervision) : Supervision := { s with timerSet := false, listening := false }

/-- An end; only the first one settles. -/
def onEnd (s : Supervision) (reply : Reply) : Supervision :=
  match s.settled with
  | some _ => s
  | none => cleanup { s with settled := some reply }

def step (command : String) (s : Supervision) : ProcessEvent → Supervision
  | .stdout chunk => { s with stdout := chunk :: s.stdout }
  | .stderr chunk => { s with stderr := chunk :: s.stderr }
  | .timer => s.onTimer
  | .abort => s.onAbort
  | .error reason code => s.onEnd (.error (.spawn command reason code))
  | .close code signal => s.onEnd (.ok (s.result code signal))

/-- What is known of a process after some events. -/
def ofEvents (command : String) (pid : Option Nat) (events : List ProcessEvent) : Supervision :=
  events.foldl (step command) ⟨pid, [], [], false, false, true, true, [], none⟩

end Supervision

/-! ## Executor -/

inductive Finish where
  | error (reason : String) (code : Option String)
  | close (code : Option Number) (signal : Option String)

def Finish.event : Finish → ProcessEvent
  | .error reason code => .error reason code
  | .close code signal => .close code signal

namespace Supervision

variable {command : String} {s : Supervision}

@[simp] theorem settled_onTimer : s.onTimer.settled = s.settled := by
  unfold onTimer
  split <;> rfl

@[simp] theorem settled_onAbort : s.onAbort.settled = s.settled := by
  unfold onAbort
  split <;> rfl

theorem isSome_settled_onEnd (s : Supervision) (reply : Reply) : (s.onEnd reply).settled.isSome := by
  unfold onEnd
  split <;> simp_all [cleanup]

/-- What was settled once stays settled. -/
theorem isSome_settled_step (h : s.settled.isSome) (e : ProcessEvent) : (step command s e).settled.isSome := by
  cases e with
  | stdout chunk | stderr chunk => exact h
  | timer => simpa [step] using h
  | abort => simpa [step] using h
  | error reason code => exact isSome_settled_onEnd s _
  | close code signal => exact isSome_settled_onEnd s _

theorem isSome_settled_foldl (h : s.settled.isSome) (events : List ProcessEvent) :
    (events.foldl (step command) s).settled.isSome := by
  induction events generalizing s with
  | nil => exact h
  | cons e events ih => exact ih (isSome_settled_step h e)

/-- A process with an end is settled. -/
theorem isSome_settled_finish (command : String) (pid : Option Nat) (before : List ProcessEvent) (finish : Finish)
    (later : List ProcessEvent) : (ofEvents command pid (before ++ finish.event :: later)).settled.isSome := by
  rw [ofEvents, List.foldl_append, List.foldl_cons]
  refine isSome_settled_foldl ?_ later
  cases finish <;> exact isSome_settled_onEnd _ _

end Supervision

/-- The answer to an attempt to start a process. -/
inductive Launch where
  | refused (f : Failure)
  /-- the number of the process, what happens until it ends, how it ends, and what happens until the next attempt -/
  | started (pid : Option Nat) (before : List ProcessEvent) (finish : Finish) (later : List ProcessEvent)

namespace Launch

/-- Everything that happens, in order. -/
def events : Launch → List ProcessEvent
  | refused _ => []
  | started _ before finish later => before ++ finish.event :: later

/-- The reply of a launch: of a process, the one it is settled with. -/
def reply (command : String) : Launch → Reply
  | refused f => .error f
  | started pid before finish later =>
    (Supervision.ofEvents command pid (before ++ finish.event :: later)).settled.get
      (Supervision.isSome_settled_finish command pid before finish later)

/-- Whether an event raises the abort signal. -/
def isAbort : ProcessEvent → Bool
  | .abort => true
  | _ => false

/-- Whether the abort signal is raised on the way. -/
def raisesAbort (l : Launch) : Bool := l.events.any isAbort

end Launch

/-- Anything able to start processes, with a memory of type `σ`. -/
structure ProcessHost (σ : Type) where
  launch : Command → World → σ → Launch × World × σ

/-- The memory of a host together with the abort signal. -/
structure Signalled (σ : Type) where
  raised : Bool
  host : σ

namespace ProcessHost

variable {σ : Type}

/-- The longest budget that a timer can hold, in seconds. -/
def mostSeconds : Nat := 2147483647 / 1000

/-- Whether a timer can hold a budget. -/
def isBudget (seconds : Number) : Bool := Number.lt 0 seconds && Number.le seconds (Number.ofNat mostSeconds)

/-- The result of a call after the abort signal. -/
def abortedResult : StageResult := ⟨.aborted, none, none, "", "", ""⟩

def readClock (w : World) : World := { w with readings := w.readings + 1 }

/-- The reply of a launch. A result costs one more reading of the clock. -/
def settle (command : String) (launch : Launch) (w : World) : Reply × World :=
  match launch.reply command with
  | .ok r => (.ok r, readClock w)
  | .error f => (.error f, w)

theorem settle_fst (command : String) (launch : Launch) (w : World) :
    (settle command launch w).1 = launch.reply command := by
  unfold settle
  split <;> simp_all

/-- Runs one command: the budget is checked first, then the signal, and only then is a process started. -/
def call (host : ProcessHost σ) (c : Command) (w : World) (m : Signalled σ) : Reply × World × Signalled σ :=
  let w := readClock w
  if !isBudget c.timeoutSeconds then (.error (.budget c.command c.timeoutSeconds mostSeconds), w, m)
  else if m.raised then (.ok abortedResult, w, m)
  else
    let (launch, w, memory) := host.launch c w m.host
    let (reply, w) := settle c.command launch w
    (reply, w, ⟨m.raised || launch.raisesAbort, memory⟩)

def executor (host : ProcessHost σ) : Executor (Signalled σ) := ⟨host.call⟩

end ProcessHost

end DataplaneVerdict
