import DataplaneVerdict.Shell.State

/-!
# `Shell.Jobs` — the processes of a shell

A shell starts processes, keeps them in jobs and waits for them. Of a process that a signal has ended it tells, unless
the signal is a usual end.
-/

namespace DataplaneVerdict.Shell

open Host

/-- How a process is started. -/
inductive StartMode where
  | foreground
  | background
  | apart
deriving DecidableEq

namespace Jobs

def signalName (n : Nat) : String :=
  if n = 0 then "EXIT" else if n = 16 then "16" else if n = 29 then "IO" else (Signal.mk n).name

/-- A signal by its number or its name. -/
def signalNumber? (word : String) : Option Nat :=
  let upper := String.ofList (word.toList.map Char.toUpper)
  match word.toNat? with
  | some n => if n ≤ Signal.greatest && word.toList.all Char.isDigit then some n else none
  | none => (List.range (Signal.greatest + 1)).find? fun n => signalName n = upper

/-- What is said about a process that a signal has ended. -/
def notice (e : Ending) : Option String :=
  match e with
  | .exited _ => none
  | .killed s => if s = .int || s = .pipe then none else some (s.description ++ "\n")

/-- Takes note of signals that have come. -/
def collect : Sh Unit := do
  let signals ← Sh.ask .caught
  if !signals.isEmpty then
    let add (ps : List Nat) (g : Signal) : List Nat := if ps.contains g.number then ps else ps ++ [g.number]
    modify fun s => { s with pending := signals.foldl add s.pending }

/-- Takes note of a process that has ended. -/
def noteEnd (awaited : Option Nat) (pid : Nat) (e : Ending) : Sh Unit := do
  let s ← get
  let owns (j : Job) : Bool := j.processes.any fun p => p.pid = pid && p.ending.isNone
  let job := s.jobs.find? owns
  let ended (j : Job) : Job :=
    { j with processes := j.processes.map fun p => if p.pid = pid then { p with ending := some e } else p }
  set { s with jobs := s.jobs.map fun j => if owns j then ended j else j }
  match job, awaited with
  | some j, some n =>
    if j.number = n then
      match notice e with
      | some text => Sh.put 2 text
      | none => pure ()
  | _, _ => pure ()

inductive Reaped where
  | one
  | none
  | interrupted
deriving DecidableEq

/-- Waits for one process. -/
def reap (awaited : Option Nat) (block : Bool) : Sh Reaped := do
  match ← Sh.ask (.await none block none) with
  | .ended pid e => do
    noteEnd awaited pid e
    pure .one
  | .interrupted => do
    collect
    pure .interrupted
  | .pending => pure .none
  | .noChild => pure .none

def job? (number : Nat) : Sh (Option Job) := do
  return (← get).jobs.find? fun j => j.number = number

def forget (number : Nat) : Sh Unit :=
  modify fun s => { s with jobs := s.jobs.filter fun j => j.number ≠ number }

def waitUntilDone (number : Nat) : Nat → Sh Unit
  | 0 => pure ()
  | fuel + 1 => do
    match ← job? number with
    | none => pure ()
    | some j =>
      if j.isDone then pure ()
      else
        match ← reap (some number) true with
        | .none => pure ()
        | _ => waitUntilDone number fuel

/-- Waits for a job and forgets it; its status. -/
def waitFor (number : Nat) : Sh Nat := do
  waitUntilDone number Act.fuel
  let status := match ← job? number with
    | some j => j.ending.status
    | none => 0
  forget number
  pure status

/-- A job with the least number that is free. -/
def newJob : Sh Nat := do
  let s ← get
  let isTaken (n : Nat) : Bool := s.jobs.any fun j => j.number = n && !(j.isDone && j.isTold)
  let number := ((List.range (s.jobs.length + 1)).find? fun n => !isTaken (n + 1)).getD 0 + 1
  set { s with jobs := (s.jobs.filter fun (j : Job) => j.number ≠ number) ++ [Job.mk number [] false] }
  pure number

/-- What a process of a shell does first: what was set for signals is for the shell only. -/
def becomeChild (mode : StartMode) (isFirst : Bool) : Sh Unit := do
  let s ← get
  for (n, action) in s.traps do
    if !action.isEmpty && n ≠ 0 then
      Sh.ask (.dispose ⟨n⟩ (if s.ignoredAtStart.contains n then .ignored else .standard))
  set { s with
    depth := s.depth + 1, jobs := [], pending := []
    traps := s.traps.filter fun t => t.2.isEmpty }
  if mode = .background then do
    for g in [Signal.int, Signal.quit] do
      Sh.ask (.dispose g .ignored)
    if isFirst then do
      Act.close 0 |> Sh.act
      let _ ← Sh.ask (.open "/dev/null" .forReading 0)

/-- Starts a process, in a job or without one. -/
def start (finish : Sh Unit → State → Act Nat) (job : Option Nat) (mode : StartMode) (child : Sh Unit) : Sh Nat := do
  let s ← get
  let isFirst := match job with
    | some n => ((s.jobs.find? fun j => j.number = n).map fun j => j.processes.isEmpty).getD true
    | none => true
  let behaviour := Act.behaviour (finish (do becomeChild mode isFirst; child) s)
  let pid ← Sh.act (Act.fork behaviour)
  modify fun s =>
    let s := if mode = .background then { s with lastBackground := some pid } else s
    match job with
    | some n =>
      { s with jobs := s.jobs.map fun j =>
          if j.number = n then { j with processes := j.processes ++ [⟨pid, none⟩] } else j }
    | none => s
  pure pid

end Jobs

end DataplaneVerdict.Shell
