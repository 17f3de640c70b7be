import DataplaneVerdict.Shell.Builtin

/-!
# `Shell.Processes` — builtins on signals and jobs
-/

namespace DataplaneVerdict.Shell

open Host

namespace Processes

/-! ## Signals -/

/-- Tells the host what is to happen at a signal. -/
def arrange (signal : Nat) (action : Option String) : Sh Unit := do
  let s ← get
  if signal ≠ 0 && !s.ignoredAtStart.contains signal then
    Sh.ask (.dispose ⟨signal⟩ (match action with
      | none => .standard
      | some "" => .ignored
      | some _ => .caught))

/-- Sets what is done at a signal. -/
def setTrap (signal : Nat) (action : Option String) : Sh Unit := do
  modify fun s =>
    let others := s.traps.filter fun t => t.1 ≠ signal
    { s with traps := match action with
        | some a => others ++ [(signal, a)]
        | none => others }
  arrange signal action

/-- `trap`: what is done at signals. -/
def trap (args : List String) : Sh Nat := do
  let (_, args) ← Builtin.options "" args
  match args with
  | [] => do
    for (n, action) in (← get).traps.mergeSort fun a b => decide (a.1 ≤ b.1) do
      Sh.print ("trap -- " ++ Builtin.singleQuoted action ++ " " ++ Jobs.signalName n ++ "\n")
    pure 0
  | first :: rest =>
    let isNumber := !first.isEmpty && first.toList.all Char.isDigit && (Jobs.signalNumber? first).isSome
    let (action, signals) : Option String × List String :=
      if rest.isEmpty || isNumber then (none, first :: rest)
      else (if first = "-" then none else some first, rest)
    let rec go : List String → Sh Nat
      | [] => pure 0
      | name :: rest =>
        match Jobs.signalNumber? name with
        | none => do
          Sh.put 2 ("trap: " ++ name ++ ": bad trap\n")
          pure 1
        | some n => do
          setTrap n action
          go rest
    go signals

/-- Sends a signal to processes and groups. -/
def send (signal : Nat) : List String → Nat → Sh Nat
  | [], status => pure status
  | word :: rest, status => do
    let target : Int ← match word.toList with
      | '-' :: digits => do
        let n ← Builtin.number (String.ofList digits)
        pure (-n)
      | _ => Builtin.number word
    match ← Sh.ask (.kill target (if signal = 0 then none else some ⟨signal⟩)) with
    | .ok _ => send signal rest status
    | .error e => do
      Sh.warn (e.notice ++ "\n")
      send signal rest 1

def killUsage {α : Type} : Sh α :=
  Sh.error "Usage: kill [-s sigspec | -signum | -sigspec] [pid | job]... or\nkill -l [exitstatus]"

def sendable? (word : String) : Option Nat :=
  match Jobs.signalNumber? word with
  | some 0 => if word.toList.all Char.isDigit then some 0 else none
  | n => n

/-- `kill`: sends a signal. -/
def kill (args : List String) : Sh Nat := do
  match args with
  | [] => killUsage
  | first :: rest => do
    let plain (signal : Nat) (targets : List String) : Sh Nat :=
      if targets.isEmpty then killUsage else send signal targets 0
    match first.toList with
    | '-' :: cs =>
      match sendable? (String.ofList cs) with
      | some n => plain n rest
      | none => do
        let (options, targets) ← Builtin.options "s:" args
        let mut signal := Signal.term.number
        for (_, word) in options do
          match sendable? word with
          | some n => signal := n
          | none => Sh.error ("invalid signal number or name: " ++ word)
        plain signal targets
    | _ => plain Signal.term.number args

/-! ## Jobs -/

def interruptedStatus : Sh Nat := do
  return 128 + ((← get).pending.getLast?.getD 0)

def noteWaited (which : Job → Bool) : Sh Unit :=
  modify fun s => { s with jobs := s.jobs.map fun j => if which j then { j with isTold := true } else j }

def waitAll : Nat → Sh Nat
  | 0 => pure 0
  | fuel + 1 => do
    noteWaited Job.isDone
    if (← get).jobs.all Job.isDone then pure 0
    else
      match ← Jobs.reap none true with
      | .one => waitAll fuel
      | .none => pure 0
      | .interrupted => interruptedStatus

/-- Waits for a job; nothing if a signal comes first. -/
def waitJob (number : Nat) : Nat → Sh (Option Nat)
  | 0 => pure none
  | fuel + 1 => do
    match ← Jobs.job? number with
    | none => pure (some 127)
    | some j =>
      if j.isDone then do
        noteWaited fun j => j.number = number
        pure (some j.ending.status)
      else
        match ← Jobs.reap (some number) true with
        | .one => waitJob number fuel
        | .none => pure (some 127)
        | .interrupted => pure none

/-- Waits for given processes. -/
def waitNamed : List String → Nat → Sh Nat
  | [], status => pure status
  | word :: rest, status => do
    let pid ← Builtin.number word
    let isMeant (j : Job) : Bool := (j.processes.getLast?.map fun p => decide ((p.pid : Int) = pid)).getD false
    match (← get).jobs.reverse.find? isMeant with
    | none => waitNamed rest status
    | some j =>
      match ← waitJob j.number Act.fuel with
      | some status => waitNamed rest status
      | none => interruptedStatus

/-- `wait`: waits for processes. -/
def wait (args : List String) : Sh Nat := do
  let (_, args) ← Builtin.options "" args
  if args.isEmpty then waitAll Act.fuel else waitNamed args 127

end Processes

end DataplaneVerdict.Shell
