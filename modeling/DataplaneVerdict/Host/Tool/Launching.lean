import DataplaneVerdict.Host.Numeral
import DataplaneVerdict.Host.Tool.Amount

/-!
# `Host.Tool.Launching` — tools that run other programs, and those that wait
-/

namespace DataplaneVerdict.Host.Tool

/-! ## Durations -/

/-- A time span, or one without an end. -/
inductive Duration where
  | micros (n : Nat)
  | endless

namespace Duration

def ofText? (text : Octets) : Option Duration :=
  match Numeral.scan text.toList with
  | none => none
  | some s =>
    let unit : Option Nat := match s.rest with
      | [] => some 1
      | ['s'] => some 1
      | ['m'] => some 60
      | ['h'] => some 3600
      | ['d'] => some 86400
      | _ => none
    match unit with
    | none => none
    | some seconds =>
      if s.value.isNaN || (Numeral.isNegative s.value && s.value != 0) then none
      else
        match Numeral.exactValue? s.value with
        | none => some .endless
        | some v =>
          let (n, d) := v.fraction
          some (.micros ((n * seconds * 1000000 + d - 1) / d))

def add : Duration → Duration → Duration
  | micros a, micros b => micros (a + b)
  | _, _ => endless

end Duration

namespace Launching

/-- Sleeps up to a moment, whatever comes in between. -/
def sleepUntil (limit : Option Nat) : Nat → Tool Unit
  | 0 => pure ()
  | fuel + 1 => do
    if !(← ask (.sleep limit)) then sleepUntil limit fuel

/-- `sleep`: waits. -/
def sleep (_ : Runner) (words : List Octets) : Tool Unit := do
  if words.isEmpty then misuse 1 "missing operand"
  let a ← arguments 1 [] words
  let mut total : Duration := .micros 0
  let mut isGood := true
  for w in a.operands do
    match Duration.ofText? w with
    | some d => total := total.add d
    | none => do
      warn ("invalid time interval " ++ Quoted.plain w)
      isGood := false
  if !isGood then seeHelp 1
  let now ← ask .clock
  match total with
  | .micros n => sleepUntil (some (now + n)) Act.fuel
  | .endless => sleepUntil none Act.fuel

/-! ## Surroundings -/

/-- The exit code if a program cannot be run. -/
def failureCode (e : FileProblem) : Nat := if e = .missing then 127 else 126

/-- Starts a program in a process of its own. -/
def start (run : Runner) (before : Act Unit) (environment : List (Octets × Octets)) (words : List Octets) :
    Tool (Answer Nat) := do
  flush
  match ← act (Act.look fun d v => Image.search d v (environment.lookup "PATH") (words.head?.getD "") words) with
  | .error e => pure (.error e)
  | .ok image => do
    let child : Act Nat := do
      before
      let _ ← Exec.become run (.ok image) environment
      pure 126
    let pid ← act (Act.fork child.behaviour)
    pure (.ok pid)

/-- Waits until a process ends. -/
def awaitEnding (pid : Nat) : Nat → Tool Ending
  | 0 => pure (.exited 0)
  | fuel + 1 => do
    match ← ask (.await (some pid) true none) with
    | .ended _ e => pure e
    | .noChild => pure (.exited 0)
    | _ => awaitEnding pid fuel

def awaitChild (pid : Nat) (fuel : Nat) : Tool Nat := do return (← awaitEnding pid fuel).status

def setVariable (environment : List (Octets × Octets)) (key value : Octets) : List (Octets × Octets) :=
  if environment.any fun e => e.1 = key then environment.map fun e => if e.1 = key then (key, value) else e
  else environment ++ [(key, value)]

def assignment? (word : Octets) : Option (Octets × Octets) :=
  let cs := word.toList
  if cs.contains '=' then
    let key := cs.takeWhile (· != '=')
    some (String.ofList key, String.ofList (cs.drop (key.length + 1)))
  else none

/-- `env`: runs a program with other variables. -/
def env (run : Runner) (words : List Octets) : Tool Unit := do
  let old := (← get).environment
  let flags : List Flag :=
    [.plain 'i' "ignore-environment", .plain '0' "null", .withValue 'u' "unset", .withValue 'C' "chdir"]
  let a ← match Arguments.read flags true words with
    | .ok a => pure a
    | .error (.unknownLetter c) => do
      warn (ArgumentProblem.unknownLetter c).text
      if c = ' ' || c = '\t' then warn "use -[v]S to pass options in shebang lines"
      seeHelp 125
    | .error e => misuse 125 e.text
  let operands := match a.operands with
    | "-" :: rest => rest
    | ops => ops
  let isEmpty := a.has "ignore-environment" || a.operands.head? = some "-"
  let mut environment := if isEmpty then [] else old
  for key in a.values "unset" do
    if key.isEmpty || key.toList.contains '=' then
      fail 125 ("cannot unset " ++ Quoted.plain key ++ ": " ++ FileProblem.invalid.notice)
    environment := environment.filter fun e => e.1 ≠ key
  let settings := operands.takeWhile fun w => w.toList.contains '='
  for w in settings do
    match assignment? w with
    | some (k, v) => environment := setVariable environment k v
    | none => pure ()
  let command := operands.drop settings.length
  if a.has "null" && !command.isEmpty then misuse 125 "cannot specify --null (-0) with command"
  match a.value? "chdir" with
  | some d => do
    if command.isEmpty then misuse 125 "must specify command with --chdir (-C)"
    match ← act (Act.chdir d) with
    | .ok _ => pure ()
    | .error e => fail 125 ("cannot change directory to " ++ Quoted.always d ++ ": " ++ e.notice)
  | none => pure ()
  match command with
  | [] =>
    for (k, v) in environment do
      print (k ++ "=" ++ v ++ if a.has "null" then "\x00" else "\n")
  | c :: _ => do
    let e ← act (Exec.search run c command environment)
    warn (Quoted.plain c ++ ": " ++ e.notice)
    if e = .missing && c.toList.any (fun x => x = ' ' || x = '\t' || x = '\n') then
      warn "use -[v]S to pass options in shebang lines"
    exit (failureCode e)

/-- `setsid`: runs a program in a session of its own. -/
def setsid (run : Runner) (words : List Octets) : Tool Unit := do
  let a ← leadingArguments 1 [.plain 'c' "ctty", .plain 'f' "fork", .plain 'w' "wait"] words
  let command ← match a.operands with
    | [] => misuse 1 "no command specified"
    | c :: _ => pure c
  let environment := (← get).environment
  let called ← name
  let leave : Act Nat := do
    let _ ← Act.ask .detach
    let e ← Exec.search run command a.operands environment
    Act.put 2 (called ++ ": failed to execute " ++ command ++ ": " ++ e.notice ++ "\n")
    pure (failureCode e)
  let pid ← ask .pid
  let group ← ask .group
  if a.has "fork" || pid = group then do
    let child ← act (Act.fork leave.behaviour)
    if a.has "wait" then exit (← awaitChild child Act.fuel)
  else exit (← act leave)

/-! ## Limits -/

/-- A watched process, its limit, and whether that has passed. -/
structure Watch where
  pid : Nat
  command : Octets
  signal : Signal
  limit : Option Nat
  killAfter : Option Nat
  foreground : Bool
  verbose : Bool
  hasExpired : Bool := false

/-- Sends a signal to the process and to the group. -/
def Watch.send (w : Watch) (s : Signal) : Tool Watch := do
  let now ← ask .clock
  let next := match w.killAfter with
    | some n => { w with signal := .kill, limit := some (now + n), killAfter := none }
    | none => w
  if w.verbose then warn ("sending signal " ++ s.name ++ " to command " ++ Quoted.plain w.command)
  let _ ← ask (.kill w.pid (some s))
  if !w.foreground then
    ask (.dispose s .ignored)
    let _ ← ask (.kill 0 (some s))
    if s ≠ .kill && s ≠ .cont then
      let _ ← ask (.kill w.pid (some .cont))
      ask (.dispose .cont .ignored)
      let _ ← ask (.kill 0 (some .cont))
  pure next

/-- Waits for the process, and sends signals when its time is up. -/
def Watch.wait : Nat → Watch → Tool (Ending × Bool)
  | 0, w => pure (.exited 0, w.hasExpired)
  | fuel + 1, w => do
    match ← ask (.await (some w.pid) true w.limit) with
    | .ended _ e => pure (e, w.hasExpired)
    | .noChild => pure (.exited 0, w.hasExpired)
    | _ => do
      let signals ← ask .caught
      match signals.find? fun s => s ≠ .child with
      | some s => do
        let w ← w.send s
        wait fuel w
      | none => do
        let now ← ask .clock
        match w.limit with
        | some limit =>
          if limit ≤ now then do
            let w ← { w with limit := none, hasExpired := true }.send w.signal
            wait fuel w
          else wait fuel w
        | none => wait fuel w

def signalOf? (text : Octets) : Option Signal :=
  match Amount.natural? text with
  | some n => if n ≤ Signal.greatest then some ⟨n⟩ else none
  | none =>
    let upper := text.toUpper
    Signal.ofName? (if upper.startsWith "SIG" then String.ofList (upper.toList.drop 3) else upper)

/-- `timeout`: runs a program for a limited time. -/
def timeout (run : Runner) (words : List Octets) : Tool Unit := do
  let a ← leadingArguments 125
    [.onlyName "preserve-status", .onlyName "foreground", .withValue 'k' "kill-after", .withValue 's' "signal",
     .plain 'v' "verbose"] words
  let duration (text : Octets) : Tool (Option Nat) := do
    match Duration.ofText? text with
    | some (.micros 0) => pure none
    | some (.micros n) => pure (some n)
    | some .endless => pure none
    | none => misuse 125 ("invalid time interval " ++ Quoted.plain text)
  let killAfter ← match a.value? "kill-after" with
    | some t => duration t
    | none => pure none
  let signal ← match a.value? "signal" with
    | some t =>
      match signalOf? t with
      | some s => pure s
      | none => misuse 125 (Quoted.plain t ++ ": invalid signal")
    | none => pure Signal.term
  match a.operands with
  | time :: command :: rest => do
    let limit ← duration time
    if !a.has "foreground" then ask .regroup
    let handled := [Signal.alarm, .int, .quit, .hup, .term, signal].filter fun s => !s.isFinal
    for s in handled do
      if (← ask (.disposition s)) ≠ .ignored || s = .alarm then ask (.dispose s .caught)
    let environment := (← get).environment
    let called ← name
    let child : Act Nat := do
      let e ← Exec.search run command (command :: rest) environment
      Act.put 2 (called ++ ": failed to run command " ++ Quoted.always command ++ ": " ++ e.notice ++ "\n")
      pure (failureCode e)
    let pid ← act (Act.fork child.behaviour)
    let now ← ask .clock
    let w : Watch :=
      { pid := pid, command := command, signal := signal, limit := limit.map (now + ·), killAfter := killAfter
        foreground := a.has "foreground", verbose := a.has "verbose" }
    match ← w.wait Act.fuel with
    | (.exited code, expired) => exit (if expired && !a.has "preserve-status" then 124 else code)
    | (.killed s, expired) => do
      if !expired then do
        ask (.dispose s .standard)
        let self ← ask .pid
        let _ ← ask (.kill self (some s))
      exit (if expired && !a.has "preserve-status" && s ≠ .kill then 124 else 128 + s.number)
  | _ => seeHelp 125

end Launching

end DataplaneVerdict.Host.Tool
