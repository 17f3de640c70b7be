import DataplaneVerdict.Host.Image
import DataplaneVerdict.Host.Tool.Quoted

/-!
# `Host.Tool.Basic` — programs of the host

A tool collects what it puts out and hands it over in larger pieces, at the latest at its end. Before it complains it
hands over what it has.
-/

namespace DataplaneVerdict.Host.Tool

/-- What a tool keeps: what it has not yet put out, and the worst status so far. -/
structure Task where
  name : Octets
  environment : List (Octets × Octets)
  out : List Octets := []
  outSize : Nat := 0
  outProblem : Option FileProblem := none
  status : Nat := 0
  lossText : Octets := "write error: "

end DataplaneVerdict.Host.Tool

namespace DataplaneVerdict.Host

/-- What a tool does; it may end early with a code. -/
abbrev Tool := ExceptT Nat (StateT Tool.Task Act)

namespace Tool

def act {α : Type} (m : Act α) : Tool α := fun t => do
  let a ← m
  pure (.ok a, t)

def ask {α : Type} (c : Call α) : Tool α := act (Act.ask c)

def name : Tool Octets := do return (← get).name

def setting? (name : Octets) : Tool (Option Octets) := do return (← get).environment.lookup name

/-! ## Output -/

/-- Puts out what is held back. -/
def flush : Tool Unit := do
  let t ← get
  if !t.out.isEmpty then
    let text := String.join t.out.reverse
    set { t with out := [], outSize := 0 }
    match ← act (Act.writeAll 1 (text.length + 1) text) with
    | .ok _ => pure ()
    | .error e => modify fun t => { t with outProblem := t.outProblem.orElse fun _ => some e }

def bufferSize : Nat := 4096

/-- Puts out through the buffer. -/
def print (text : Octets) : Tool Unit := do
  modify fun t => { t with out := text :: t.out, outSize := t.outSize + text.utf8ByteSize }
  if bufferSize ≤ (← get).outSize then flush

/-- Puts out at once. -/
def emit (text : Octets) : Tool Unit := do
  print text
  flush

/-- Writes to the standard error output, after what was put out before. -/
def message (text : Octets) : Tool Unit := do
  flush
  act (Act.put 2 text)

def warn (text : Octets) : Tool Unit := do message ((← name) ++ ": " ++ text ++ "\n")

/-- Remembers a status. -/
def note (code : Nat) : Tool Unit := modify fun t => { t with status := max t.status code }

/-- Tells of a problem and goes on. -/
def complain (code : Nat) (text : Octets) : Tool Unit := do
  warn text
  note code

def exit {α : Type} (code : Nat) : Tool α := throw code

/-- Tells of a problem and ends. -/
def fail {α : Type} (code : Nat) (text : Octets) : Tool α := do
  warn text
  throw code

def seeHelp {α : Type} (code : Nat) : Tool α := do
  message ("Try '" ++ (← name) ++ " --help' for more information.\n")
  throw code

/-- Ends because of wrong arguments. -/
def misuse {α : Type} (code : Nat) (text : Octets) : Tool α := do
  warn text
  seeHelp code

/-! ## Input -/

/-- Opens a file, or takes the standard input for `-`. -/
def openInput (path : Octets) : Tool (Answer Nat) := do
  if path = "-" then pure (.ok 0) else ask (.open path .forReading 0)

def statOfInput (path : Octets) : Tool (Answer Disk.Stat) := do
  if path = "-" then
    match ← ask (.descriptor 0) with
    | some i => act (Act.look fun d _ => d.statOf i)
    | none => pure (.error .badDescriptor)
  else act (Act.stat path .target)

def closeInput (fd : Nat) : Tool Unit := if fd = 0 then pure () else act (Act.close fd)

/-- The contents of an input. -/
def readWhole (path : Octets) : Tool (Answer Octets) := do
  match ← openInput path with
  | .error e => pure (.error e)
  | .ok fd => do
    let (text, problem) ← act (Act.readAll fd)
    closeInput fd
    pure (match problem with
      | some e => .error e
      | none => .ok text)

end Tool

namespace Tool

/-- An input that is read line by line. -/
structure Lines where
  fd : Nat
  held : List Char := []
  isOver : Bool := false
  problem : Option FileProblem := none
  mark : Char := '\n'
  block : Nat := 4096

namespace Lines

def refill (l : Lines) : Tool Lines := do
  match ← ask (.read l.fd l.block) with
  | .error .interrupted => pure l
  | .error e => pure { l with isOver := true, problem := some e }
  | .ok text => pure (if text.isEmpty then { l with isOver := true } else { l with held := l.held ++ text.toList })

/-- The next line and whether it was ended; `searched` was read and holds no end. -/
def next : Nat → Lines → (searched : List Char) → Tool (Option (List Char × Bool) × Lines)
  | 0, l, _ => pure (none, l)
  | fuel + 1, l, searched => do
    let line := l.held.takeWhile (· != l.mark)
    match l.held.drop line.length with
    | _ :: rest => pure (some (searched ++ line, true), { l with held := rest })
    | [] =>
      let all := searched ++ line
      if l.isOver then pure (if all.isEmpty then none else some (all, false), { l with held := [] })
      else do
        let l ← refill { l with held := [] }
        next fuel l all

def line (l : Lines) : Tool (Option (List Char × Bool) × Lines) := next Act.fuel l []

/-- Goes through the lines, until a step has no result. -/
def fold {σ : Type} (step : σ → List Char → Bool → Tool (Option σ)) : Nat → Lines → σ → Tool (σ × Lines)
  | 0, l, s => pure (s, l)
  | fuel + 1, l, s => do
    match ← l.line with
    | (none, l) => pure (s, l)
    | (some (text, marked), l) => do
      match ← step s text marked with
      | some s => fold step fuel l s
      | none => pure (s, l)

/-- Whether there is another line. -/
def hasMore : Nat → Lines → Tool (Bool × Lines)
  | 0, l => pure (false, l)
  | fuel + 1, l => do
    if !l.held.isEmpty then pure (true, l)
    else if l.isOver then pure (false, l)
    else do
      let l ← refill l
      hasMore fuel l

/-- Gives back what was read beyond the last line. -/
def giveBack (l : Lines) : Tool Unit := do
  if !l.held.isEmpty then
    let unused : Int := l.held.length
    let _ ← ask (.seek l.fd fun offset _ => (offset : Int) - unused)

end Lines

/-- Goes through the lines of several inputs. -/
def foldFiles {σ : Type} (mark : Char) (step : σ → List Char → Bool → Tool σ) : List Octets → σ → Tool σ
  | [], s => pure s
  | path :: rest, s => do
    match ← openInput path with
    | .error e => do
      complain 1 (Quoted.forShell path ++ ": " ++ e.notice)
      foldFiles mark step rest s
    | .ok fd => do
      let (s, l) ← Lines.fold (fun s text marked => do return some (← step s text marked)) Act.fuel
        { fd := fd, mark := mark } s
      match l.problem with
      | some e => complain 1 (Quoted.forShell path ++ ": " ++ e.notice)
      | none => pure ()
      closeInput fd
      foldFiles mark step rest s

def inputs (operands : List Octets) : List Octets := if operands.isEmpty then ["-"] else operands

def marked (mark : Char) (text : List Char) : Octets := (String.ofList text).push mark

/-! ## Running -/

/-- A tool as a program. What cannot be put out is a failure of the tool. -/
def run (m : Tool Unit) (failure : Nat) (name : Octets) (environment : List (Octets × Octets)) : Act Nat := do
  let (r, t) ← m { name := name, environment := environment }
  let code := match r with
    | .ok _ => t.status
    | .error code => code
  let (_, t) ← flush t
  match t.outProblem with
  | some e => do
    Act.put 2 (name ++ ": " ++ t.lossText ++ e.notice ++ "\n")
    pure failure
  | none => pure code

end Tool

end DataplaneVerdict.Host
