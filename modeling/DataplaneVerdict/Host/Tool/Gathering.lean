import DataplaneVerdict.Host.Tool.Launching

/-!
# `Host.Tool.Gathering` — building command lines from input

The input is divided into arguments: at blanks and ends of lines, with quotes and backslashes, or at zero bytes. A
command is run with as many of them as it may get.
-/

namespace DataplaneVerdict.Host.Tool

namespace Gathering

/-! ## Input -/

/-- What a place of the input belongs to. -/
inductive Place where
  | blank
  | word
  | quoted (quote : Char)
  | escaped
deriving DecidableEq

/-- How the input is divided. -/
structure Division where
  atZeros : Bool
  room : Nat

structure Reader where
  place : Place := .blank
  word : List Char := []
  size : Nat := 0
  isSeen : Bool := false

/-- What was found in the input. -/
inductive Event where
  | argument (text : Octets)
  | zero
  | unmatched (quote : Char)
  | tooLong

namespace Reader

def isBlank (c : Char) : Bool := c = ' ' || c = '\t'

def isSpace (c : Char) : Bool := c = ' ' || ('\t' ≤ c && c ≤ '\r')

def finish (r : Reader) : List Event := [.argument (String.ofList (r.word.reverse.takeWhile (· != '\x00')))]

def push (d : Division) (r : Reader) (c : Char) : Reader × List Event :=
  let r := { r with word := c :: r.word, size := r.size + 1 }
  (r, (if c = '\x00' && !d.atZeros then [.zero] else []) ++ (if d.room < r.size then [.tooLong] else []))

def plain (d : Division) (r : Reader) (c : Char) : Reader × List Event :=
  if c = '\n' then ({}, if r.word.isEmpty && !r.isSeen then [] else r.finish)
  else if isBlank c then ({}, r.finish)
  else if c = '\\' then ({ r with place := .escaped, isSeen := true }, [])
  else if c = '\'' || c = '"' then ({ r with place := .quoted c, isSeen := true }, [])
  else { r with place := .word, isSeen := true }.push d c

/-- Reads one character. -/
def take (d : Division) (r : Reader) (c : Char) : Reader × List Event :=
  if d.atZeros then if c = '\x00' then ({}, r.finish) else r.push d c
  else
    match r.place with
    | .blank => if isSpace c then (r, []) else plain d r c
    | .word => plain d r c
    | .escaped => { r with place := .word }.push d c
    | .quoted quote =>
      if c = '\n' then (r, [.unmatched quote])
      else if c = quote then ({ r with place := .word }, [])
      else r.push d c

/-- What the end of the input completes. -/
def atEnd (d : Division) (r : Reader) : List Event :=
  if r.word.isEmpty then []
  else
    match r.place with
    | .quoted quote => if d.atZeros then r.finish else [.unmatched quote]
    | _ => r.finish

end Reader

/-! ## Commands -/

/-- How commands are put together. -/
structure Plan where
  command : List Octets
  mostArguments : Option Nat := none

/-- The arguments so far, and how the commands went. -/
structure Gathered where
  status : Nat := 0
  count : Nat := 0
  arguments : List Octets := []
  size : Nat := 0
  hasWarned : Bool := false

def mostSize : Nat := 131072

def room (words : List Octets) : Nat := words.foldl (fun n w => n + w.length + 1) 0

/-- Runs a command and looks at how it ended. -/
def launch (runner : Runner) (g : Gathered) (words : List Octets) : Tool Gathered := do
  let command := words.head?.getD ""
  let before : Act Unit := do
    let _ ← Act.ask (.close 0)
    let _ ← Act.ask (.open "/dev/null" .forReading 0)
  let g := { g with count := g.count + 1 }
  match ← Launching.start runner before (← get).environment words with
  | .ok pid => do
    match ← Launching.awaitEnding pid Act.fuel with
    | .exited 0 => pure g
    | .exited 255 => fail 124 (command ++ ": exited with status 255; aborting")
    | .exited _ => pure { g with status := 123 }
    | .killed s => fail 125 (command ++ ": terminated by signal " ++ toString s.number)
  | .error e => do
    warn (command ++ ": " ++ e.notice)
    exit (if g.status ≠ 0 then g.status else Launching.failureCode e)

/-- Runs the command with what was gathered. -/
def Plan.runGathered (p : Plan) (runner : Runner) (g : Gathered) : Tool Gathered := do
  let g ← launch runner g (p.command ++ g.arguments.reverse)
  pure { g with arguments := [], size := 0 }

def Gathered.abort {α : Type} (g : Gathered) (text : Octets) : Tool α := do
  warn text
  exit (if g.status ≠ 0 then g.status else 1)

/-- Takes one more argument; a full command is run first. -/
def Plan.argument (p : Plan) (runner : Runner) (g : Gathered) (text : Octets) : Tool Gathered := do
  let size := text.length + 1
  let isTooLong := mostSize < room p.command + g.size + size
  if isTooLong && g.arguments.isEmpty then g.abort "cannot fit single argument within argument list size limit"
  let g ← if isTooLong then p.runGathered runner g else pure g
  let g := { g with arguments := text :: g.arguments, size := g.size + size }
  if p.mostArguments = some g.arguments.length then p.runGathered runner g else pure g

def Plan.handle (p : Plan) (runner : Runner) : Gathered → List Event → Tool Gathered
  | g, [] => pure g
  | g, e :: rest => do
    let g ← match e with
      | .argument text => p.argument runner g text
      | .zero => do
        if !g.hasWarned then
          warn ("WARNING: a NUL character occurred in the input.  " ++
            "It cannot be passed through in the argument list.  " ++
            "Did you mean to use the --null option?")
        pure { g with hasWarned := true }
      | .unmatched quote => do
        let g ← if g.arguments.isEmpty then pure g else p.runGathered runner g
        g.abort ("unmatched " ++ (if quote = '"' then "double" else "single") ++
          " quote; by default quotes are special to xargs unless you use the -0 option")
      | .tooLong => do
        let g ← if g.arguments.isEmpty then pure g else p.runGathered runner g
        g.abort "argument line too long"
    p.handle runner g rest

/-- Reads the input up to its end. -/
def Plan.gather (p : Plan) (runner : Runner) (d : Division) : Nat → Reader → Lines → Gathered → Tool Gathered
  | 0, _, _, g => pure g
  | fuel + 1, r, l, g => do
    match l.held with
    | c :: cs => do
      let (r, events) := r.take d c
      let l := { l with held := cs }
      if events.isEmpty then p.gather runner d fuel r l g
      else do
        let g ← tryCatch (p.handle runner g events) fun code => do
          l.giveBack
          throw code
        p.gather runner d fuel r l g
    | [] =>
      if l.isOver then p.handle runner g (r.atEnd d)
      else do
        let l ← l.refill
        p.gather runner d fuel r l g

/-! ## The tool -/

def argumentCount (text : Octets) : Tool Nat := do
  let complaint (what : Octets) : Octets := what ++ " for -n option"
  match text.toNat? with
  | none => misuse 1 (complaint ("invalid number \"" ++ text ++ "\""))
  | some 0 => misuse 1 (complaint ("value " ++ text) ++ " should be >= 1")
  | some n => pure n

/-- `xargs`: runs commands with arguments from its input. -/
def xargs (runner : Runner) (words : List Octets) : Tool Unit := do
  let a ← leadingArguments 1 [.plain '0' "null", .withValue 'n' "max-args", .plain 'r' "no-run-if-empty"] words
  let count ← (a.value? "max-args").mapM argumentCount
  let p : Plan := { command := if a.operands.isEmpty then ["echo"] else a.operands, mostArguments := count }
  let taken := room p.command
  if mostSize < taken then fail 1 "cannot fit single argument within argument list size limit"
  let d : Division := { atZeros := a.has "null", room := mostSize - taken - 1 }
  let g ← p.gather runner d Act.fuel {} { fd := 0 } {}
  let isDue := !g.arguments.isEmpty || (g.count = 0 && !a.has "no-run-if-empty")
  let g ← if isDue then p.runGathered runner g else pure g
  exit g.status

end Gathering

end DataplaneVerdict.Host.Tool
