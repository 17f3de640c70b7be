import DataplaneVerdict.Host.Tool.Editing.Script
import DataplaneVerdict.Host.Tool.Launching

/-!
# `Host.Tool.Editing.Stream` — the stream editor at work

Each cycle takes a line into the pattern space, carries out the commands that are for it, and puts the pattern space
out. A last line without an end is put out without one.
-/

namespace DataplaneVerdict.Host.Tool

namespace Editing

/-! ## State -/

/-- A text and whether its line was ended. -/
structure Space where
  text : List Char := []
  isEnded : Bool := true
deriving Inhabited

/-- How far a command for several lines has come. -/
inductive Range where
  | idle
  | open (last : Option Nat)
deriving DecidableEq, Inhabited

/-- What an editor knows. -/
structure Editor where
  script : Script
  place : Octets
  ranges : Array Range
  pattern : Space := {}
  number : Nat := 0
  files : List Octets
  input : Option (Lines × Octets) := none
  lastUsed : Option Automaton := none
  owesEnd : Bool := false

abbrev Edit := StateT Editor Tool

def tool {α : Type} (m : Tool α) : Edit α := (m : Tool α)

/-! ## Output -/

/-- Puts out a line, and before it the end of the last one if that is missing. -/
def sayLine (text : List Char) (isEnded : Bool) : Edit Unit := do
  let line := if isEnded then (String.ofList text).push '\n' else String.ofList text
  tool (print (if (← get).owesEnd then "\n" ++ line else line))
  modify fun e => { e with owesEnd := !isEnded }

def say : Edit Unit := do
  let p := (← get).pattern
  sayLine p.text p.isEnded

def badRead {α : Type} (name : Octets) (e : FileProblem) : Edit α :=
  tool (fail 4 ("read error on " ++ (if name = "-" then "stdin" else name) ++ ": " ++ e.notice))

/-! ## Input -/

def freshRanges (commands : Array Command) : Array Range :=
  commands.map fun c =>
    match c.first with
    | some (.line 0) => .open none
    | _ => .idle

/-- Opens the next input that can be opened. -/
def openNext : Nat → Edit Bool
  | 0 => pure false
  | fuel + 1 => do
    let e ← get
    match e.files with
    | [] => pure false
    | path :: rest => do
      set { e with files := rest }
      let fd ← tool (openInput path)
      match fd with
      | .error p => do
        tool (complain 2 ("can't read " ++ path ++ ": " ++ p.notice))
        openNext fuel
      | .ok fd => do
        modify fun e => { e with input := some ({ fd := fd }, path) }
        pure true

def closeFile : Edit Unit := do
  match (← get).input with
  | some (l, _) => tool (closeInput l.fd)
  | none => pure ()
  modify fun e => { e with input := none }

/-- The next line of all inputs. -/
def nextLine : Nat → Edit (Option (List Char × Bool))
  | 0 => pure none
  | fuel + 1 => do
    match (← get).input with
    | none => if ← openNext Act.fuel then nextLine fuel else pure none
    | some (l, name) => do
      match ← tool l.line with
      | (some line, l) => do
        match l.problem with
        | some e => badRead name e
        | none => do
          modify fun e => { e with input := some (l, name) }
          pure (some line)
      | (none, l) => do
        match l.problem with
        | some e => badRead name e
        | none => do
          closeFile
          nextLine fuel

/-- Takes the next line into the pattern space. -/
def readLine : Edit Bool := do
  match ← nextLine Act.fuel with
  | none => pure false
  | some (text, isEnded) => do
    modify fun e => { e with number := e.number + 1, pattern := ⟨text, isEnded⟩ }
    pure true

def hasContents (path : Octets) : Tool Bool := do
  match ← ask (.open path .forReading 0) with
  | .error _ => pure false
  | .ok fd => do
    let r ← ask (.read fd 1)
    act (Act.close fd)
    pure (match r with
      | .ok text => !text.isEmpty
      | .error _ => false)

/-- Whether there is a line behind this one. -/
def hasMore : Edit Bool := do
  let e ← get
  let here ← match e.input with
    | none => pure false
    | some (l, name) => do
      let (more, l) ← tool (l.hasMore Act.fuel)
      modify fun e => { e with input := some (l, name) }
      pure more
  if here then pure true
  else do
    for path in e.files do
      if ← tool (hasContents path) then return true
    pure false

/-! ## Selection -/

/-- The expression that is meant, which is then the last one used. -/
def resolve (f : Finder) : Edit Automaton := do
  match f with
  | .regex m => do
    modify fun e => { e with lastUsed := some m }
    pure m
  | .lastUsed => do
    let e ← get
    match e.lastUsed with
    | some m => pure m
    | none => tool (fail 1 (e.place ++ "no previous regular expression"))

/-- Whether the current line is meant. -/
def isAt (a : Address) : Edit Bool := do
  let n := (← get).number
  match a with
  | .line k => pure (n = k)
  | .last => return !(← hasMore)
  | .found f => do
    let m ← resolve f
    pure (m.occursIn (← get).pattern.text.toArray)

def opened (second : Address) (n : Nat) : Range :=
  match second with
  | .line k => if k ≤ n then .idle else .open (some k)
  | _ => .open none

/-- Whether a command is for the current line. -/
def selects (i : Nat) (c : Command) : Edit Bool := do
  match c.first, c.second with
  | none, _ => pure true
  | some a, none => isAt a
  | some a, some b => do
    let n := (← get).number
    let setRange (r : Range) : Edit Unit := modify fun e => { e with ranges := e.ranges.set! i r }
    match (← get).ranges[i]! with
    | .idle => do
      if ← isAt a then
        setRange (opened b n)
        pure true
      else pure false
    | .open (some last) => do
      if last ≤ n then setRange .idle
      pure (n ≤ last)
    | .open none => do
      if ← isAt b then setRange .idle
      pure true

/-! ## Cycles -/

inductive Outcome where
  | done
  | gone
  | quit (code : Nat)

def substitute (s : Substitution) : Edit Unit := do
  let m ← resolve s.finder
  match s.replace? m (← get).pattern.text with
  | none => pure ()
  | some text => do
    modify fun e => { e with pattern := { e.pattern with text := text } }
    if s.prints then say

/-- Carries out the commands from a place on. -/
def carryOut : Nat → Nat → Edit Outcome
  | 0, _ => pure .done
  | fuel + 1, i => do
    let e ← get
    match e.script.commands[i]? with
    | none => pure .done
    | some c =>
      let isFor := (← selects i c) != c.isNegated
      let go : Edit Outcome := carryOut fuel (i + 1)
      if !isFor then
        match c.action with
        | .block after => carryOut fuel after
        | _ => go
      else
        let e ← get
        match c.action with
        | .block _ => go
        | .nothing => go
        | .delete => pure .gone
        | .next => do
          let isMore ← hasMore
          if !e.script.isQuiet then say
          if isMore && (← readLine) then go else pure (.quit 0)
        | .print => do
          say
          go
        | .quit code => do
          if !e.script.isQuiet then say
          pure (.quit code)
        | .substitute s => do
          substitute s
          go
        | .number => do
          sayLine (toString e.number).toList true
          go

/-- One cycle after the other; the exit code. -/
def cycles : Nat → Edit Nat
  | 0 => pure 0
  | fuel + 1 => do
    if !(← readLine) then pure 0
    else
      match ← carryOut Act.fuel 0 with
      | .done => do
        if !(← get).script.isQuiet then say
        cycles fuel
      | .gone => cycles fuel
      | .quit code => pure code

/-! ## The tool -/

def flags : List Flag :=
  [.plain 'n' "quiet", .onlyName "silent", .withValue 'e' "expression", .withValue 'f' "file",
   .plain 'E' "regexp-extended",
   .onlyLetter 'r']

def usage {α : Type} : Tool α := do
  message ("Usage: " ++ (← name) ++ " [OPTION]... \x7bscript-only-if-no-other-script\x7d [input-file]...\n\n")
  exit 1

def scriptFile (path : Octets) : Tool Octets := do
  match ← openInput path with
  | .error e => fail 4 ("couldn't open file " ++ path ++ ": " ++ e.notice)
  | .ok fd => do
    let (text, _) ← act (Act.readAll fd)
    closeInput fd
    pure text

/-- `sed`: edits lines by a script. -/
def sed (_ : Runner) (words : List Octets) : Tool Unit := do
  let isClosed := (← ask (.descriptor 1)).isNone
  modify fun t => { t with lossText := if isClosed then "couldn't close stdout: " else "couldn't flush stdout: " }
  let a ← match Arguments.read flags (← setting? "POSIXLY_CORRECT").isSome words with
    | .ok a => pure a
    | .error e => do
      warn e.text
      usage
  let isExtended := a.has "regexp-extended" || a.has "r"
  let hasScript := a.has "expression" || a.has "file"
  let (given, operands) ← if hasScript then pure (a.given, a.operands)
    else
      match a.operands with
      | [] => usage
      | s :: rest => pure ([⟨"expression", some s⟩], rest)
  let mut reader : Reader := {}
  let mut count := 0
  for g in given do
    let value := g.value.getD ""
    let piece ← match g.key with
      | "expression" => do
        count := count + 1
        pure (some (Origin.expression count, value))
      | "file" => do
        let text ← scriptFile value
        pure (some (Origin.file value, text))
      | _ => pure none
    match piece with
    | none => pure ()
    | some (origin, text) =>
      match (readPiece isExtended origin text).run reader with
      | .error c => fail c.code c.text
      | .ok (_, r) => reader := r
  let script ← match reader.finish with
    | .error c => fail c.code c.text
    | .ok s => pure s
  let editor : Editor :=
    { script := { script with isQuiet := script.isQuiet || a.has "quiet" || a.has "silent" }
      place := match reader.origin with
        | .expression n => Origin.place (.expression n) 0 0
        | o => o.place 0 reader.line
      ranges := freshRanges script.commands
      files := inputs operands }
  let work : Edit Nat := do
    let code ← cycles Act.fuel
    match (← get).input with
    | some (l, _) => do
      if l.fd = 0 then tool l.giveBack
      closeFile
    | none => pure ()
    pure code
  let (code, _) ← work editor
  let bad := (← get).status
  exit (if bad ≠ 0 then bad else code)

end Editing

end DataplaneVerdict.Host.Tool
