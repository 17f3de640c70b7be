import DataplaneVerdict.Host.Behaviour
import DataplaneVerdict.Shell.Grammar

/-!
# `Shell.State` — what a shell knows
-/

namespace DataplaneVerdict.Shell

open Host

structure Variable where
  value : Option String := none
  isExported : Bool := false
  isReadonly : Bool := false
deriving Inhabited

/-- A process of a job. -/
structure JobProcess where
  pid : Nat
  ending : Option Ending := none
deriving Inhabited

/-- Processes that are waited for together. -/
structure Job where
  number : Nat
  processes : List JobProcess
  isTold : Bool := false
deriving Inhabited

namespace Job

def isDone (j : Job) : Bool := j.processes.all fun p => p.ending.isSome

/-- A job ends as its last process does. -/
def ending (j : Job) : Ending := ((j.processes.getLast?.bind fun p => p.ending).getD (.exited 0))

end Job

/-- What is being left. -/
inductive Skip where
  | breaks
  | continues
  | returns
deriving DecidableEq, Inhabited

/-- A descriptor as it was before a redirection. -/
structure Saved where
  fd : Nat
  copy : Option Nat
deriving Inhabited

/-- What is put back when a function is left. -/
inductive LocalValue where
  | named (name : String) (old : Option Variable)
  | options (old : List String)

structure Function where
  line : Nat
  body : Command

/-- What a shell knows. -/
structure State where
  vars : List (String × Variable) := []
  functions : List (String × Function) := []
  aliases : List (String × String) := []
  documents : List Document := []
  nextDocument : Nat := 0
  options : List String := []
  name : String := "sh"
  arguments : List String := []
  optionIndex : Nat := 1
  optionOffset : Option Nat := none
  status : Nat := 0
  outputStatus : Nat := 0
  savedStatus : Option Nat := none
  line : Nat := 1
  command : Option String := none
  loops : Nat := 0
  skip : Option Skip := none
  skipCount : Nat := 0
  returnsStatus : Bool := false
  traps : List (Nat × String) := []
  pending : List Nat := []
  ignoredAtStart : List Nat := []
  jobs : List Job := []
  lastBackground : Option Nat := none
  pid : Nat := 0
  parentPid : Nat := 0
  depth : Nat := 0
  functionDepth : Nat := 0
  locals : List (List LocalValue) := []
  saved : List (List Saved) := []
  directory : String := ""
  found : List (String × String) := []
  out : List String := []
  outSize : Nat := 0
  outFailed : Bool := false
  traceTo : Nat := 2

/-- Ways to leave commands early. -/
inductive Jump where
  | exit
  | finish
  | error
deriving DecidableEq, Inhabited

/-- What a shell does. -/
abbrev Sh := ExceptT Jump (StateT State Act)

namespace Sh

def act {α : Type} (m : Act α) : Sh α := fun s => do
  let a ← m
  pure (.ok a, s)

def ask {α : Type} (c : Call α) : Sh α := act (Act.ask c)

def put (fd : Nat) (text : String) : Sh Unit := act (Act.put fd text)

def tryCatch {α : Type} (m : Sh α) (handler : Jump → Sh α) : Sh α := fun s => do
  let (r, s) ← m s
  match r with
  | .ok a => pure (.ok a, s)
  | .error j => handler j s

/-- Does something afterwards, however it ends. -/
def finally_ {α : Type} (m : Sh α) (after : Sh Unit) : Sh α := fun s => do
  let (r, s) ← m s
  let (r', s) ← after s
  match r' with
  | .ok _ => pure (r, s)
  | .error j => pure (.error j, s)

/-- What stands before messages. -/
def label : Sh String := do
  let s ← get
  pure (s.name ++ ": " ++ toString s.line ++ ": " ++
    match s.command with
    | some c => c ++ ": "
    | none => "")

def warn (message : String) : Sh Unit := do
  put 2 ((← label) ++ message ++ "\n")

/-- Puts out what is held back. -/
def flush : Sh Unit := do
  let s ← get
  if !s.out.isEmpty then
    let text := String.join s.out.reverse
    set { s with out := [], outSize := 0 }
    match ← act (Act.writeAll 1 (text.length + 1) text) with
    | .ok _ => pure ()
    | .error _ => modify fun s => { s with outFailed := true }

/-- Tells of an error, and leaves the command. -/
def error {α : Type} (message : String) : Sh α := do
  warn message
  flush
  modify fun s => { s with status := 2 }
  throw .error

def bufferSize : Nat := 8192

def print (text : String) : Sh Unit := do
  modify fun s => { s with out := text :: s.out, outSize := s.outSize + text.length }
  if bufferSize < (← get).outSize then flush

end Sh

namespace State

def hasOption (s : State) (name : String) : Bool := s.options.contains name

def var? (s : State) (name : String) : Option Variable := s.vars.lookup name

def lookup (s : State) (name : String) : Option String := (s.var? name).bind fun v => v.value

def value (s : State) (name : String) : String := (s.lookup name).getD ""

def modifyVariable (s : State) (name : String) (f : Variable → Variable) : State :=
  if (s.var? name).isSome then
    { s with vars := s.vars.map fun v => if v.1 = name then (name, f v.2) else v }
  else { s with vars := s.vars ++ [(name, f {})] }

def removeVariable (s : State) (name : String) : State :=
  { s with vars := s.vars.filter fun v => v.1 ≠ name }

/-- Where a variable stands in the order of the environment. -/
def bucket (name : String) : Nat :=
  let chars := name.toList.map Char.toNat
  ((chars.head?.getD 0) * 16 + chars.foldl (· + ·) 0) % 39

def environment (s : State) : List (String × String) :=
  let exported := s.vars.filterMap fun (n, v) =>
    match v.isExported, v.value with
    | true, some value => some (n, value)
    | _, _ => none
  exported.mergeSort fun a b => decide (bucket a.1 ≤ bucket b.1)

end State

namespace Sh

/-- Some variables are also known in another form. -/
def noteChange (name value : String) : Sh Unit := do
  if name = "PATH" then modify fun s => { s with found := [] }
  else if name = "OPTIND" then
    match value.toNat? with
    | some n => modify fun s => { s with optionIndex := max n 1, optionOffset := none }
    | none =>
      if value.isEmpty then modify fun s => { s with optionIndex := 1, optionOffset := none }
      else error ("Illegal number: " ++ value)

def checkAssignable (name : String) : Sh Unit := do
  if !isName name then error (name ++ ": bad variable name")
  if (((← get).var? name).map Variable.isReadonly).getD false then error (name ++ ": is read only")

/-- Sets a variable. -/
def assign (name value : String) : Sh Unit := do
  checkAssignable name
  let s ← get
  let exports := s.hasOption "allexport"
  noteChange name value
  modify fun s => s.modifyVariable name fun v => { v with value := some value, isExported := v.isExported || exports }

/-- Variables that are kept when they are unset. -/
def fixedVariables : List String := ["IFS", "MAIL", "MAILPATH", "PATH", "PS1", "PS2", "PS4", "OPTIND"]

def unset (name : String) : Sh Unit := do
  checkAssignable name
  if ((← get).var? name).isSome then do
    noteChange name ""
    if fixedVariables.contains name then modify fun s => s.modifyVariable name fun v => { v with value := none }
    else modify fun s => s.removeVariable name

end Sh

end DataplaneVerdict.Shell
