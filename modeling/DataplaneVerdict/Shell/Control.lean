import DataplaneVerdict.Shell.Condition
import DataplaneVerdict.Shell.Input
import DataplaneVerdict.Shell.Lookup
import DataplaneVerdict.Shell.Options
import DataplaneVerdict.Shell.Output
import DataplaneVerdict.Shell.Processes

/-!
# `Shell.Control` — builtins that direct the shell, and the table of all builtins
-/

namespace DataplaneVerdict.Shell

open Host

namespace Control

def exit (args : List String) : Sh Nat := do
  match args with
  | [] => throw .exit
  | a :: _ => do
    let n ← Builtin.number a
    modify fun s => { s with savedStatus := some n.toNat }
    throw .exit

/-- `return`: leaves a function, or a file that is read. -/
def returns (args : List String) : Sh Nat := do
  match args with
  | [] => do
    modify fun s => { s with skip := some .returns }
    pure (← get).status
  | a :: _ => do
    let n ← Builtin.number a
    modify fun s => { s with skip := some .returns, returnsStatus := true }
    pure n.toNat

/-- `break` and `continue`. -/
def leaveLoop (kind : Skip) (args : List String) : Sh Nat := do
  let n ← match args with
    | [] => pure 1
    | a :: _ => do
      let n ← Builtin.number a
      if n = 0 then Sh.error ("Illegal number: " ++ a)
      pure n.toNat
  modify fun s =>
    let n := min n s.loops
    if 0 < n then { s with skip := some kind, skipCount := n } else s
  pure 0

/-- A file that is no program is taken for a script. -/
def tryBecome (exec : Exec) (path : String) (args : List String) (environment : List (String × String)) :
    Sh FileProblem := do
  match ← Sh.act (exec path args environment) with
  | .notProgram => Sh.act (exec "/bin/sh" ("/bin/sh" :: path :: args.drop 1) environment)
  | e => pure e

/-- The status if a program cannot be started. -/
def startStatus (e : FileProblem) : Nat :=
  if e = .missing || e = .notDirectory || e = .tooManyLinks || e = .nameTooLong then 127 else 126

/-- Becomes the first of these programs that can be started. -/
def become {α : Type} (exec : Exec) (paths : List String) (args : List String) : Sh α := do
  let s ← get
  let environment := s.environment
  let rec attempt : List String → FileProblem → Sh FileProblem
    | [], problem => pure problem
    | path :: rest, problem => do
      let e ← tryBecome exec path args environment
      attempt rest (if e = .missing || e = .notDirectory then problem else e)
  let name := args.head?.getD ""
  let problem ← if name.toList.contains '/' then tryBecome exec name args environment else attempt paths .missing
  Sh.warn (name ++ ": " ++ Lookup.problemText problem)
  modify fun s => { s with status := startStatus problem }
  throw .finish

/-- `exec`: becomes a program; without one only redirections stay. -/
def exec (sv : Services) (args : List String) : Sh Nat := do
  let (_, args) ← Builtin.options "" args
  match args with
  | [] => pure 0
  | name :: _ => become sv.exec (Lookup.candidates ((← get).value "PATH") name) args

def findFile : List String → Sh (Option String)
  | [] => pure none
  | path :: rest => do
    match ← Sh.act (Act.stat path .target) with
    | .ok st => if Lookup.isRegular st.inode.node then pure (some path) else findFile rest
    | .error _ => findFile rest

/-- `.`: reads commands from a file. -/
def dot (sv : Services) (args : List String) : Sh Nat := do
  let (_, args) ← Builtin.options "" args
  match args with
  | [] => pure 0
  | name :: _ => do
    if name.toList.contains '/' then sv.evaluateFile name
    else
      match ← findFile (Lookup.candidates ((← get).value "PATH") name) with
      | some path => sv.evaluateFile path
      | none => Sh.error (name ++ ": not found")

/-- `command`: what a name stands for; running is done elsewhere. -/
def command (args : List String) : Sh Nat := do
  let (options, args) ← Builtin.options "pvV" args
  let has (c : Char) : Bool := options.any fun o => o.1 = c
  match args with
  | name :: _ =>
    if has 'v' || has 'V' then
      Lookup.describe (has 'V') (if has 'p' then some Lookup.standardPath else none) name
    else pure 0
  | [] => pure 0

end Control

/-- What each builtin command does. -/
def Builtin.run (sv : Services) (isTested : Bool) (name : String) (args : List String) : Sh Nat :=
  match name with
  | "." => Control.dot sv args
  | "[" => Condition.evaluate name args
  | "alias" => Variables.aliases args
  | "break" => Control.leaveLoop .breaks args
  | "cd" => Directory.cd args
  | "chdir" => Directory.cd args
  | "command" => Control.command args
  | "continue" => Control.leaveLoop .continues args
  | "echo" => Output.echo args
  | "eval" => if args.isEmpty then pure 0 else sv.evaluate (" ".intercalate args) isTested
  | "exec" => Control.exec sv args
  | "exit" => Control.exit args
  | "export" => Variables.mark "export" (fun v => { v with isExported := true }) Variable.isExported args
  | "false" => pure 1
  | "getopts" => Variables.getopts args
  | "kill" => Processes.kill args
  | "local" => Variables.local_ args
  | "printf" => Output.printf args
  | "pwd" => Directory.pwd args
  | "read" => Input.read args
  | "readonly" => Variables.mark "readonly" (fun v => { v with isReadonly := true }) Variable.isReadonly args
  | "return" => Control.returns args
  | "set" => Options.set args
  | "shift" => Variables.shift args
  | "test" => Condition.evaluate name args
  | "trap" => Processes.trap args
  | "type" => Lookup.types args
  | "umask" => Options.umask args
  | "unalias" => Variables.unalias args
  | "unset" => Variables.unset args
  | "wait" => Processes.wait args
  | _ => pure 0

end DataplaneVerdict.Shell
