import DataplaneVerdict.Shell.Directory

/-!
# `Shell.Lookup` — what a command name stands for

A name stands for a function, a builtin, or a program in one of the directories of the search path. Programs that were
found are remembered.
-/

namespace DataplaneVerdict.Shell

open Host

namespace Builtin

/-- Builtin commands whose errors end a script. -/
def special : List String :=
  [".", ":", "break", "continue", "eval", "exec", "exit", "export", "local", "readonly", "return", "set", "shift",
   "trap", "unset"]

def ordinary : List String :=
  ["[", "alias", "cd", "chdir", "command", "echo", "false", "getopts", "kill", "printf", "pwd", "read", "test", "true",
   "type", "umask", "unalias", "wait"]

/-- Builtin commands whose arguments are assignments. -/
def assigning : List String := ["alias", "export", "local", "readonly"]

def isBuiltin (name : String) : Bool := special.contains name || ordinary.contains name

end Builtin

/-- What a name stands for. -/
inductive Meaning where
  | function (f : Function)
  | builtin
  | program (path : String)
  | unknown (reason : FileProblem)

namespace Lookup

def standardPath : String := "/usr/local/sbin:/usr/local/bin:/usr/sbin:/usr/bin:/sbin:/bin"

def candidates (path name : String) : List String :=
  (Directory.searchPath path).map fun directory => Directory.within directory name

def isRegular : Node → Bool
  | .file _ => true
  | .program _ => true
  | .unreadable => true
  | _ => false

/-- The first path with a file, or the problem to tell of. -/
def firstFile : List String → FileProblem → Sh (Except FileProblem String)
  | [], problem => pure (.error problem)
  | path :: rest, problem => do
    match ← Sh.act (Act.stat path .target) with
    | .error e => firstFile rest (if e = .missing || e = .notDirectory then problem else e)
    | .ok st => if isRegular st.inode.node then pure (.ok path) else firstFile rest .denied

/-- Searches for a program, or remembers where it was. -/
def findProgram (path : Option String) (name : String) : Sh Meaning := do
  let s ← get
  let own := path.isNone
  match if own then s.found.lookup name else none with
  | some known => pure (.program known)
  | none =>
    match ← firstFile (candidates (path.getD (s.value "PATH")) name) .missing with
    | .error e => pure (.unknown e)
    | .ok found => do
      if own then modify fun s => { s with found := s.found ++ [(name, found)] }
      pure (.program found)

/-- What a name stands for. -/
def find (functions : Bool) (path : Option String) (name : String) : Sh Meaning := do
  let known := (← get).functions
  if name.toList.contains '/' then pure (.program name)
  else
    match if functions then known.lookup name else none with
    | some f => pure (.function f)
    | none => if Builtin.isBuiltin name then pure .builtin else findProgram path name

def problemText (e : FileProblem) : String := if e = .missing || e = .notDirectory then "not found" else e.notice

/-- Tells what a name stands for. -/
def describe (isVerbose : Bool) (path : Option String) (name : String) : Sh Nat := do
  let s ← get
  let tell (sentence word : String) : Sh Nat := do
    Sh.print (if isVerbose then name ++ sentence ++ "\n" else word ++ "\n")
    pure 0
  let unknown : Sh Nat := do
    if isVerbose then Sh.print (name ++ ": not found\n")
    pure 127
  if Token.keywords.contains name then tell " is a shell keyword" name
  else
    match s.aliases.lookup name with
    | some value =>
      tell (" is an alias for " ++ value) ("alias " ++ name ++ "=" ++ Builtin.singleQuoted value)
    | none =>
      let isTracked := path.isNone && (s.found.lookup name).isSome && (s.functions.lookup name).isNone
      match ← find true path name with
      | .function _ => tell " is a shell function" name
      | .builtin =>
        tell (if Builtin.special.contains name then " is a special shell builtin" else " is a shell builtin") name
      | .unknown _ => unknown
      | .program found =>
        if name.toList.contains '/' then
          match ← Sh.act (Act.stat name .target) with
          | .ok _ => tell (" is " ++ found) found
          | .error _ => unknown
        else
          tell ((if isTracked then " is a tracked alias for " else " is ") ++ found) found

def types (args : List String) : Sh Nat := do
  let mut status := 0
  for name in args do
    let n ← describe true none name
    if n ≠ 0 then status := n
  pure status

end Lookup

end DataplaneVerdict.Shell
