import DataplaneVerdict.Shell.Evaluation

/-!
# `Shell.Startup` — a shell as a program

A shell gets its commands from an argument, from a file, or from its standard input.
-/

namespace DataplaneVerdict.Shell

open Host

namespace Startup

def standardVariables : List (String × Variable) :=
  [("OPTIND", { value := some "1" }), ("PS4", { value := some "+ " }), ("PS2", { value := some "> " }),
   ("PS1", { value := some "# " }), ("PATH", { value := some Lookup.standardPath }), ("MAILPATH", {}), ("MAIL", {}),
   ("IFS", { value := some " \t\n" })]

def setValue (s : State) (name value : String) : State := s.modifyVariable name fun v => { v with value := some value }

/-- The variables of the environment are exported. -/
def withVariables (s : State) (environment : List (String × String)) : State :=
  let s := environment.foldl (fun s (name, value) =>
    if isName name then s.modifyVariable name fun v => { v with value := some value, isExported := true } else s)
    { s with vars := standardVariables }
  setValue (setValue (setValue s "IFS" " \t\n") "OPTIND" "1") "PPID" (toString s.parentPid)

/-- Takes the directory from the environment if it is right. -/
def findDirectory : Sh Unit := do
  let given := (← get).value "PWD"
  let isHere ← Sh.act (Act.look fun d v =>
    match d.find v .target given with
    | .ok i => i = v.cwd
    | .error _ => false)
  Directory.note (if isHere && given.toList.head? = some '/' then some given else none)

def fromDescriptor (go : Eval) (fd : Nat) : Sh Unit := do
  let _ ← Evaluation.commands go {} true Act.fuel 0 ⟨{ text := [] }, some fd, true⟩

/-- What a shell runs: a text, a file, or its input. -/
def start (go : Eval) (args : List String) : Sh Unit := do
  findDirectory
  let (rest, given) ← Options.apply true (args.length + 1) args {}
  if (← get).hasOption "interactive" then Options.turn true "monitor"
  if given.hasText then
    match rest with
    | [] => Sh.error "-c requires an argument"
    | text :: rest => do
      match rest with
      | [] => pure ()
      | name :: args => modify fun s => { s with name := name, arguments := args }
      let _ ← Evaluation.text go { exits := !(← get).hasOption "stdin" } text
      if (← get).hasOption "stdin" then fromDescriptor go 0
  else if rest.isEmpty || (← get).hasOption "stdin" then do
    Options.turn true "stdin"
    modify fun s => { s with arguments := rest }
    fromDescriptor go 0
  else
    match rest with
    | [] => pure ()
    | script :: args => do
      let fd ← Evaluation.openScript script
      modify fun s => { s with name := script, arguments := args }
      fromDescriptor go fd

/-- A shell. -/
def main (exec : Exec) (args : List String) (environment : List (String × String)) : Act Nat := do
  let pid ← Act.ask .pid
  let parent ← Act.ask .parent
  let mut ignored : List Nat := []
  for n in List.range Signal.greatest do
    if (← Act.ask (.disposition ⟨n + 1⟩)) = .ignored then ignored := (n + 1) :: ignored
  let s : State :=
    { name := args.head?.getD "sh", pid := pid, parentPid := parent, line := 0, ignoredAtStart := ignored }
  let go := evaluate exec mostNested
  Evaluation.finish go (start go (args.drop 1)) (withVariables s environment)

end Startup

end DataplaneVerdict.Shell
