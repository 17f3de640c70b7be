import DataplaneVerdict.Shell.Variables

/-!
# `Shell.Options` — options, and permissions for new files
-/

namespace DataplaneVerdict.Shell

open Host

namespace Options

def names : List String := Expansion.optionLetters.map (·.1) ++ ["nolog", "debug"]

/-- Turns an option on or off. There is no terminal, so jobs cannot be controlled. -/
def turn (on : Bool) (name : String) : Sh Unit := do
  modify fun s =>
    let others := s.options.filter (· ≠ name)
    { s with options := if on then name :: others else others }
  if on && name = "monitor" then do
    Sh.warn "can't access tty; job control turned off"
    modify fun s => { s with options := s.options.filter (· ≠ name) }

def turnLetter (on : Bool) (letter : Char) : Sh Unit :=
  match Expansion.optionLetters.find? fun o => o.2 = letter with
  | some (name, _) => turn on name
  | none => Sh.error ("Illegal option -" ++ String.singleton letter)

def turnNamed (on : Bool) : Option String → Sh Unit
  | some name => if names.contains name then turn on name else Sh.error ("Illegal option -o " ++ name)
  | none => pure ()

/-- What only the call of a shell can ask for. -/
structure Given where
  hasText : Bool := false
  isLogin : Bool := false

/-- Options in one word. -/
def letters (atStart on : Bool) : List Char → List String → Given → Sh (List String × Given)
  | [], args, given => pure (args, given)
  | c :: cs, args, given => do
    if c = 'c' && atStart then letters atStart on cs args { given with hasText := true }
    else if c = 'l' && atStart then letters atStart on cs args { given with isLogin := true }
    else if c = 'o' then do
      turnNamed on args.head?
      letters atStart on cs (args.drop 1) given
    else do
      turnLetter on c
      letters atStart on cs args given

/-- Options up to the first argument. -/
def apply (atStart : Bool) : Nat → List String → Given → Sh (List String × Given)
  | 0, args, given => pure (args, given)
  | _ + 1, [], given => pure ([], given)
  | fuel + 1, a :: rest, given => do
    match a.toList with
    | ['-'] => do
      if !atStart then do
        turn false "xtrace"
        turn false "verbose"
      pure (rest, given)
    | ['-', '-'] => do
      if !atStart && rest.isEmpty then Variables.setArguments []
      pure (rest, given)
    | '-' :: cs => do
      let (rest, given) ← letters atStart true cs rest given
      apply atStart fuel rest given
    | '+' :: cs => do
      let (rest, given) ← letters atStart false cs rest given
      apply atStart fuel rest given
    | _ => pure (a :: rest, given)

/-- `set`: options and arguments. -/
def set (args : List String) : Sh Nat := do
  if args.isEmpty then Variables.list "" fun v => v.value.isSome
  else do
    let (rest, _) ← apply false (args.length + 1) args {}
    if !rest.isEmpty then Variables.setArguments rest
  pure 0

/-! ## Permissions -/

def octal (mode : Nat) : String :=
  let ds := Nat.toDigits 8 mode
  String.ofList (List.replicate (4 - ds.length) '0' ++ ds)

/-- `umask`: which permissions new files do not get. -/
def umask (args : List String) : Sh Nat := do
  let (_, args) ← Builtin.options "" args
  match args with
  | [] => do Sh.print (octal (← Sh.ask (.umask none)) ++ "\n")
  | a :: _ => do
    if !a.toList.all Builtin.isOctal then Sh.error ("Illegal number: " ++ a)
    let new := a.toList.foldl (fun n c => n * 8 + (c.toNat - 48)) 0
    let _ ← Sh.ask (.umask (some (new % 0o1000)))
  pure 0

end Options

end DataplaneVerdict.Shell
