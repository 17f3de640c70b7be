import DataplaneVerdict.Shell.Builtin

/-!
# `Shell.Variables` — builtins on variables, arguments and aliases
-/

namespace DataplaneVerdict.Shell

open Host

namespace Variables

/-! ## Listing -/

def written (name : String) (v : Variable) : String :=
  match v.value with
  | some value => name ++ "=" ++ Builtin.singleQuoted value
  | none => name

/-- Lists variables in order. -/
def list (word : String) (p : Variable → Bool) : Sh Unit := do
  let shown := (← get).vars.filter fun v => p v.2
  for (name, v) in shown.mergeSort fun a b => decide (a.1 ≤ b.1) do
    Sh.print (word ++ written name v ++ "\n")

def split (arg : String) : String × Option String :=
  let name := arg.toList.takeWhile (· != '=')
  match arg.toList.drop name.length with
  | '=' :: value => (String.ofList name, some (String.ofList value))
  | _ => (arg, none)

/-! ## Marks -/

/-- `export` and `readonly`. -/
def mark (word : String) (set : Variable → Variable) (isSet : Variable → Bool) (args : List String) : Sh Nat := do
  let (options, args) ← Builtin.options "p" args
  if !options.isEmpty || args.isEmpty then list (word ++ " ") isSet
  else
    for a in args do
      match split a with
      | (name, some value) => do
        Sh.assign name value
        modify fun s => s.modifyVariable name set
      | (name, none) => do
        if !isName name then Sh.checkAssignable name
        modify fun s => s.modifyVariable name set
  pure 0

/-! ## Scope -/

/-- Makes a variable local to a function. -/
def makeLocal (exports : Bool) (arg : String) : Sh Unit := do
  let s ← get
  let remember (v : LocalValue) : Sh Unit :=
    modify fun s =>
      match s.locals with
      | top :: rest => { s with locals := (v :: top) :: rest }
      | [] => s
  if arg = "-" then remember (.options s.options)
  else do
    let (name, value) := split arg
    match value with
    | some value => Sh.assign name value
    | none =>
      if (s.var? name).isNone then do
        Sh.checkAssignable name
        modify fun s => s.modifyVariable name id
    if exports then modify fun s => s.modifyVariable name fun v => { v with isExported := true }
    remember (.named name (s.var? name))

def local_ (args : List String) : Sh Nat := do
  if (← get).locals.isEmpty then Sh.error "not in a function"
  for a in args do
    makeLocal false a
  pure 0

/-- Puts back what was there before. -/
def putBack : LocalValue → Sh Unit
  | .options old => modify fun s => { s with options := old }
  | .named name none => modify fun s => s.removeVariable name
  | .named name (some old) => do
    modify fun s => s.modifyVariable name fun _ => old
    Sh.noteChange name (old.value.getD "")

/-- Leaves scopes down to a depth. -/
def endScope (depth : Nat) : Nat → Sh Unit
  | 0 => pure ()
  | fuel + 1 => do
    match (← get).locals with
    | [] => pure ()
    | top :: rest =>
      if rest.length < depth then pure ()
      else do
        modify fun s => { s with locals := rest }
        for v in top do
          putBack v
        endScope depth fuel

def unset (args : List String) : Sh Nat := do
  let (options, names) ← Builtin.options "vf" args
  let functions := (options.getLast?.map fun o => decide (o.1 = 'f')).getD false
  for name in names do
    if functions then modify fun s => { s with functions := s.functions.filter fun f => f.1 ≠ name }
    else Sh.unset name
  pure 0

/-! ## Arguments -/

def setArguments (args : List String) : Sh Unit :=
  modify fun s => { s with arguments := args, optionIndex := 1, optionOffset := none }

def shift (args : List String) : Sh Nat := do
  let n ← match args with
    | [] => pure 1
    | a :: _ => Builtin.number a
  let current := (← get).arguments
  if (current.length : Int) < n then Sh.error "can't shift that many"
  setArguments (current.drop n.toNat)
  pure 0

/-- An option that was found, and where the next one is. -/
structure OptionFound where
  letter : Char
  argument : Option String
  complaint : Option String := none
  index : Nat
  offset : Option Nat

def lettersOf (arg : Option String) : Option (List Char) :=
  match arg.map String.toList with
  | some ('-' :: c :: cs) => some (c :: cs)
  | _ => none

/-- Whether a letter is an option, and whether it has a value. -/
def specified (spec : List Char) (c : Char) : Option Bool :=
  let rec go : List Char → Option Bool
    | [] => none
    | [x] => if x = c then some false else none
    | x :: ':' :: rest => if x = c then some true else go rest
    | x :: y :: rest => if x = c then some false else go (y :: rest)
  go spec

/-- Reads one letter of an option word. -/
def readLetter (spec : List Char) (args : List String) (index : Nat) (word : List Char)
    (rest : List Char) : OptionFound :=
  let isQuiet := spec.head? = some ':'
  match rest with
  | [] => ⟨'?', none, none, index, none⟩
  | c :: cs =>
    let offset : Option Nat := some (word.length - cs.length)
    match specified spec c with
    | none =>
      if isQuiet then ⟨'?', some (String.singleton c), none, index, offset⟩
      else ⟨'?', none, some ("Illegal option -" ++ String.singleton c ++ "\n"), index, offset⟩
    | some false => ⟨c, some "", none, index, offset⟩
    | some true =>
      if !cs.isEmpty then ⟨c, some (String.ofList cs), none, index, none⟩
      else
        match args[index - 1]? with
        | some a => ⟨c, some a, none, index + 1, none⟩
        | none =>
          if isQuiet then ⟨':', some (String.singleton c), none, index, none⟩
          else ⟨'?', none, some ("No arg for -" ++ String.singleton c ++ " option\n"), index, none⟩

/-- The next option, or where the operands start. -/
def nextOption (spec : List Char) (args : List String) (index : Nat) (offset : Option Nat) : Except Nat OptionFound :=
  let previous := (args[index - 2]?.getD "").toList
  let rest : List Char := match offset with
    | some n => if index ≤ 1 || previous.length < n then [] else previous.drop n
    | none => []
  if !rest.isEmpty then .ok (readLetter spec args index previous rest)
  else
    let arg := args[index - 1]?
    match lettersOf arg with
    | none => .error index
    | some ['-'] => .error (index + 1)
    | some letters => .ok (readLetter spec args (index + 1) (arg.getD "").toList letters)

/-- `getopts`: the options of a script. -/
def getopts (args : List String) : Sh Nat := do
  let (_, args) ← Builtin.options "" args
  match args with
  | spec :: name :: own => do
    let s ← get
    let args := if own.isEmpty then s.arguments else own
    let (index, offset) := if args.length + 1 < s.optionIndex then (1, none) else (s.optionIndex, s.optionOffset)
    let finish (letter : Char) (index : Nat) (offset : Option Nat) : Sh Unit := do
      Sh.checkAssignable "OPTIND"
      modify fun s => s.modifyVariable "OPTIND" fun v => { v with value := some (toString index) }
      Sh.assign name (String.singleton letter)
      modify fun s => { s with optionIndex := index, optionOffset := offset }
    match nextOption spec.toList args index offset with
    | .error index => do
      finish '?' index none
      pure 1
    | .ok found => do
      match found.complaint with
      | some text => Sh.put 2 text
      | none => pure ()
      match found.argument with
      | some a => Sh.assign "OPTARG" a
      | none => Sh.unset "OPTARG"
      finish found.letter found.index found.offset
      pure 0
  | _ => Sh.error "Usage: getopts optstring var [arg...]"

/-! ## Aliases -/

def defineAlias (name value : String) : Sh Unit :=
  modify fun s =>
    if (s.aliases.lookup name).isSome then
      { s with aliases := s.aliases.map fun a => if a.1 = name then (name, value) else a }
    else { s with aliases := s.aliases ++ [(name, value)] }

/-- `alias`: sets and shows aliases. -/
def aliases (args : List String) : Sh Nat := do
  let mut status := 0
  for arg in args do
    match split arg with
    | ("", some _) => status ← tellAlias arg status
    | (name, some value) => defineAlias name value
    | (_, none) => status ← tellAlias arg status
  pure status
where
  tellAlias (name : String) (status : Nat) : Sh Nat := do
    match (← get).aliases.lookup name with
    | some value => do
      Sh.print (name ++ "=" ++ Builtin.singleQuoted value ++ "\n")
      pure status
    | none => do
      Sh.put 2 ("alias: " ++ name ++ " not found\n")
      pure 1

def unalias (args : List String) : Sh Nat := do
  let (options, names) ← Builtin.options "a" args
  if !options.isEmpty then do
    modify fun s => { s with aliases := [] }
    pure 0
  else do
    let mut status := 0
    for name in names do
      if ((← get).aliases.lookup name).isSome then
        modify fun s => { s with aliases := s.aliases.filter fun a => a.1 ≠ name }
      else do
        Sh.put 2 ("unalias: " ++ name ++ " not found\n")
        status := 1
    pure status

end Variables

end DataplaneVerdict.Shell
