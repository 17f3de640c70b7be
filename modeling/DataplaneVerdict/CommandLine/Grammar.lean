import DataplaneVerdict.Text.Search

/-!
# `CommandLine.Grammar` — options and operands

Arguments are split into options that a command knows, operands, and the rest: from the first unknown option on,
whatever is not a known option may belong to a subcommand and is kept in order.

## Contents
- **Descriptions.** `OptionSpec`, `ArgumentSpec`, `CommandSpec`.
- **Splitting.** `Split`, `Grammar.split`.
-/

namespace DataplaneVerdict

structure OptionSpec where
  /-- how help shows it -/
  flags : String
  short : Option String
  long : String
  takesValue : Bool
  description : String
  standard : Option String := none
deriving DecidableEq

structure ArgumentSpec where
  name : String
  usage : String
  description : String
deriving DecidableEq

/-- A command: what help says about it and which options it knows. -/
structure CommandSpec where
  name : String
  description : String
  arguments : List ArgumentSpec := []
  options : List OptionSpec := []
deriving DecidableEq

structure Split where
  /-- known options in order, with their values -/
  given : List (OptionSpec × String) := []
  operands : List String := []
  unknown : List String := []
  /-- an option at which the splitting stopped, because its value is missing -/
  missing : Option OptionSpec := none

namespace Split

/-- The last value given for an option. -/
def value? (s : Split) (o : OptionSpec) : Option String :=
  (s.given.reverse.find? fun g => g.1 = o).map (·.2)

/-- Keeps an argument that is no known option; once something is unknown, all that follows is. -/
def keep (s : Split) (inUnknown : Bool) (args : List String) : Split :=
  if inUnknown then { s with unknown := s.unknown ++ args } else { s with operands := s.operands ++ args }

end Split

namespace Grammar

def isOption (arg : String) : Bool := 1 < arg.length && Text.startsWith arg "-"

/-- The option that an argument names exactly. -/
def find? (options : List OptionSpec) (arg : String) : Option OptionSpec :=
  options.find? fun o => o.short = some arg || o.long = arg

/-- A short option with something directly behind it. -/
def cluster? (options : List OptionSpec) (arg : String) : Option (OptionSpec × String) :=
  match arg.toList with
  | '-' :: c :: d :: rest =>
    if c = '-' then none else (find? options (String.ofList ['-', c])).map fun o => (o, String.ofList (d :: rest))
  | _ => none

/-- A long option with its value behind an equals sign. -/
def assigned? (options : List OptionSpec) (arg : String) : Option (OptionSpec × String) :=
  let cs := arg.toList
  let name := cs.takeWhile (· != '=')
  if Text.startsWith arg "--" && 2 < name.length && name.length < cs.length then
    match find? options (String.ofList name) with
    | some o => if o.takesValue then some (o, String.ofList (cs.drop (name.length + 1))) else none
    | none => none
  else none

/-- Splits arguments one by one. -/
def splitFrom (options : List OptionSpec) : Nat → Bool → Split → List String → Split
  | 0, _, s, _ => s
  | _ + 1, _, s, [] => s
  | fuel + 1, inUnknown, s, arg :: rest =>
    if arg = "--" then s.keep inUnknown (if inUnknown then arg :: rest else rest)
    else
      match (if isOption arg then find? options arg else none) with
      | some o =>
        if o.takesValue then
          match rest with
          | [] => { s with missing := some o }
          | v :: rest => splitFrom options fuel inUnknown { s with given := s.given ++ [(o, v)] } rest
        else splitFrom options fuel inUnknown { s with given := s.given ++ [(o, "")] } rest
      | none =>
        match cluster? options arg with
        | some (o, tail) =>
          if o.takesValue then splitFrom options fuel inUnknown { s with given := s.given ++ [(o, tail)] } rest
          else splitFrom options fuel inUnknown { s with given := s.given ++ [(o, "")] } (("-" ++ tail) :: rest)
        | none =>
          match assigned? options arg with
          | some (o, v) => splitFrom options fuel inUnknown { s with given := s.given ++ [(o, v)] } rest
          | none =>
            let inUnknown := inUnknown || isOption arg
            splitFrom options fuel inUnknown (s.keep inUnknown [arg]) rest

/-- How many steps splitting can take. -/
def steps (args : List String) : Nat := args.foldl (fun n a => n + a.length + 1) 1

def split (options : List OptionSpec) (args : List String) : Split := splitFrom options (steps args) false {} args

end Grammar

end DataplaneVerdict
