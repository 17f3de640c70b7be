import DataplaneVerdict.Host.Tool.Basic

/-!
# `Host.Tool.Arguments` — options on a command line

Options are letters behind a dash, several in one word, or names behind two dashes. They may stand behind other
arguments, unless the tool wants the first of those to end them.
-/

namespace DataplaneVerdict.Host.Tool

/-- Whether an option has a value. -/
inductive Valued where
  | no
  | yes
  | maybe
deriving DecidableEq

/-- An option that a tool knows. -/
structure Flag where
  letter : Option Char
  long : String
  valued : Valued

namespace Flag

def plain (letter : Char) (long : String) : Flag := ⟨some letter, long, .no⟩

def withValue (letter : Char) (long : String) : Flag := ⟨some letter, long, .yes⟩

def onlyLetter (letter : Char) : Flag := ⟨some letter, "", .no⟩

def onlyName (long : String) : Flag := ⟨none, long, .no⟩

def onlyNameWithValue (long : String) : Flag := ⟨none, long, .yes⟩

/-- What an option is known by: its name, or its letter if it has none. -/
def key (f : Flag) : String :=
  if f.long.isEmpty then (f.letter.map String.singleton).getD "" else f.long

end Flag

/-- An option as it was given. -/
structure Given where
  key : String
  value : Option Octets
deriving Inhabited

/-- The arguments of a tool, the options in their order. -/
structure Arguments where
  given : List Given := []
  operands : List Octets := []
deriving Inhabited

namespace Arguments

def has (a : Arguments) (key : String) : Bool := a.given.any fun g => g.key = key

def value? (a : Arguments) (key : String) : Option Octets :=
  (a.given.reverse.find? fun g => g.key = key).bind Given.value

def values (a : Arguments) (key : String) : List Octets :=
  a.given.filterMap fun g => if g.key = key then g.value else none

/-- The last one of several options that was given. -/
def last? (a : Arguments) (keys : List String) : Option String :=
  (a.given.reverse.find? fun g => keys.contains g.key).map Given.key

end Arguments

inductive ArgumentProblem where
  | unknownLetter (c : Char)
  | unknownName (word : Octets)
  | letterNeedsValue (c : Char)
  | nameNeedsValue (name : String)
  | nameTakesNone (name : String)

def ArgumentProblem.text : ArgumentProblem → Octets
  | unknownLetter c => "invalid option -- '" ++ String.singleton c ++ "'"
  | unknownName word => "unrecognized option '" ++ word ++ "'"
  | letterNeedsValue c => "option requires an argument -- '" ++ String.singleton c ++ "'"
  | nameNeedsValue name => "option '--" ++ name ++ "' requires an argument"
  | nameTakesNone name => "option '--" ++ name ++ "' doesn't allow an argument"

namespace Arguments

/-- An option that was given by its name; its value may be the next word. -/
def readName (flags : List Flag) (name : String) (value : Option Octets) (rest : List Octets) :
    Except ArgumentProblem (Given × List Octets) :=
  match flags.find? fun f => f.long = name && !name.isEmpty with
  | none => .error (.unknownName ("--" ++ name ++ (value.map ("=" ++ ·)).getD ""))
  | some f =>
    match f.valued, value with
    | .no, some _ => .error (.nameTakesNone f.long)
    | .yes, none =>
      match rest with
      | v :: rest => .ok (⟨f.key, some v⟩, rest)
      | [] => .error (.nameNeedsValue f.long)
    | _, value => .ok (⟨f.key, value⟩, rest)

/-- Options that were given by letters in one word. -/
def readLetters (flags : List Flag) :
    List Char → List Octets → List Given → Except ArgumentProblem (List Given × List Octets)
  | [], rest, found => .ok (found, rest)
  | c :: cs, rest, found =>
    match flags.find? fun f => f.letter = some c with
    | none => .error (.unknownLetter c)
    | some f =>
      match f.valued with
      | .no => readLetters flags cs rest (⟨f.key, none⟩ :: found)
      | .maybe => .ok (⟨f.key, if cs.isEmpty then none else some (String.ofList cs)⟩ :: found, rest)
      | .yes =>
        if !cs.isEmpty then .ok (⟨f.key, some (String.ofList cs)⟩ :: found, rest)
        else
          match rest with
          | v :: rest => .ok (⟨f.key, some v⟩ :: found, rest)
          | [] => .error (.letterNeedsValue c)

/-- All words. `first` says that the first operand ends the options. -/
def readWords (flags : List Flag) (first : Bool) :
    Nat → List Octets → List Given → List Octets → Except ArgumentProblem (List Given × List Octets)
  | 0, _, found, operands => .ok (found, operands)
  | _ + 1, [], found, operands => .ok (found, operands)
  | fuel + 1, w :: rest, found, operands =>
    match w.toList with
    | ['-', '-'] => .ok (found, rest.reverse ++ operands)
    | '-' :: '-' :: cs =>
      let name := cs.takeWhile (· != '=')
      let value := match cs.drop name.length with
        | _ :: v => some (String.ofList v)
        | [] => none
      match readName flags (String.ofList name) value rest with
      | .error e => .error e
      | .ok (g, rest) => readWords flags first fuel rest (g :: found) operands
    | '-' :: c :: cs =>
      match readLetters flags (c :: cs) rest found with
      | .error e => .error e
      | .ok (found, rest) => readWords flags first fuel rest found operands
    | _ =>
      if first then .ok (found, rest.reverse ++ w :: operands)
      else readWords flags first fuel rest found (w :: operands)

def read (flags : List Flag) (first : Bool) (words : List Octets) : Except ArgumentProblem Arguments :=
  (readWords flags first (words.length + 1) words [] []).map fun (found, operands) => ⟨found.reverse, operands.reverse⟩

end Arguments

/-- The arguments of a tool, which ends with a code if they are wrong. -/
def arguments (code : Nat) (flags : List Flag) (words : List Octets) : Tool Arguments := do
  let inOrder := (← setting? "POSIXLY_CORRECT").isSome
  match Arguments.read flags inOrder words with
  | .ok a => pure a
  | .error e => misuse code e.text

/-- The same, for a tool whose options stand first. -/
def leadingArguments (code : Nat) (flags : List Flag) (words : List Octets) : Tool Arguments :=
  match Arguments.read flags true words with
  | .ok a => pure a
  | .error e => misuse code e.text

end DataplaneVerdict.Host.Tool
