/-!
# `Shell.Syntax` — scripts as trees

A script is a sequence of commands. Words keep what was quoted apart from what was not, because expansion treats the two
differently.
-/

namespace DataplaneVerdict.Shell

/-- What is done to a parameter; `orEmpty` treats an empty one as not set. -/
inductive ParamOp where
  | plain
  | length
  | minus (orEmpty : Bool)
  | plus (orEmpty : Bool)
  | question (orEmpty : Bool)
  | assign (orEmpty : Bool)
  | trimLeft (longest : Bool)
  | trimRight (longest : Bool)
  | bad
deriving DecidableEq, Inhabited

inductive OpenKind where
  | input
  | output
  | clobber
  | append
  | both
deriving DecidableEq, Inhabited

mutual

/-- A piece of a word. A mark shows where quotes were. -/
inductive Part where
  | lit (c : Char)
  | quoted (c : Char)
  | mark
  | param (name : String) (op : ParamOp) (arg : List Part)
  | output (c : Option Command)
  | arith (expr : List Part)

/-- A redirection. -/
inductive Redirection where
  | file (fd : Nat) (kind : OpenKind) (name : List Part)
  | duplicate (fd : Nat) (input : Bool) (source : List Part)
  | document (fd : Nat) (id : Nat) (expands : Bool)

/-- A command. -/
inductive Command where
  | simple (line : Nat) (assigns args : List (List Part)) (redirs : List Redirection)
  | pipeline (stages : List Command) (background : Bool)
  | redirected (line : Nat) (c : Command) (redirs : List Redirection)
  | background (line : Nat) (c : Command) (redirs : List Redirection)
  | subshell (line : Nat) (c : Command) (redirs : List Redirection)
  | both (a b : Command)
  | either (a b : Command)
  | sequence (a b : Command)
  | branch (test yes : Command) (no : Option Command)
  | loop (isUntil : Bool) (test body : Command)
  | each (line : Nat) (name : String) (words : List (List Part)) (body : Command)
  | choose (line : Nat) (word : List Part) (cases : List (List (List Part) × Option Command))
  | define (line : Nat) (name : String) (body : Command)
  | negation (c : Command)

end

instance : Inhabited Part := ⟨.mark⟩
instance : Inhabited Command := ⟨.simple 0 [] [] []⟩
instance : Inhabited Redirection := ⟨.document 0 0 false⟩

abbrev Word := List Part

/-- A document that stands in the script. -/
structure Document where
  id : Nat
  body : Word

def isNameStart (c : Char) : Bool := c.isAlpha || c = '_'

def isNameChar (c : Char) : Bool := c.isAlphanum || c = '_'

def isName (s : String) : Bool :=
  match s.toList with
  | [] => false
  | c :: cs => isNameStart c && cs.all isNameChar

def isSpecial (c : Char) : Bool := "!#$*-?@0123456789".toList.contains c

namespace Word

/-- The text of a word in which nothing is special. -/
def plainText? : Word → Option (List Char)
  | [] => some []
  | .lit c :: rest => (plainText? rest).map (c :: ·)
  | _ => none

def bareText : Word → List Char
  | [] => []
  | .lit c :: rest => c :: bareText rest
  | .quoted c :: rest => c :: bareText rest
  | _ :: rest => bareText rest

/-- A word that is an assignment. -/
def assignment? (w : Word) : Option (String × Word) :=
  let rec go (name : List Char) : Word → Option (String × Word)
    | .lit c :: rest =>
      if isNameChar c && (!name.isEmpty || isNameStart c) then go (c :: name) rest
      else if c = '=' && !name.isEmpty then some (String.ofList name.reverse, rest)
      else none
    | _ => none
  go [] w

end Word

end DataplaneVerdict.Shell
