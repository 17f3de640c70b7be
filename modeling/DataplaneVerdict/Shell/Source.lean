import DataplaneVerdict.Shell.Syntax

/-!
# `Shell.Source` — the text that a shell reads

A shell reads its text character by character. The value of an alias is put in front of what is still to be read, and a
backslash at the end of a line joins it with the next.
-/

namespace DataplaneVerdict.Shell

/-- The units of a script. -/
inductive Token where
  | eof
  | newline
  | semi
  | ampersand
  | andAnd
  | orOr
  | bar
  | leftParen
  | rightParen
  | endCase
  | redirection
  | word
  | keyword (text : String)
deriving DecidableEq, Inhabited

namespace Token

def name : Token → String
  | eof => "end of file"
  | newline => "newline"
  | semi => "\";\""
  | ampersand => "\"&\""
  | andAnd => "\"&&\""
  | orOr => "\"||\""
  | bar => "\"|\""
  | leftParen => "\"(\""
  | rightParen => "\")\""
  | endCase => "\";;\""
  | redirection => "redirection"
  | word => "word"
  | keyword text => "\"" ++ text ++ "\""

/-- Words with a meaning where a command can begin. -/
def keywords : List String :=
  ["!", "case", "do", "done", "elif", "else", "esac", "fi", "for", "if", "in", "then", "until", "while", "\x7b", "\x7d"]

def endsList : Token → Bool
  | eof => true
  | rightParen => true
  | endCase => true
  | keyword text => ["do", "done", "elif", "else", "esac", "fi", "then", "\x7d"].contains text
  | _ => false

end Token

structure SyntaxError where
  line : Nat
  message : String

/-- What a word is looked at for. -/
structure Check where
  newlines : Bool := false
  keywords : Bool := false
  aliases : Bool := false
  mark : Bool := false

/-- A text that is read before the others; it may be the value of an alias. -/
structure Pushed where
  text : List Char
  origin : Option String
  last : Char

/-- A document whose text is still to come. -/
structure Announced where
  id : Nat
  mark : List Char
  stripsTabs : Bool
  expands : Bool

/-- A redirection whose target is still to come. -/
inductive Opening where
  | file (fd : Nat) (kind : OpenKind)
  | duplicate (fd : Nat) (input : Bool)
  | document (fd : Nat) (stripsTabs : Bool)
deriving Inhabited

/-- What is being read. `isDry` says that more text was wanted. -/
structure Reading where
  text : List Char
  pushed : List Pushed := []
  line : Nat := 1
  aliases : List (String × String) := []
  check : Check := {}
  last : Token := .eof
  isHeld : Bool := false
  word : Word := []
  isQuoted : Bool := false
  opening : Opening := default
  announced : List Announced := []
  documents : List Document := []
  nextDocument : Nat := 0
  isDry : Bool := false

abbrev Read := StateT Reading (Except SyntaxError)

namespace Read

def fuel : Nat := 1000000000

def fail {α : Type} (message : String) : Read α := do
  throw ⟨(← get).line, "Syntax error: " ++ message⟩

def unexpected {α : Type} (expected : Option Token) : Read α := do
  let seen := (← get).last.name ++ " unexpected"
  fail (match expected with
    | none => seen
    | some t => seen ++ " (expecting " ++ t.name ++ ")")

/-- Behind an alias that ends with a blank the next word may be one too. -/
def fromPushed (r : Reading) : List Pushed → Option Char × Reading
  | [] =>
    match r.text with
    | [] => (none, { r with pushed := [], isDry := true })
    | c :: cs => (some c, { r with pushed := [], text := cs })
  | p :: rest =>
    match p.text with
    | c :: cs => (some c, { r with pushed := { p with text := cs, last := c } :: rest })
    | [] =>
      let r := if p.origin.isSome && (p.last = ' ' || p.last = '\t') then
        { r with check := { r.check with aliases := true } } else r
      fromPushed r rest

def getc : Read (Option Char) :=
  modifyGet fun r => fromPushed r r.pushed

def ungetc : Option Char → Read Unit
  | none => pure ()
  | some c => modify fun r =>
    match r.pushed with
    | p :: rest => { r with pushed := { p with text := c :: p.text } :: rest }
    | [] => { r with text := c :: r.text }

def push (text : List Char) (origin : Option String) : Read Unit :=
  modify fun r => { r with pushed := ⟨text, origin, '\x00'⟩ :: r.pushed }

def newLine : Read Unit := modify fun r => { r with line := r.line + 1 }

/-- The next character behind joined lines. -/
def joined : Nat → Read (Option Char)
  | 0 => pure none
  | fuel + 1 => do
    match ← getc with
    | some '\\' =>
      match ← getc with
      | some '\n' => do
        newLine
        joined fuel
      | c => do
        ungetc c
        pure (some '\\')
    | c => pure c

def getJoined : Read (Option Char) := joined fuel

def hold : Read Unit := modify fun r => { r with isHeld := true }

def setCheck (c : Check) : Read Unit := modify fun r => { r with check := c }

end Read

end DataplaneVerdict.Shell
