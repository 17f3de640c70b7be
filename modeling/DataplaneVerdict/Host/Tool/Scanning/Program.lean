import DataplaneVerdict.Host.Octets
import DataplaneVerdict.Regex.Automaton

/-!
# `Host.Tool.Scanning.Program` — programs that scan records

A program is a list of rules. The text is read record by record, and each rule whose pattern selects the record is
carried out. Rules of their own stand before the first record and behind the last one.
-/

namespace DataplaneVerdict.Host.Tool.Scanning

/-! ## Expressions -/

/-- An expression, as it was written and as it is searched for. -/
structure Pattern where
  source : Octets
  automaton : Automaton

inductive Arithmetic where
  | add
  | sub
  | mul
  | div
deriving DecidableEq

inductive Relation where
  | less
  | lessEq
  | equal
  | notEqual
  | greaterEq
  | greater
deriving DecidableEq

/-- Expressions. -/
inductive Expr where
  | number (x : Float)
  | text (s : Octets)
  | found (p : Pattern)
  | var (name : String)
  | element (table : String) (key : Expr)
  | field (n : Expr)
  | assign (target : Expr) (op : Option Arithmetic) (value : Expr)
  | either (a b : Expr)
  | both (a b : Expr)
  | negation (a : Expr)
  | isMatch (text pattern : Expr) (negated : Bool)
  | compare (r : Relation) (a b : Expr)
  | join (a b : Expr)
  | arithmetic (op : Arithmetic) (a b : Expr)
  | minus (a : Expr)
  | step (target : Expr) (isUp isBefore : Bool)

instance : Inhabited Expr := ⟨.number 0⟩

/-! ## Statements -/

/-- Statements. -/
inductive Statement where
  | value (e : Expr)
  | print (args : List Expr) (out : Option Expr)
  | choose (condition : Expr) (yes : Statement) (no : Option Statement)
  | block (body : List Statement)
  | nextRecord
  | exit (code : Option Expr)

instance : Inhabited Statement := ⟨.block []⟩

/-! ## Programs -/

/-- What is done for which records. -/
structure Rule where
  condition : Option Expr
  body : Option Statement

/-- A program: what is done first, for records, and last. -/
structure Program where
  before : List Statement := []
  rules : List Rule := []
  after : List Statement := []

end DataplaneVerdict.Host.Tool.Scanning
