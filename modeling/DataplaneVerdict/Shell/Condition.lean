import DataplaneVerdict.Host.FileTest
import DataplaneVerdict.Shell.Builtin

/-!
# `Shell.Condition` — conditions on texts, numbers and files
-/

namespace DataplaneVerdict.Shell

open Host

namespace Condition

/-- What a word can be in a condition. -/
inductive Kind where
  | unary
  | binary
  | negation
  | conjunction
  | disjunction
  | leftParen
  | rightParen
deriving DecidableEq

def unaryOperators : List String :=
  ["-r", "-w", "-x", "-e", "-f", "-d", "-c", "-b", "-p", "-u", "-g", "-k", "-s", "-t", "-z",
   "-n", "-h", "-O", "-G", "-L",
   "-S"]

def binaryOperators : List String :=
  ["=", "!=", "<", ">", "-eq", "-ne", "-ge", "-gt", "-le", "-lt", "-nt", "-ot", "-ef"]

def kindOf (s : String) : Option Kind :=
  if unaryOperators.contains s then some .unary
  else if binaryOperators.contains s then some .binary
  else if s = "!" then some .negation
  else if s = "-a" then some .conjunction
  else if s = "-o" then some .disjunction
  else if s = "(" then some .leftParen
  else if s = ")" then some .rightParen
  else none

/-- Whether a file passes a test. -/
def fileTest (t : FileTest) (path : String) : Sh Bool := do
  match ← Sh.act (Act.stat path t.reach) with
  | .error _ => pure false
  | .ok st => pure (st.passes t)

def integer (s : String) : Sh Int :=
  match Arithmetic.number? 10 s with
  | some n => pure n
  | none => Sh.error ("Illegal number: " ++ s)

def unary (op operand : String) : Sh Bool :=
  match op with
  | "-z" => pure operand.isEmpty
  | "-n" => pure !operand.isEmpty
  | "-t" => do
    let _ ← integer operand
    pure false
  | _ =>
    match (op.toList.drop 1).head?.bind FileTest.ofLetter? with
    | some t => fileTest t operand
    | none => pure false

def binary (op a b : String) : Sh Bool := do
  let compared (p : Int → Int → Bool) : Sh Bool := do
    let m ← integer a
    let n ← integer b
    pure (p m n)
  let files (p : Disk.Stat → Disk.Stat → Bool) : Sh Bool := do
    match ← Sh.act (Act.stat a .target), ← Sh.act (Act.stat b .target) with
    | .ok s, .ok t => pure (p s t)
    | _, _ => pure false
  match op with
  | "=" => pure (a = b)
  | "!=" => pure (a ≠ b)
  | "<" => pure (a < b)
  | ">" => pure (b < a)
  | "-eq" => compared fun m n => m = n
  | "-ne" => compared fun m n => m ≠ n
  | "-ge" => compared fun m n => n ≤ m
  | "-gt" => compared fun m n => n < m
  | "-le" => compared fun m n => m ≤ n
  | "-lt" => compared fun m n => m < n
  | "-nt" => files fun s t => t.inode.modified < s.inode.modified
  | "-ot" => files fun s t => s.inode.modified < t.inode.modified
  | _ => files fun s t => s.ino = t.ino

/-- Reading a condition word by word. -/
abbrev Eval := StateT (List String) Sh

def refuse {α : Type} (op message : String) : Eval α :=
  (Sh.error (if op.isEmpty then message else op ++ ": " ++ message) : Sh α)

def kindAt (ws : List String) : Option Kind :=
  match ws with
  | [] => none
  | w :: rest =>
    match kindOf w with
    | some .unary =>
      match rest with
      | [] => none
      | [_] => some .unary
      | next :: _ :: _ => if kindOf next = some .binary then none else some .unary
    | some .leftParen => if rest.isEmpty then none else some .leftParen
    | k => k

def ahead : Eval (List String) := get

def skip (n : Nat) : Eval Unit := modify fun ws => ws.drop n

/-- The levels of a condition. -/
inductive Level where
  | disjunction
  | conjunction
  | negation
  | primary

/-- Whether a condition holds. -/
def eval : Nat → Level → (kind : Option Kind) → Eval Bool
  | 0, _, _ => pure false
  | fuel + 1, .disjunction, kind => do
    let a ← eval fuel .conjunction kind
    if kindAt ((← ahead).drop 1) = some .disjunction then do
      skip 2
      let b ← eval fuel .disjunction (kindAt (← ahead))
      pure (a || b)
    else pure a
  | fuel + 1, .conjunction, kind => do
    let a ← eval fuel .negation kind
    if kindAt ((← ahead).drop 1) = some .conjunction then do
      skip 2
      let b ← eval fuel .conjunction (kindAt (← ahead))
      pure (a && b)
    else pure a
  | fuel + 1, .negation, kind => do
    if kind ≠ some .negation then eval fuel .primary kind
    else do
      let rest := (← ahead).drop 1
      if !rest.isEmpty then skip 1
      let a ← if rest.isEmpty then pure false else eval fuel .negation (kindAt rest)
      pure !a
  | fuel + 1, .primary, kind => do
    match ← ahead with
    | [] => pure false
    | w :: rest =>
      match kind with
      | some .leftParen => do
        skip 1
        if kindAt rest = some .rightParen then pure false
        else do
          let a ← eval fuel .disjunction (kindAt rest)
          skip 1
          if kindAt (← ahead) ≠ some .rightParen then refuse "" "closing paren expected"
          pure a
      | some .unary =>
        match rest with
        | [] => refuse w "argument expected"
        | operand :: _ => do
          skip 1
          (unary w operand : Sh Bool)
      | _ =>
        match rest with
        | op :: more =>
          if kindAt rest = some .binary then
            match more with
            | [] => refuse op "argument expected"
            | b :: _ => do
              skip 2
              (binary op w b : Sh Bool)
          else pure !w.isEmpty
        | [] => pure !w.isEmpty

/-- Few words are understood by their number. -/
def evaluateWords (fuel : Nat) (negated : Bool) (ws : List String) : Sh Nat :=
  match fuel with
  | 0 => pure 2
  | fuel + 1 =>
    let finish (kind : Option Kind) (ws : List String) : Sh Nat := do
      let (holds, rest) ← (eval (8 * ws.length + 16) .disjunction kind) ws
      match rest with
      | w :: _ :: _ => Sh.error (if w.isEmpty then "unexpected operator" else w ++ ": unexpected operator")
      | _ => pure (if holds != negated then 0 else 1)
    let general : Sh Nat :=
      if ws.head? = some "(" && ws.getLast? = some ")" && (ws.length = 3 || ws.length = 4) then
        let inner := (ws.drop 1).dropLast
        finish (kindAt inner) inner
      else if ws.head? = some "!" && (ws.length = 3 || ws.length = 4) then evaluateWords fuel true (ws.drop 1)
      else finish (kindAt ws) ws
    match ws with
    | [] => pure (if negated then 0 else 1)
    | [_, op, _] => if kindOf op = some .binary then finish none ws else general
    | _ => general

/-- `test`, also under its name that wants a closing bracket. -/
def evaluate (name : String) (args : List String) : Sh Nat := do
  if name = "[" then
    if ((args.getLast?.getD "").toList.head?) ≠ some ']' then Sh.error "missing ]"
    else evaluateWords (args.length + 2) false args.dropLast
  else evaluateWords (args.length + 2) false args

end Condition

end DataplaneVerdict.Shell
