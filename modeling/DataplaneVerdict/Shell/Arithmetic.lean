import DataplaneVerdict.Shell.State

/-!
# `Shell.Arithmetic` — expressions on whole numbers

Numbers are whole and have sixty-four bits; results wrap around. An operand that cannot matter is read but not
evaluated, so it neither assigns nor fails.
-/

namespace DataplaneVerdict.Shell

namespace Arithmetic

/-! ## Numbers -/

def greatest : Int := 9223372036854775807

def least : Int := -9223372036854775808

/-- A result in 64 bits. -/
def wrap (n : Int) : Int := Int.bmod n 18446744073709551616

/-- The nearest number that 64 bits can hold. -/
def clamp (n : Int) : Int := max least (min greatest n)

def digitValue (c : Char) : Nat :=
  if c.isDigit then c.toNat - 48
  else if 'a' ≤ c && c ≤ 'z' then c.toNat - 87
  else if 'A' ≤ c && c ≤ 'Z' then c.toNat - 55
  else 99

def scanDigits (base : Nat) : List Char → Nat → Nat × List Char
  | [], acc => (acc, [])
  | c :: cs, acc => if digitValue c < base then scanDigits base cs (acc * base + digitValue c) else (acc, c :: cs)

/-- A number in the base that its first digits say. -/
def scanUnsigned : List Char → Option (Nat × List Char)
  | '0' :: x :: d :: cs =>
    if (x = 'x' || x = 'X') && digitValue d < 16 then some (scanDigits 16 (d :: cs) 0)
    else some (scanDigits 8 ('0' :: x :: d :: cs) 0)
  | '0' :: cs => some (scanDigits 8 ('0' :: cs) 0)
  | c :: cs => if c.isDigit then some (scanDigits 10 (c :: cs) 0) else none
  | [] => none

def isBlank (c : Char) : Bool := c = ' ' || (9 ≤ c.toNat && c.toNat ≤ 13)

/-- Whether there is a number, the number, and the rest. -/
def scanNumber (base : Nat) (cs : List Char) : Bool × Int × List Char :=
  let start := cs.dropWhile isBlank
  let (negative, digits) := match start with
    | '-' :: rest => (true, rest)
    | '+' :: rest => (false, rest)
    | rest => (false, rest)
  let found : Option (Nat × List Char) :=
    if base = 0 then scanUnsigned digits
    else
      match digits with
      | d :: _ => if digitValue d < base then some (scanDigits base digits 0) else none
      | [] => none
  match found with
  | none => (false, 0, cs)
  | some (n, rest) => (true, if negative then -(n : Int) else n, rest)

/-- A text that is a number and nothing else. -/
def number? (base : Nat) (s : String) : Option Int :=
  let (found, n, rest) := scanNumber base s.toList
  if base ≠ 0 && !found then none
  else if n < least || greatest < n then none
  else if rest.all isBlank then some n
  else none

/-! ## Tokens -/

inductive Tok where
  | num (n : Int)
  | name (s : String)
  | op (s : String)
  | bad
deriving DecidableEq, Inhabited

def operators : List String :=
  ["<<=", ">>=", "<<", ">>", "<=", ">=", "==", "!=", "&&", "||", "+=", "-=", "*=", "/=", "%=", "&=", "|=", "^=",
   "<", ">", "=", "!", "&", "|", "+", "-", "*", "/", "%", "^", "~", "?", ":", "(", ")"]

def tokens : Nat → List Char → List Tok
  | 0, _ => []
  | _ + 1, [] => []
  | fuel + 1, c :: cs =>
    if c = ' ' || c = '\t' || c = '\n' then tokens fuel cs
    else if c.isDigit then
      match scanUnsigned (c :: cs) with
      | some (n, rest) => .num (clamp n) :: tokens fuel rest
      | none => [.bad]
    else if isNameStart c then
      let name := (c :: cs).takeWhile isNameChar
      .name (String.ofList name) :: tokens fuel ((c :: cs).drop name.length)
    else
      match operators.find? fun o => o.toList.isPrefixOf (c :: cs) with
      | some o => .op o :: tokens fuel ((c :: cs).drop o.length)
      | none => [.bad]

/-! ## Evaluation -/

/-- Assignments, and what they compute. -/
def assigning : List (String × String) :=
  [("=", ""), ("+=", "+"), ("-=", "-"), ("*=", "*"), ("/=", "/"), ("%=", "%"), ("&=", "&"), ("|=", "|"), ("^=", "^"),
   ("<<=", "<<"), (">>=", ">>")]

/-- How strongly operators bind. -/
def precedence : List (String × Nat) :=
  [("*", 0), ("/", 0), ("%", 0), ("+", 1), ("-", 1), ("<<", 2), (">>", 2), ("<", 3), ("<=", 3), (">", 3), (">=", 3),
   ("==", 4), ("!=", 4), ("&", 5), ("^", 6), ("|", 7)]

/-- The expression as it is written, and its tokens ahead. -/
structure Pending where
  text : String
  ahead : List Tok

abbrev Eval := StateT Pending Sh

def fail {α : Type} (message : String) : Eval α := do
  let text := (← get).text
  (Sh.error ("arithmetic expression: " ++ message ++ ": \"" ++ text ++ "\"") : Sh α)

def peek : Eval (Option Tok) := do return (← get).ahead.head?

def advance : Eval Unit := modify fun p => { p with ahead := p.ahead.drop 1 }

def truth (b : Bool) : Int := if b then 1 else 0

def unsigned (n : Int) : Nat := (n % 18446744073709551616).toNat

/-- The result of an operator, unless it divides by zero. -/
def compute (op : String) (a b : Int) : Option Int :=
  match op with
  | "*" => some (wrap (a * b))
  | "/" => if b = 0 then none else some (wrap (Int.tdiv a b))
  | "%" => if b = 0 then none else some (wrap (Int.tmod a b))
  | "+" => some (wrap (a + b))
  | "-" => some (wrap (a - b))
  | "<<" => some (wrap (a * (Nat.pow 2 (unsigned b % 64) : Nat)))
  | ">>" => some (Int.fdiv a (Nat.pow 2 (unsigned b % 64) : Nat))
  | "<" => some (truth (a < b))
  | "<=" => some (truth (a ≤ b))
  | ">" => some (truth (b < a))
  | ">=" => some (truth (b ≤ a))
  | "==" => some (truth (a = b))
  | "!=" => some (truth (a ≠ b))
  | "&" => some (wrap (unsigned a &&& unsigned b : Nat))
  | "^" => some (wrap (unsigned a ^^^ unsigned b : Nat))
  | "|" => some (wrap (unsigned a ||| unsigned b : Nat))
  | _ => some b

/-- The same, where `skips` says that the result does not matter. -/
def apply (skips : Bool) (op : String) (a b : Int) : Eval Int :=
  if skips then pure b
  else
    match compute op a b with
    | some n => pure n
    | none => fail "division by zero"

/-- A variable that is not set counts as zero. -/
def variableValue (name : String) : Eval Int := do
  let s ← (get : Sh State)
  let text := s.value name
  match number? 0 text with
  | some n => pure n
  | none => (Sh.error ("Illegal number: " ++ text) : Sh Int)

/-- The levels of an expression. -/
inductive Level where
  | assignment
  | conditional
  | disjunction
  | conjunction
  | binary (weakest : Nat)
  | more (weakest : Nat) (left : Int)
  | primary

/-- The value at a level; where it is skipped nothing is assigned. -/
def eval : Nat → Level → (skips : Bool) → Eval Int
  | 0, _, _ => fail "expecting primary"
  | fuel + 1, .assignment, skips => do
    match (← get).ahead with
    | .name x :: .op o :: rest =>
      match assigning.lookup o with
      | some op => do
        modify fun p => { p with ahead := rest }
        let right ← eval fuel .assignment skips
        if skips then pure right
        else do
          let left ← if op = "" then pure 0 else variableValue x
          let result ← apply false op left right
          (Sh.assign x (toString result) : Sh Unit)
          pure result
      | none => eval fuel .conditional skips
    | _ => eval fuel .conditional skips
  | fuel + 1, .conditional, skips => do
    let a ← eval fuel .disjunction skips
    if (← peek) ≠ some (.op "?") then pure a
    else do
      advance
      let b ← eval fuel .assignment (skips || a = 0)
      if (← peek) ≠ some (.op ":") then fail "expecting ':'"
      advance
      let c ← eval fuel .conditional (skips || a ≠ 0)
      pure (if a ≠ 0 then b else c)
  | fuel + 1, .disjunction, skips => do
    let a ← eval fuel .conjunction skips
    if (← peek) ≠ some (.op "||") then pure a
    else do
      advance
      let b ← eval fuel .disjunction (skips || a ≠ 0)
      pure (truth (a ≠ 0 || b ≠ 0))
  | fuel + 1, .conjunction, skips => do
    let a ← eval fuel (.binary 8) skips
    if (← peek) ≠ some (.op "&&") then pure a
    else do
      advance
      let b ← eval fuel .conjunction (skips || a = 0)
      pure (truth (a ≠ 0 && b ≠ 0))
  | fuel + 1, .binary weakest, skips => do
    let a ← eval fuel .primary skips
    eval fuel (.more weakest a) skips
  | fuel + 1, .more weakest a, skips => do
    match ← peek with
    | some (.op o) =>
      match precedence.lookup o with
      | none => pure a
      | some p =>
        if weakest ≤ p then pure a
        else do
          advance
          let b ← eval fuel (.binary p) skips
          let c ← apply skips o a b
          eval fuel (.more weakest c) skips
    | _ => pure a
  | fuel + 1, .primary, skips => do
    let t ← peek
    advance
    match t with
    | some (.op "(") => do
      let a ← eval fuel .assignment skips
      if (← peek) ≠ some (.op ")") then fail "expecting ')'"
      advance
      pure a
    | some (.num n) => pure n
    | some (.name x) => if skips then pure 0 else variableValue x
    | some (.op "+") => eval fuel .primary skips
    | some (.op "-") => do
      let a ← eval fuel .primary skips
      pure (wrap (-a))
    | some (.op "!") => do
      let a ← eval fuel .primary skips
      pure (truth (a = 0))
    | some (.op "~") => do
      let a ← eval fuel .primary skips
      pure (-a - 1)
    | _ => fail "expecting primary"

/-- The value of an expression. -/
def evaluate (text : String) : Sh Int := do
  let ahead := tokens (text.length + 1) text.toList
  let whole : Eval Int := do
    let n ← eval (8 * text.length + 16) .assignment false
    if (← get).ahead.isEmpty then pure n else fail "expecting EOF"
  let (n, _) ← whole ⟨text, ahead⟩
  pure n

end Arithmetic

end DataplaneVerdict.Shell
