import DataplaneVerdict.Host.Tool.Scanning.Finding
import DataplaneVerdict.Host.Tool.Scanning.Token

/-!
# `Host.Tool.Scanning.Grammar` — reading scanning programs

The first mistake ends the reading.
-/

namespace DataplaneVerdict.Host.Tool.Scanning

namespace Grammar

/-! ## State -/

/-- Where a statement stands. -/
inductive Scope where
  | before
  | records
  | after
deriving DecidableEq

/-- What is being read. -/
structure Parsing where
  ahead : List Lexeme
  isPrinting : Bool := false
  scope : Scope := .records

abbrev Parse := ExceptT Octets (StateM Parsing)

/-! ## Words -/

/-- A message with the place that it is about. -/
def located (l : Lexeme) (text : Octets) : Octets :=
  (match l.file with
    | some f => f ++ ": "
    | none => "") ++ "line " ++ toString l.line ++ ": " ++ text

def complainAt {α : Type} (l : Lexeme) (text : Octets) : Parse α := throw (located l text)

def peek : Parse Lexeme := do
  let l := (← get).ahead.head?.getD default
  match l.token with
  | .fault text => complainAt l text
  | _ => pure l

def advance : Parse Unit := modify fun s => { s with ahead := s.ahead.drop 1 }

def complain {α : Type} (text : Octets) : Parse α := do complainAt (← peek) text

def Token.endsStatement : Token → Bool
  | .lineEnd => true
  | .impliedEnd => true
  | t => t.isMark ";"

/-- Refuses the next token. -/
def syntaxError {α : Type} : Parse α := do complain ("syntax error at or near " ++ (← peek).token.shown)

def isNext (w : String) : Parse Bool := do return (← peek).token.isMark w

def expectMark (w : String) : Parse Unit := do
  if ← isNext w then advance else syntaxError

def takeMark (w : String) : Parse Bool := do
  if ← isNext w then do
    advance
    pure true
  else pure false

def takeKeyword (w : String) : Parse Bool := do
  if (← peek).token.isKeyword w then do
    advance
    pure true
  else pure false

/-- A statement has to end here. -/
def expectEnd : Parse Unit := do
  if Token.endsStatement (← peek).token then advance else syntaxError

def skipLines : Parse Unit := do
  match (← peek).token with
  | .lineEnd => advance
  | _ => pure ()

def inParens {α : Type} (p : Parse α) : Parse α := do
  let outer := (← get).isPrinting
  modify fun s => { s with isPrinting := false }
  let a ← p
  modify fun s => { s with isPrinting := outer }
  pure a

/-! ## Expressions -/

/-- How strongly operators bind, the weakest first. -/
inductive Level where
  | either
  | both
  | matching
  | comparison
  | join
  | sum
  | product
  | sign
  | stepped
  | atom

def iterate (step : Expr → Parse (Option Expr)) : Nat → Expr → Parse Expr
  | 0, e => pure e
  | n + 1, e => do
    match ← step e with
    | some e => iterate step n e
    | none => pure e

/-- Operands with operators of one level between them, from left to right. -/
def grouped (fuel : Nat) (operand : Parse (Expr × Bool)) (operator : Token → Bool → Option (Expr → Expr → Parse Expr)) :
    Parse (Expr × Bool) := do
  let (a, isPlace) ← operand
  match operator (← peek).token (← get).isPrinting with
  | none => pure (a, isPlace)
  | some _ => do
    let e ← iterate (fun e => do
      match operator (← peek).token (← get).isPrinting with
      | none => pure none
      | some f => do
        advance
        let (b, _) ← operand
        return some (← f e b)) fuel a
    pure (e, false)

/-- An expression for finding, which a pattern by itself is too. -/
def asPattern : Expr → Parse Expr
  | .text s => do
    match Finding.compile s with
    | .ok p => pure (.found p)
    | .error why => complain (Finding.refusal s why)
  | e => pure e

def assignment? : Token → Option (Option Arithmetic)
  | .mark "=" => some none
  | .mark "+=" => some (some .add)
  | .mark "-=" => some (some .sub)
  | .mark "*=" => some (some .mul)
  | .mark "/=" => some (some .div)
  | _ => none

/-- A comparison; where something is printed `>` is none. -/
def relation? (isPrinting : Bool) : Token → Option Relation
  | .mark "<" => some .less
  | .mark "<=" => some .lessEq
  | .mark "==" => some .equal
  | .mark "!=" => some .notEqual
  | .mark ">=" => if isPrinting then none else some .greaterEq
  | .mark ">" => if isPrinting then none else some .greater
  | _ => none

/-- Whether an operand can begin so. -/
def startsOperand : Token → Bool
  | .number _ _ => true
  | .text _ => true
  | .regex _ => true
  | .name _ _ => true
  | .mark w => w = "$" || w = "!" || w = "(" || w = "++" || w = "--"
  | _ => false

def listUpTo (one : Parse Expr) (closing : String) : Nat → List Expr → Parse (List Expr)
  | 0, out => pure out.reverse
  | n + 1, out => do
    let e ← one
    if ← takeMark "," then listUpTo one closing n (e :: out)
    else do
      expectMark closing
      pure (e :: out).reverse

/-- An expression and whether it can be assigned to. -/
def expression : Nat → Level → Parse (Expr × Bool)
  | 0, _ => syntaxError
  | fuel + 1, .either =>
    grouped fuel (expression fuel .both) fun t _ => if t.isMark "||" then some fun a b => pure (.either a b) else none
  | fuel + 1, .both =>
    grouped fuel (expression fuel .matching) fun t _ => if t.isMark "&&" then some fun a b => pure (.both a b) else none
  | fuel + 1, .matching =>
    grouped fuel (expression fuel .comparison) fun t _ =>
      if t.isMark "~" then some fun a b => do return .isMatch a (← asPattern b) false
      else if t.isMark "!~" then some fun a b => do return .isMatch a (← asPattern b) true
      else none
  | fuel + 1, .comparison =>
    grouped fuel (expression fuel .join) fun t isPrinting =>
      (relation? isPrinting t).map fun r => fun a b => pure (.compare r a b)
  | fuel + 1, .join => do
    let (a, isPlace) ← expression fuel .sum
    let t := (← peek).token
    match assignment? t with
    | some op =>
      if !isPlace then syntaxError
      else do
        advance
        let (b, _) ← expression fuel .either
        pure (.assign a op b, false)
    | none =>
      if !startsOperand t then pure (a, isPlace)
      else do
        let e ← iterate (fun e => do
          if startsOperand (← peek).token then do
            let (b, _) ← expression fuel .sum
            pure (some (.join e b))
          else pure none) fuel a
        pure (e, false)
  | fuel + 1, .sum =>
    grouped fuel (expression fuel .product) fun t _ =>
      if t.isMark "+" then some fun a b => pure (.arithmetic .add a b)
      else if t.isMark "-" then some fun a b => pure (.arithmetic .sub a b)
      else none
  | fuel + 1, .product =>
    grouped fuel (expression fuel .sign) fun t _ =>
      if t.isMark "*" then some fun a b => pure (.arithmetic .mul a b)
      else if t.isMark "/" then some fun a b => pure (.arithmetic .div a b)
      else none
  | fuel + 1, .sign => do
    if ← takeMark "!" then return (.negation (← expression fuel .sign).1, false)
    if ← takeMark "-" then return (.minus (← expression fuel .sign).1, false)
    expression fuel .stepped
  | fuel + 1, .stepped => do
    let (a, isPlace) ← expression fuel .atom
    if !isPlace then pure (a, false)
    else if ← takeMark "++" then pure (.step a true false, false)
    else if ← takeMark "--" then pure (.step a false false, false)
    else pure (a, true)
  | fuel + 1, .atom => do
    let whole : Parse Expr := do return (← expression fuel .either).1
    let l ← peek
    match l.token with
    | .number x _ => do
      advance
      pure (.number x, false)
    | .text s => do
      advance
      pure (.text s, false)
    | .regex s => do
      advance
      match Finding.compile s with
      | .ok p => pure (.found p, false)
      | .error why => complainAt l (Finding.refusal s why)
    | .name n isCall => do
      if isCall then complainAt l ("function " ++ n ++ " never defined")
      let isElement := match (← get).ahead with
        | _ :: b :: _ => b.token.isMark "["
        | _ => false
      advance
      if isElement then do
        advance
        let key ← whole
        expectMark "]"
        pure (.element n key, true)
      else pure (.var n, true)
    | .mark "(" => do
      advance
      inParens do
        let e ← whole
        expectMark ")"
        pure (e, false)
    | .mark "$" => do
      advance
      return (.field (← expression fuel .atom).1, true)
    | .mark "++" => do
      advance
      let (a, isPlace) ← expression fuel .atom
      if isPlace then pure (.step a true true, false) else syntaxError
    | .mark "--" => do
      advance
      let (a, isPlace) ← expression fuel .atom
      if isPlace then pure (.step a false true, false) else syntaxError
    | _ => syntaxError

def whole (fuel : Nat) : Parse Expr := do return (← expression fuel .either).1

/-! ## Statements -/

/-- Whether a parenthesis that opens here encloses all that is printed. -/
def isListAhead (ls : List Lexeme) : Bool :=
  let rec go : List Lexeme → (depth : Nat) → (hasComma : Bool) → Bool
    | [], _, _ => false
    | l :: rest, depth, hasComma =>
      if l.token.isMark "(" || l.token.isMark "[" then go rest (depth + 1) hasComma
      else if l.token.isMark ")" || l.token.isMark "]" then
        if depth = 1 then hasComma else go rest (depth - 1) hasComma
      else go rest depth (hasComma || (l.token.isMark "," && depth = 1))
  (ls.head?.any fun l => l.token.isMark "(") && go ls 0 false

def exprList (one : Parse Expr) : Nat → List Expr → Parse (List Expr)
  | 0, out => pure out.reverse
  | n + 1, out => do
    let e ← one
    if ← takeMark "," then exprList one n (e :: out) else pure (e :: out).reverse

/-- What a statement prints. -/
def printed (fuel : Nat) : Parse (List Expr) := do
  let t := (← peek).token
  if Token.endsStatement t || t.isMark ">" then pure []
  else if isListAhead (← get).ahead then do
    advance
    inParens (listUpTo (whole fuel) ")" fuel [])
  else exprList (whole fuel) fuel []

/-- Where it is printed to. -/
def destination (fuel : Nat) : Parse (Option Expr) := do
  modify fun s => { s with isPrinting := false }
  if ← takeMark ">" then return some (← whole fuel) else pure none

def statements (one : Parse Statement) : Nat → List Statement → Parse (List Statement)
  | 0, out => pure out.reverse
  | n + 1, out => do
    if ← takeMark "\x7d" then pure out.reverse
    else
      match (← peek).token with
      | .done => syntaxError
      | _ => do
        let s ← one
        statements one n (s :: out)

def condition (fuel : Nat) : Parse Expr := do
  expectMark "("
  let e ← inParens (whole fuel)
  expectMark ")"
  skipLines
  pure e

/-- A statement. -/
def statement : Nat → Parse Statement
  | 0 => syntaxError
  | fuel + 1 => do
    let l ← peek
    let inner := statement fuel
    let value? : Parse (Option Expr) := do
      if Token.endsStatement (← peek).token then do
        advance
        pure none
      else do
        let e ← whole fuel
        expectEnd
        pure (some e)
    match l.token with
    | .mark "\x7b" => do
      advance
      return .block (← statements (statement fuel) fuel [])
    | .keyword "if" => do
      advance
      let c ← condition fuel
      let yes ← inner
      if ← takeKeyword "else" then return .choose c yes (some (← inner)) else pure (.choose c yes none)
    | .keyword "next" => do
      advance
      if (← get).scope ≠ .records then complainAt l "improper use of next"
      expectEnd
      pure .nextRecord
    | .keyword "exit" => do
      advance
      return .exit (← value?)
    | .keyword "print" => do
      advance
      modify fun s => { s with isPrinting := true }
      let args ← printed fuel
      let out ← destination fuel
      expectEnd
      pure (.print args out)
    | t =>
      if Token.endsStatement t then do
        advance
        pure (.block [])
      else do
        let e ← whole fuel
        expectEnd
        pure (.value e)

/-! ## Programs -/

def block (fuel : Nat) : Parse Statement := do
  expectMark "\x7b"
  return .block (← statements (statement fuel) fuel [])

def blockOf (scope : Scope) (fuel : Nat) : Parse Statement := do
  modify fun s => { s with scope := scope, isPrinting := false }
  block fuel

/-- What is done for a record, if that is written. -/
def ruleBody (fuel : Nat) : Parse (Option Statement) := do
  if ← isNext "\x7b" then return some (← blockOf .records fuel)
  else do
    expectEnd
    pure none

/-- One rule of a program. -/
def item (fuel : Nat) (p : Program) : Parse Program := do
  let l ← peek
  modify fun s => { s with scope := .records, isPrinting := false }
  match l.token with
  | .keyword "BEGIN" => do
    advance
    return { p with before := p.before ++ [← blockOf .before fuel] }
  | .keyword "END" => do
    advance
    return { p with after := p.after ++ [← blockOf .after fuel] }
  | .mark "\x7b" => do return { p with rules := p.rules ++ [⟨none, some (← blockOf .records fuel)⟩] }
  | _ => do
    let condition ← whole fuel
    return { p with rules := p.rules ++ [⟨some condition, ← ruleBody fuel⟩] }

def items (fuel : Nat) : Nat → Program → Parse Program
  | 0, p => pure p
  | n + 1, p => do
    match (← peek).token with
    | .done => pure p
    | _ => do
      let p ← item fuel p
      items fuel n p

end Grammar

open Host.Tool.Scanning.Grammar in
/-- A program from its texts, or what is wrong with it. -/
def Program.read (texts : List (Option Octets × Octets)) : Except Octets Program :=
  let ls := lexemes texts
  let fuel := 16 * ls.length + 64
  ((items fuel fuel {}).run { ahead := ls }).1

end DataplaneVerdict.Host.Tool.Scanning
