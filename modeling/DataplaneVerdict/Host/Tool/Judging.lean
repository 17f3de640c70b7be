import DataplaneVerdict.Host.Tool.Making
import DataplaneVerdict.Regex.Automaton

/-!
# `Host.Tool.Judging` — expressions as arguments

An expression is written with one argument for each operand and operator.
-/

namespace DataplaneVerdict.Host.Tool

namespace Judging

structure Words where
  ahead : List Octets
  last : Octets := ""

/-- Reading an expression word by word. -/
abbrev Judge := StateT Words Tool

def skip (n : Nat) : Judge Unit :=
  modify fun w => { ahead := w.ahead.drop n, last := ((w.ahead.take n).getLast?).getD w.last }

def wrong {α : Type} (text : Octets) : Judge α := (fail 2 ("syntax error: " ++ text) : Tool α)

/-- The next word, if it is one of these operators. -/
def operator? (operators : List Octets) : Judge (Option Octets) := do
  match (← get).ahead with
  | w :: _ =>
    if operators.contains w then do
      skip 1
      pure (some w)
    else pure none
  | [] => pure none

def needMore : Judge Unit := do
  let w ← get
  if w.ahead.isEmpty then wrong ("missing argument after " ++ Quoted.plain w.last)

def integer? (text : Octets) : Option Int :=
  let (negative, ds) := match text.toList with
    | '-' :: ds => (true, ds)
    | ds => (false, ds)
  if ds.isEmpty || !ds.all Char.isDigit then none
  else
    let n : Int := (Nat.ofDigitChars 10 ds 0 : Nat)
    some (if negative then -n else n)

/-- Whether a value counts as false. -/
def isNothing (text : Octets) : Bool := text.isEmpty || integer? text = some 0

/-- How strongly operators bind. -/
inductive Level where
  | either
  | both
  | comparison
  | sum
  | product
  | matching
  | named

/-- What a pattern finds at the start of a text: its first group, or how long the match is. -/
def found (text pattern : Octets) : Tool Octets := do
  match Regex.parse { Regex.basic with emptyRanges := true } pattern.toList with
  | .error e => fail 2 e.message
  | .ok p =>
    let m := Automaton.ofRegex (.cat (.check .textStart) p.regex) p.groups
    match m.find? text.toList.toArray 0, p.groups with
    | none, 0 => pure "0"
    | none, _ => pure ""
    | some r, 0 => pure (toString r.stop)
    | some r, _ =>
      pure (match r.groups[1]? with
        | some (some (s, e)) => String.ofList ((text.toList.drop s).take (e - s))
        | _ => "")

def operand (text : Octets) : Tool Int :=
  match integer? text with
  | some n => pure n
  | none => fail 2 "non-integer argument"

/-- Compares as numbers if both are, else as texts. -/
def compared (op a b : Octets) : Bool :=
  let order : Ordering := match integer? a, integer? b with
    | some m, some n => compare m n
    | _, _ => compare a b
  match op with
  | "<" => order = .lt
  | "<=" => order ≠ .gt
  | "=" => order = .eq
  | "==" => order = .eq
  | "!=" => order ≠ .eq
  | ">=" => order ≠ .lt
  | _ => order = .gt

def computed (op : Octets) (m n : Int) : Tool Int :=
  match op with
  | "+" => pure (m + n)
  | "-" => pure (m - n)
  | "*" => pure (m * n)
  | _ =>
    if n = 0 then fail 2 "division by zero"
    else pure (if op = "/" then Int.tdiv m n else Int.tmod m n)

def Level.operators : Level → List Octets
  | either => ["|"]
  | both => ["&"]
  | comparison => ["<", "<=", "=", "==", "!=", ">=", ">"]
  | sum => ["+", "-"]
  | product => ["*", "/", "%"]
  | matching => [":"]
  | named => []

def Level.inner : Level → Level
  | either => both
  | both => comparison
  | comparison => sum
  | sum => product
  | product => matching
  | _ => named

def Level.apply (l : Level) (counts : Bool) (op a b : Octets) : Tool Octets := do
  match l with
  | .either => pure (if !isNothing a then a else if !isNothing b then b else "0")
  | .both => pure (if isNothing a || isNothing b then "0" else a)
  | .comparison => pure (if counts && compared op a b then "1" else "0")
  | .matching => if counts then found a b else pure a
  | _ =>
    if counts then do
      let m ← operand a
      let n ← operand b
      return toString (← computed op m n)
    else pure a

/-- The value of an expression; `counts` is false where it is only passed over. -/
def value : Nat → (counts : Bool) → Level → Judge Octets
  | 0, _, _ => pure ""
  | fuel + 1, counts, .named => do
    needMore
    let w := (← get).ahead.head?.getD ""
    match w with
    | "+" => do
      skip 1
      needMore
      let w := (← get).ahead.head?.getD ""
      skip 1
      pure w
    | "length" => do
      skip 1
      let a ← value fuel counts .named
      pure (toString a.length)
    | "match" => do
      skip 1
      let a ← value fuel counts .named
      let b ← value fuel counts .named
      if counts then (found a b : Tool Octets) else pure a
    | "index" => do
      skip 1
      let a ← value fuel counts .named
      let b ← value fuel counts .named
      let n := (a.toList.takeWhile fun c => !b.toList.contains c).length
      pure (toString (if n = a.length then 0 else n + 1))
    | "substr" => do
      skip 1
      let a ← value fuel counts .named
      let from_ ← value fuel counts .named
      let size ← value fuel counts .named
      match integer? from_, integer? size with
      | some s, some n =>
        pure (if s ≤ 0 || n ≤ 0 then "" else String.ofList ((a.toList.drop (s.toNat - 1)).take n.toNat))
      | _, _ => pure ""
    | "(" => do
      skip 1
      let a ← value fuel counts .either
      match (← get).ahead with
      | [] => wrong ("expecting ')' after " ++ Quoted.plain (← get).last)
      | ")" :: _ => do
        skip 1
        pure a
      | w :: _ => wrong ("expecting ')' instead of " ++ Quoted.plain w)
    | ")" => wrong "unexpected ')'"
    | w => do
      skip 1
      pure w
  | fuel + 1, counts, level => do
    let a ← value fuel counts level.inner
    more fuel counts level a
where
  more : Nat → Bool → Level → Octets → Judge Octets
    | 0, _, _, a => pure a
    | fuel + 1, counts, level, a => do
      match ← operator? level.operators with
      | none => pure a
      | some op => do
        let decides := match level with
          | .either => isNothing a
          | .both => !isNothing a
          | _ => true
        let b ← value fuel (counts && decides) level.inner
        let c ← (level.apply counts op a b : Tool Octets)
        more fuel counts level c

/-- `expr`: the value of its arguments. -/
def expr (_ : Runner) (words : List Octets) : Tool Unit := do
  let words := if words.head? = some "--" then words.drop 1 else words
  if words.isEmpty then misuse 2 "missing operand"
  let (v, w) ← value (16 * words.length + 32) true .either { ahead := words }
  match w.ahead with
  | extra :: _ => fail 2 ("syntax error: unexpected argument " ++ Quoted.plain extra)
  | [] => do
    print (v ++ "\n")
    exit (if isNothing v then 1 else 0)

end Judging

end DataplaneVerdict.Host.Tool
