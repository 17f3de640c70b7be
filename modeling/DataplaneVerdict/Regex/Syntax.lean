import DataplaneVerdict.Shell.Pattern

/-!
# `Regex.Syntax` — regular expressions and how they are written

There are two notations. In the basic one groups and alternatives are written with backslashes, in the extended
one without. A `Dialect` says which one is read, and what is done about operators that have nothing to work
on.
-/

namespace DataplaneVerdict

/-! ## Expressions -/

/-- A set of bytes, as a table. -/
structure ByteSet where
  table : Array Bool

namespace ByteSet

def ofPredicate (p : Char → Bool) : ByteSet := ⟨((List.range 256).map fun n => p (Char.ofNat n)).toArray⟩

def has (s : ByteSet) (c : Char) : Bool := s.table[c.toNat]?.getD false

def foldCase (s : ByteSet) : ByteSet := ofPredicate fun c => s.has c || s.has c.toLower || s.has c.toUpper

end ByteSet

/-- A condition on a place in a text. -/
inductive Assertion where
  | lineStart
  | lineEnd
  | textStart
  | textEnd
  | wordStart
  | wordEnd
  | wordEdge
  | notWordEdge
deriving DecidableEq

/-- A regular expression. -/
inductive Regex where
  | empty
  | chars (s : ByteSet)
  | check (a : Assertion)
  | cat (a b : Regex)
  | alt (a b : Regex)
  /-- at least so often, and at most -/
  | times (r : Regex) (least : Nat) (most : Option Nat)
  | group (n : Nat) (r : Regex)

namespace Regex

def isWord (c : Char) : Bool := c.isAlphanum || c = '_'

/-! ## Notation -/

/-- How expressions are written. -/
structure Dialect where
  extended : Bool := false
  fold : Bool := false
  /-- a closing parenthesis without an opening one is plain text -/
  looseParens : Bool := false
  /-- an operator with nothing to work on is left out -/
  skipsLeadingOperators : Bool := false
  /-- an operator with nothing to work on is refused -/
  refusesLeadingOperators : Bool := false
  /-- a repetition behind another one is refused -/
  refusesDoubleRepetition : Bool := false
  /-- a range that ends before its start is empty -/
  emptyRanges : Bool := false
  /-- a newline divides alternatives -/
  newlineAlternates : Bool := false
  /-- a backslash works in brackets, and letters behind one stand for control characters -/
  escapes : Bool := false
  /-- letters behind a backslash are operators; digits there, which would refer back to groups, are refused -/
  operators : Bool := true
  /-- bracket expressions that are a class without outer brackets are refused -/
  refusesBareClasses : Bool := false

/-- What is wrong with an expression. -/
inductive Problem where
  | unmatchedParen
  | unmatchedCloseParen
  | unmatchedBracket
  | emptyBracket
  | badRange
  | badClass
  | badCollation
  | badReference
  | badRepetition
  | trailingBackslash
  | bareClass
deriving DecidableEq

def Problem.message : Problem → String
  | unmatchedParen => "Unmatched ( or \\("
  | unmatchedCloseParen => "Unmatched ) or \\)"
  | unmatchedBracket => "Unmatched [, [^, [:, [., or [="
  | emptyBracket => "Invalid regular expression"
  | badRange => "Invalid range end"
  | badClass => "Invalid character class name"
  | badCollation => "Invalid collation character"
  | badReference => "Invalid back reference"
  | badRepetition => "Invalid preceding regular expression"
  | trailingBackslash => "Trailing backslash"
  | bareClass => "character class syntax is [[:space:]], not [:space:]"

/-! ## Reading -/

/-- A unit of an expression as it is written. -/
inductive Token where
  | char (c : Char)
  | any
  | bracket
  | alternative
  | openGroup
  | closeGroup
  | star
  | plus
  | question
  | check (a : Assertion)
  | set (s : ByteSet)
  | reference
  | trailing
  | done
deriving Inhabited

def Token.escaped (d : Dialect) (c : Char) : Token :=
  let basic (t : Token) : Token := if d.extended then .char c else t
  let operator (t : Token) : Token := if d.operators then t else .char c
  match c with
  | '|' => basic .alternative
  | '(' => basic .openGroup
  | ')' => basic .closeGroup
  | '+' => basic .plus
  | '?' => basic .question
  | '<' => operator (.check .wordStart)
  | '>' => operator (.check .wordEnd)
  | 'b' => operator (.check .wordEdge)
  | 'B' => operator (.check .notWordEdge)
  | '\'' => operator (.check .textEnd)
  | 'w' => operator (.set (ByteSet.ofPredicate isWord))
  | 'W' => operator (.set (ByteSet.ofPredicate fun c => !isWord c))
  | 's' => operator (.set (ByteSet.ofPredicate fun c => c = ' ' || (9 ≤ c.toNat && c.toNat ≤ 13)))
  | 'S' => operator (.set (ByteSet.ofPredicate fun c => !(c = ' ' || (9 ≤ c.toNat && c.toNat ≤ 13))))
  | c =>
    if c = Char.ofNat 96 then operator (.check .textStart)
    else if '1' ≤ c && c ≤ '9' then operator .reference
    else .char c

/-- The character that a letter behind a backslash stands for, where escapes are read. -/
def control? (c : Char) : Option Char :=
  match c with
  | 'a' => some '\x07'
  | 'b' => some '\x08'
  | 'f' => some '\x0c'
  | 'n' => some '\n'
  | 'r' => some '\r'
  | 't' => some '\t'
  | 'v' => some '\x0b'
  | _ => none

def escapedChar (cs : List Char) : Option (Char × List Char) :=
  match cs with
  | [] => none
  | c :: rest =>
    match control? c with
    | some x => some (x, rest)
    | none =>
      if '0' ≤ c && c ≤ '7' then
        let ds := (cs.take 3).takeWhile fun d => '0' ≤ d && d ≤ '7'
        some (Char.ofNat (ds.foldl (fun n d => n * 8 + (d.toNat - 48)) 0 % 256), cs.drop ds.length)
      else some (c, rest)

/-- The token at the start of a text, and the rest. A caret is an anchor where `caret` says so, a dollar sign where
nothing follows that it could be text before. -/
def token (d : Dialect) (caret : Bool) : List Char → Token × List Char
  | [] => (.done, [])
  | '\\' :: rest =>
    match rest with
    | [] => (.trailing, [])
    | c :: more =>
      if d.escapes then
        match escapedChar rest with
        | some (x, more) => (.char x, more)
        | none => (.trailing, [])
      else (Token.escaped d c, more)
  | c :: rest =>
    let extended (t : Token) : Token := if d.extended then t else .char c
    match c with
    | '.' => (.any, rest)
    | '[' => (.bracket, rest)
    | '*' => (.star, rest)
    | '|' => (extended .alternative, rest)
    | '(' => (extended .openGroup, rest)
    | ')' => (extended .closeGroup, rest)
    | '+' => (extended .plus, rest)
    | '?' => (extended .question, rest)
    | '\n' => (if d.newlineAlternates then .alternative else .char c, rest)
    | '^' => (if d.extended || caret then .check .lineStart else .char c, rest)
    | '$' =>
      let isLast := match rest with
        | [] => true
        | '\\' :: ')' :: _ => true
        | '\\' :: '|' :: _ => true
        | '\n' :: _ => d.newlineAlternates
        | _ => false
      (if d.extended || isLast then .check .lineEnd else .char c, rest)
    | c => (.char c, rest)

/-- A member of a bracket expression. -/
inductive Member where
  | char (c : Char)
  | named (p : Char → Bool)

/-- The text between two marks, as in `[:name:]`, and what is behind it. -/
def delimited (mark : Char) : List Char → List Char → Option (List Char × List Char)
  | [], _ => none
  | c :: cs, acc =>
    match cs with
    | ']' :: rest => if c = mark then some (acc.reverse, rest) else delimited mark cs (c :: acc)
    | _ => delimited mark cs (c :: acc)

def member (d : Dialect) (cs : List Char) : Except Problem (Member × List Char) :=
  match cs with
  | [] => .error .unmatchedBracket
  | '[' :: ':' :: rest =>
    match delimited ':' rest [] with
    | some (name, rest) =>
      let name := String.ofList name
      let name := if d.fold && (name = "upper" || name = "lower") then "alpha" else name
      if Shell.Pattern.classNames.contains name then .ok (.named (Shell.Pattern.isInClass name), rest)
        else .error .badClass
    | none => .error .unmatchedBracket
  | '[' :: '.' :: rest =>
    match delimited '.' rest [] with
    | some ([c], rest) => .ok (.char c, rest)
    | some _ => .error .badCollation
    | none => .error .unmatchedBracket
  | '[' :: '=' :: rest =>
    match delimited '=' rest [] with
    | some ([c], rest) => .ok (.named (· == c), rest)
    | some _ => .error .badCollation
    | none => .error .unmatchedBracket
  | c :: rest =>
    if c = '\\' && d.escapes then
      match escapedChar rest with
      | some (x, rest) => .ok (.char x, rest)
      | none => .error .unmatchedBracket
    else .ok (.char c, rest)

/-- The members of a bracket expression up to its end; `isFirst` says that a closing bracket is a member. -/
def members (d : Dialect) : Nat → (isFirst : Bool) → List Char → (Char → Bool) →
    Except Problem ((Char → Bool) × List Char)
  | 0, _, _, _ => .error .unmatchedBracket
  | _ + 1, _, [], _ => .error .unmatchedBracket
  | fuel + 1, isFirst, c :: cs, found =>
    if c = ']' && !isFirst then .ok (found, cs)
    else if c = '-' && !isFirst && cs.head? ≠ some ']' && !(cs.head? = some '-' && (cs.drop 1).head? ≠ some ']') &&
      !d.escapes then
      .error .badRange
    else
      match member d (c :: cs) with
      | .error e => .error e
      | .ok (low, rest) =>
        match rest with
        | '-' :: next :: more =>
          if next = ']' then members d fuel false rest (add low found)
          else
            match low, member d (next :: more) with
            | _, .error e => .error e
            | .char a, .ok (.char b, rest) =>
              if b < a && !d.emptyRanges then .error .badRange
              else members d fuel false rest fun x => found x || (a ≤ x && x ≤ b)
            | _, .ok (_, _) => .error .badRange
        | _ => members d fuel false rest (add low found)
where
  /-- The condition with one more member. -/
  add (m : Member) (found : Char → Bool) : Char → Bool :=
    match m with
    | .char c => fun x => found x || x == c
    | .named p => fun x => found x || p x

def bracket (d : Dialect) (cs : List Char) : Except Problem (ByteSet × List Char) :=
  let (negated, inner) := match cs with
    | '^' :: rest => (true, rest)
    | rest => (false, rest)
  if inner.isEmpty then .error .emptyBracket
  else
    match members d (inner.length + 1) true inner fun _ => false with
    | .error e => .error e
    | .ok (p, rest) =>
      let inside := inner.take (inner.length - rest.length - 1)
      if d.refusesBareClasses && !negated && inside.head? = some ':' &&
        inside.getLast? = some ':' && 1 < inside.length then
        .error .bareClass
      else
        let positive := ByteSet.ofPredicate p
        let positive := if d.fold then positive.foldCase else positive
        .ok (if negated then ByteSet.ofPredicate fun c => !positive.has c else positive, rest)

/-- What is being read: the text ahead, the groups so far, and operators that had nothing to work on. -/
structure Reading where
  ahead : List Char
  /-- whether a caret is an anchor here -/
  caret : Bool := true
  groups : Nat := 0
  skipped : List String := []

/-- Reading an expression. -/
abbrev Read := StateT Reading (Except Problem)

def peek (d : Dialect) : Read Token := do
  let s ← get
  pure (token d s.caret s.ahead).1

def skip (d : Dialect) (caret : Bool) : Read Unit := modify fun s =>
  { s with ahead := (token d s.caret s.ahead).2, caret := caret }

def Token.repeats : Token → Bool
  | star => true
  | plus => true
  | question => true
  | _ => false

def repetitions (d : Dialect) : Nat → Regex → Read Regex
  | 0, r => pure r
  | fuel + 1, r => do
    let again (r : Regex) : Read Regex := do
      match ← peek d with
      | .star => if d.refusesDoubleRepetition then throw .badRepetition
      | _ => pure ()
      repetitions d fuel r
    match ← peek d with
    | .star => do
      skip d false
      again (.times r 0 none)
    | .plus => do
      skip d false
      again (.times r 1 none)
    | .question => do
      skip d false
      again (.times r 0 (some 1))
    | _ => pure r

def single (d : Dialect) (c : Char) : Regex :=
  .chars (ByteSet.ofPredicate fun x => x == c || (d.fold && (x.toLower == c.toLower)))

/-- The levels of an expression. -/
inductive Level where
  | alternatives
  | branch
  | item

/-- How an operator is written. -/
def Token.letter : Token → Char
  | plus => '+'
  | question => '?'
  | _ => '*'

def expression (d : Dialect) : Nat → Level → (depth : Nat) → Read Regex
  | 0, _, _ => pure .empty
  | fuel + 1, .alternatives, depth => do
    let a ← expression d fuel .branch depth
    match ← peek d with
    | .alternative => do
      skip d true
      let b ← expression d fuel .alternatives depth
      pure (.alt a b)
    | _ => pure a
  | fuel + 1, .branch, depth => do
    match ← peek d with
    | .done => pure .empty
    | .alternative => pure .empty
    | .closeGroup =>
      if depth ≠ 0 || !d.looseParens then
        if depth = 0 then throw .unmatchedCloseParen else pure .empty
      else do
        let a ← expression d fuel .item depth
        let b ← expression d fuel .branch depth
        pure (.cat a b)
    | _ => do
      let a ← expression d fuel .item depth
      match ← peek d with
      | .done => pure a
      | .alternative => pure a
      | _ => do
        let b ← expression d fuel .branch depth
        pure (match b with
          | .empty => a
          | b => .cat a b)
  | fuel + 1, .item, depth => do
    let t ← peek d
    match t with
    | .char c => do
      skip d false
      repetitions d fuel (single d c)
    | .any => do
      skip d false
      repetitions d fuel (.chars (ByteSet.ofPredicate fun _ => true))
    | .set s => do
      skip d false
      repetitions d fuel (.chars s)
    | .bracket => do
      let s ← get
      match bracket d (token d s.caret s.ahead).2 with
      | .error e => throw e
      | .ok (b, rest) => do
        set { s with ahead := rest, caret := false }
        repetitions d fuel (.chars b)
    | .reference => throw .badReference
    | .check a => do
      skip d false
      match a with
      | .lineStart => pure (.check a)
      | .lineEnd => pure (.check a)
      | a =>
        if d.extended && !d.refusesLeadingOperators then repetitions d fuel (.check a) else pure (.check a)
    | .openGroup => do
      let n := (← get).groups + 1
      modify fun s => { s with groups := n }
      skip d true
      let inner ← expression d fuel .alternatives (depth + 1)
      match ← peek d with
      | .closeGroup => do
        skip d false
        repetitions d fuel (.group n inner)
      | _ => throw .unmatchedParen
    | .closeGroup => do
      skip d false
      repetitions d fuel (single d ')')
    | .trailing => throw .trailingBackslash
    | t =>
      if t.repeats then do
        if d.refusesLeadingOperators then throw .badRepetition
        skip d false
        if d.skipsLeadingOperators then do
          modify fun s => { s with skipped := s.skipped ++ [String.singleton t.letter] }
          expression d fuel .branch depth
        else repetitions d fuel (single d t.letter)
      else pure .empty

/-- An expression that has been read: how many groups it has, and which operators were left out. -/
structure Parsed where
  regex : Regex
  groups : Nat
  skipped : List String

def parse (d : Dialect) (cs : List Char) : Except Problem Parsed :=
  match (expression d (4 * cs.length + 8) .alternatives 0).run { ahead := cs } with
  | .error e => .error e
  | .ok (r, s) =>
    if s.ahead.isEmpty then .ok ⟨r, s.groups, s.skipped⟩ else .error .unmatchedCloseParen

def basic : Dialect := { refusesDoubleRepetition := true }

def extended : Dialect := { extended := true, refusesLeadingOperators := true }

def searching : Dialect := { newlineAlternates := true, refusesBareClasses := true }

def searchingExtended : Dialect :=
  { extended := true, looseParens := true, skipsLeadingOperators := true, newlineAlternates := true
    refusesBareClasses := true }

def scanning : Dialect :=
  { extended := true, looseParens := true, refusesLeadingOperators := true
    emptyRanges := true, escapes := true, operators := false }

end Regex

end DataplaneVerdict
