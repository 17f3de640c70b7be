import DataplaneVerdict.Regex.Syntax

/-!
# `Regex.Automaton` — finding matches

An expression is turned into a table of instructions. Searching follows all ways through the table at once, one
character after the other, so that its time grows with the length of the text only. The match that starts first is
found, and of those the longest. Which part of it each group has matched is found by going the way again, forwards
along instructions from which the end can be reached, with preference for what stands first and for one more
repetition.
-/

namespace DataplaneVerdict

/-! ## Programs -/

/-- An instruction of an automaton; the numbers are the places of the next ones. -/
inductive Instruction where
  | char (s : ByteSet) (next : Nat)
  /-- two ways, the preferred one first -/
  | split (first second : Nat)
  | check (a : Assertion) (next : Nat)
  | openGroup (n : Nat) (next : Nat)
  /-- the end of a group, which may be inside something that can be left out -/
  | closeGroup (n : Nat) (isOptional : Bool) (next : Nat)
  | accept

/-- A table of instructions, and where it starts. -/
structure Automaton where
  code : Array Instruction
  start : Nat
  groups : Nat

namespace Automaton

def push (i : Instruction) : StateM (Array Instruction) Nat := do
  let code ← get
  set (code.push i)
  pure code.size

/-- So many copies of something, each of which can be left out with those behind it. -/
def optionalCopies (one : Nat → StateM (Array Instruction) Nat) (next : Nat) : Nat → StateM (Array Instruction) Nat
  | 0 => pure next
  | n + 1 => do
    let after ← optionalCopies one next n
    let body ← one after
    push (.split body next)

def requiredCopies (one : Nat → StateM (Array Instruction) Nat) : Nat → Nat → StateM (Array Instruction) Nat
  | 0, next => pure next
  | n + 1, next => do
    let after ← one next
    requiredCopies one n after

/-- Adds the instructions for an expression in front of those at `next`. `marked` is a group whose end is optional. -/
def build : Regex → (marked : Option Nat) → (next : Nat) → StateM (Array Instruction) Nat
  | .empty, _, next => pure next
  | .chars s, _, next => push (.char s next)
  | .check a, _, next => push (.check a next)
  | .cat a b, marked, next => do
    let second ← build b marked next
    build a marked second
  | .alt a b, marked, next => do
    let second ← build b marked next
    let first ← build a marked next
    push (.split first second)
  | .group n r, marked, next => do
    let close ← push (.closeGroup n (marked == some n) next)
    let inner ← build r marked close
    push (.openGroup n inner)
  | .times r least most, marked, next => do
    let inner := match r with
      | .group n _ => some n
      | _ => marked
    let behind ← match most with
      | none => do
        let loop ← push .accept
        let body ← build r inner loop
        modify fun code => code.set! loop (.split body next)
        pure loop
      | some m => optionalCopies (build r inner) next (m - least)
    requiredCopies (build r marked) least behind

def ofRegex (r : Regex) (groups : Nat) : Automaton :=
  let (start, code) := (do
    let last ← push .accept
    build r none last : StateM (Array Instruction) Nat).run #[]
  { code := code, start := start, groups := groups }

/-! ## Searching -/

def holds (text : Array Char) (at_ : Nat) : Assertion → Bool :=
  let before : Option Char := if at_ = 0 then none else text[at_ - 1]?
  let after : Option Char := text[at_]?
  let wordBefore := (before.map Regex.isWord).getD false
  let wordAfter := (after.map Regex.isWord).getD false
  fun
  | .lineStart => at_ = 0
  | .lineEnd => at_ = text.size
  | .textStart => at_ = 0
  | .textEnd => at_ = text.size
  | .wordStart => !wordBefore && wordAfter
  | .wordEnd => wordBefore && !wordAfter
  | .wordEdge => wordBefore != wordAfter
  | .notWordEdge => wordBefore == wordAfter

/-- The ways that are followed: instructions that read a character, each with the start of its match, the earliest start
first, and which instructions have been visited. -/
structure Front where
  /-- newest first -/
  ways : List (Nat × Nat) := []
  visited : Array Bool
  /-- the start of a match that ends here -/
  accepted : Option Nat := none

/-- Adds an instruction and all that can be reached from it without reading. -/
def reach (m : Automaton) (text : Array Char) (at_ from_ : Nat) : Nat → List Nat → Front → Front
  | 0, _, f => f
  | _ + 1, [], f => f
  | fuel + 1, i :: todo, f =>
    if f.visited[i]?.getD true then m.reach text at_ from_ fuel todo f
    else
      let f := { f with visited := f.visited.set! i true }
      match m.code[i]? with
      | some (.char _ _) => m.reach text at_ from_ fuel todo { f with ways := (i, from_) :: f.ways }
      | some (.split a b) => m.reach text at_ from_ fuel (a :: b :: todo) f
      | some (.check a next) =>
        if holds text at_ a then m.reach text at_ from_ fuel (next :: todo) f else m.reach text at_ from_ fuel todo f
      | some (.openGroup _ next) => m.reach text at_ from_ fuel (next :: todo) f
      | some (.closeGroup _ _ next) => m.reach text at_ from_ fuel (next :: todo) f
      | some .accept =>
        m.reach text at_ from_ fuel todo { f with accepted := f.accepted.orElse fun _ => some from_ }
      | none => m.reach text at_ from_ fuel todo f

def nowhere (m : Automaton) : Front := { visited := Array.replicate m.code.size false }

def fuel (m : Automaton) : Nat := 3 * m.code.size + 3

/-- Follows all ways from a place on; `best` is the match found so far. No new match is started where `starts` is
false. -/
def follow (m : Automaton) (text : Array Char) : Nat → (at_ : Nat) → (starts : Bool) →
    List (Nat × Nat) → Option (Nat × Nat) →
    Option (Nat × Nat)
  | 0, _, _, _, best => best
  | more + 1, at_, starts, ways, best =>
    -- the ways are in order of their starts
    let c := if at_ = 0 then none else text[at_ - 1]?
    let front : Front := ways.foldl (fun (f : Front) ((i, from_) : Nat × Nat) =>
      match m.code[i]?, c with
      | some (.char s next), some c => if s.has c then m.reach text at_ from_ m.fuel [next] f else f
      | _, _ => f) m.nowhere
    let front : Front := if starts && best.isNone then m.reach text at_ at_ m.fuel [m.start] front else front
    let best : Option (Nat × Nat) := match front.accepted, best with
      | some s, none => some (s, at_)
      | some s, some (b, _) => if s ≤ b then some (s, at_) else best
      | none, b => b
    let kept : List (Nat × Nat) := match best with
      | some (b, _) => front.ways.filter fun (_, s) => s ≤ b
      | none => front.ways
    let isOver := kept.isEmpty && (best.isSome || !starts)
    if isOver || text.size ≤ at_ then best else m.follow text more (at_ + 1) starts kept.reverse best

/-- All ends of matches that start at one place, the last ones first. -/
def endsOn (m : Automaton) (text : Array Char) : Nat → (at_ : Nat) → List (Nat × Nat) →
    (isStart : Bool) → List Nat → List Nat
  | 0, _, _, _, found => found
  | more + 1, at_, ways, isStart, found =>
    let c := if at_ = 0 then none else text[at_ - 1]?
    let front : Front := ways.foldl (fun (f : Front) ((i, from_) : Nat × Nat) =>
      match m.code[i]?, c with
      | some (.char s next), some c => if s.has c then m.reach text at_ from_ m.fuel [next] f else f
      | _, _ => f) m.nowhere
    let front : Front := if isStart then m.reach text at_ at_ m.fuel [m.start] front else front
    let found := if front.accepted.isSome then at_ :: found else found
    if front.ways.isEmpty || text.size ≤ at_ then found else m.endsOn text more (at_ + 1) front.ways.reverse false found

/-- Where the first match from a place on is: its start and its end. -/
def span? (m : Automaton) (text : Array Char) (at_ : Nat) : Option (Nat × Nat) :=
  m.follow text (text.size + 2 - at_) at_ true [] none

def endsFrom (m : Automaton) (text : Array Char) (at_ : Nat) : List Nat :=
  m.endsOn text (text.size + 2 - at_) at_ [] true []

/-! ## Groups -/

/-- What groups have matched, from the first one on. -/
abbrev Groups := Array (Option (Nat × Nat))

/-- A match: its start, its end, and what each group has matched. -/
structure Match where
  start : Nat
  stop : Nat
  groups : Groups
deriving Inhabited

/-- One round of finding instructions from which the end can be reached without reading, given those known so far. -/
def spread (m : Automaton) (text : Array Char) (at_ : Nat) (alive : Array Bool) : Array Bool × Bool :=
  (List.range m.code.size).foldl (fun (alive, changed) i =>
    if alive[i]?.getD true then (alive, changed)
    else
      let is (j : Nat) : Bool := alive[j]?.getD false
      let lives := match m.code[i]? with
        | some (.split a b) => is a || is b
        | some (.check a next) => holds text at_ a && is next
        | some (.openGroup _ next) => is next
        | some (.closeGroup _ _ next) => is next
        | _ => false
      if lives then (alive.set! i true, true) else (alive, changed)) (alive, false)

def settle (m : Automaton) (text : Array Char) (at_ : Nat) : Nat → Array Bool → Array Bool
  | 0, alive => alive
  | fuel + 1, alive =>
    match m.spread text at_ alive with
    | (alive, true) => m.settle text at_ fuel alive
    | (alive, false) => alive

/-- For the places of a match from its end back to its start: the instructions from which the end can be reached. -/
def sift (m : Automaton) (text : Array Char) (start : Nat) : Nat → Nat → List (Array Bool) → List (Array Bool)
  | 0, _, known => known
  | fuel + 1, at_, known =>
    let base := (List.range m.code.size).map fun i =>
      match m.code[i]?, known with
      | some .accept, [] => true
      | some (.char s next), after :: _ =>
        (match text[at_]? with
          | some c => s.has c
          | none => false) && (after[next]?.getD false)
      | _, _ => false
    let alive := m.settle text at_ m.code.size base.toArray
    if at_ ≤ start then alive :: known else m.sift text start fuel (at_ - 1) (alive :: known)

/-- A way through a match. -/
structure Walk where
  instruction : Nat
  at_ : Nat
  open_ : Array Nat
  groups : Groups
  /-- the groups at the last place where one was closed that is not empty -/
  kept : Groups
  visited : List Nat

/-- Goes through a match; `alive` are the instructions that can be used, from the current place on. -/
def walk (m : Automaton) : Nat → List (Array Bool) → Walk → Groups
  | 0, _, w => w.groups
  | fuel + 1, alive, w =>
    let is (j : Nat) : Bool := ((alive.head?.bind fun a => a[j]?)).getD false
    match m.code[w.instruction]? with
    | some (.char _ next) =>
      m.walk fuel (alive.drop 1) { w with instruction := next, at_ := w.at_ + 1, visited := [] }
    | some (.split a b) =>
      if is a && !(is b && w.visited.contains a) then
        m.walk fuel alive { w with instruction := a, visited := a :: w.visited }
      else m.walk fuel alive { w with instruction := b, visited := b :: w.visited }
    | some (.check _ next) => m.walk fuel alive { w with instruction := next }
    | some (.openGroup n next) => m.walk fuel alive { w with instruction := next, open_ := w.open_.set! n w.at_ }
    | some (.closeGroup n isOptional next) =>
      let s := w.open_[n]?.getD w.at_
      let groups := w.groups.set! n (some (s, w.at_))
      if s < w.at_ then m.walk fuel alive { w with instruction := next, groups := groups, kept := groups }
      else if isOptional && (w.kept[n]?.getD none).isSome then
        m.walk fuel alive { w with instruction := next, groups := w.kept }
      else m.walk fuel alive { w with instruction := next, groups := groups }
    | _ => w.groups

def find? (m : Automaton) (text : Array Char) (at_ : Nat) : Option Match :=
  let nothing : Groups := Array.replicate (m.groups + 1) none
  (m.span? text at_).map fun (s, e) =>
    if m.groups = 0 then ⟨s, e, nothing.set! 0 (some (s, e))⟩
    else
      let alive := m.sift text s (e - s + 1) e []
      let groups := m.walk ((e - s + 2) * m.fuel) alive
        ⟨m.start, s, Array.replicate (m.groups + 1) 0, nothing, nothing, []⟩
      ⟨s, e, groups.set! 0 (some (s, e))⟩

def occursIn (m : Automaton) (text : Array Char) : Bool := (m.span? text 0).isSome

end Automaton

namespace Regex

def compile (d : Dialect) (text : List Char) : Except Problem Automaton :=
  (parse d text).map fun p => Automaton.ofRegex p.regex p.groups

end Regex

end DataplaneVerdict
