import DataplaneVerdict.Host.Numeral
import DataplaneVerdict.Host.Tool.Listing

/-!
# `Host.Tool.Sorting` — tools about the order of lines
-/

abbrev DataplaneVerdict.Host.Comparison := Ordering

namespace DataplaneVerdict.Host.Tool

namespace Sorting

/-! ## Keys -/

/-- What lines are compared as. -/
inductive Way where
  | text
  | numeric
deriving DecidableEq

/-- How a part of a line is compared. -/
structure Manner where
  way : Way := .text
  reverse : Bool := false
  fold : Bool := false
  skipStart : Bool := false
  skipEnd : Bool := false

def Manner.isUsual (m : Manner) : Bool :=
  m.way = .text && !m.reverse && !m.fold && !m.skipStart && !m.skipEnd

/-- A part of each line, from one field and character to another. -/
structure Key where
  startField : Nat := 0
  startChar : Nat := 0
  stop : Option (Nat × Nat) := none
  manner : Manner := {}

def isBlank (c : Char) : Bool := c = ' ' || c = '\t' || c = '\n'

/-- What follows so many fields. -/
def skipFields (tab : Option Char) : Nat → List Char → List Char
  | 0, cs => cs
  | n + 1, cs =>
    match tab with
    | some t => skipFields tab n ((cs.dropWhile (· != t)).drop 1)
    | none => skipFields tab n ((cs.dropWhile isBlank).dropWhile fun c => !isBlank c)

def endOfFields (tab : Option Char) : Nat → List Char → List Char
  | 0, cs => cs
  | n + 1, cs =>
    match tab with
    | some t =>
      let rest := cs.dropWhile (· != t)
      if n = 0 then rest else endOfFields tab n (rest.drop 1)
    | none => endOfFields tab n ((cs.dropWhile isBlank).dropWhile fun c => !isBlank c)

/-- The part of a line that a key means. -/
def Key.text (k : Key) (tab : Option Char) (line : List Char) : List Char :=
  let start := skipFields tab k.startField line
  let start := if k.manner.skipStart then start.dropWhile isBlank else start
  let start := start.drop k.startChar
  match k.stop with
  | none => start
  | some (field, char) =>
    let rest := if char = 0 then endOfFields tab (field + 1) line
      else
        let at_ := skipFields tab field line
        (if k.manner.skipEnd then at_.dropWhile isBlank else at_).drop char
    start.take (start.length - rest.length)

def Manner.letter (m : Manner) (atStart : Bool) : Char → Option Manner
  | 'b' => some (if atStart then { m with skipStart := true } else { m with skipEnd := true })
  | 'f' => some { m with fold := true }
  | 'n' => some { m with way := .numeric }
  | 'r' => some { m with reverse := true }
  | _ => none

def Manner.letters (m : Manner) (atStart : Bool) : List Char → Manner × List Char
  | [] => (m, [])
  | c :: cs =>
    match m.letter atStart c with
    | some m => m.letters atStart cs
    | none => (m, c :: cs)

def count? (cs : List Char) : Option (Nat × List Char) :=
  let ds := cs.takeWhile Char.isDigit
  if ds.isEmpty then none else some (Amount.digits ds, cs.drop ds.length)

/-- A key as it is written. -/
def Key.parse (text : Octets) : Except Octets Key := do
  let bad (why : Octets) : Except Octets Key := .error (why ++ ": invalid field specification " ++ Quoted.plain text)
  let badCount (place : Octets) (cs : List Char) : Except Octets Key :=
    .error (place ++ ": invalid count at start of " ++ Quoted.plain (String.ofList cs))
  match count? text.toList with
  | none => badCount "invalid number at field start" text.toList
  | some (0, _) => bad "field number is zero"
  | some (f, rest) =>
    let withChar : Except Octets (Nat × List Char) := match rest with
      | '.' :: rest' =>
        match count? rest' with
        | none => .error ("invalid number after '.': invalid count at start of " ++ Quoted.plain (String.ofList rest'))
        | some (0, _) => .error ("character offset is zero: invalid field specification " ++ Quoted.plain text)
        | some (c, rest') => .ok (c - 1, rest')
      | _ => .ok (0, rest)
    let (c, rest) ← withChar
    let (m, rest) := ({} : Manner).letters true rest
    match rest with
    | [] => .ok { startField := f - 1, startChar := c, manner := m }
    | ',' :: rest =>
      match count? rest with
      | none => badCount "invalid number after ','" rest
      | some (0, _) => bad "field number is zero"
      | some (ef, rest) =>
        let withEnd : Except Octets (Nat × List Char) := match rest with
          | '.' :: rest' =>
            match count? rest' with
            | none => .error ("invalid number after '.': invalid count at start of " ++
              Quoted.plain (String.ofList rest'))
            | some (c, rest') => .ok (c, rest')
          | _ => .ok (0, rest)
        let (ec, rest) ← withEnd
        let (m, rest) := m.letters false rest
        if rest.isEmpty then .ok { startField := f - 1, startChar := c, stop := some (ef - 1, ec), manner := m }
        else bad "stray character in field spec"
    | _ => bad "stray character in field spec"

/-! ## Comparing -/

/-- A decimal number of any length. -/
structure Numeric where
  negative : Bool
  whole : List Char
  part : List Char

def Numeric.ofText (cs : List Char) : Numeric :=
  let cs := cs.dropWhile isBlank
  let (negative, cs) := match cs with
    | '-' :: rest => (true, rest)
    | cs => (false, cs)
  let whole := cs.takeWhile Char.isDigit
  let part := match cs.drop whole.length with
    | '.' :: more => more.takeWhile Char.isDigit
    | _ => []
  let whole := whole.dropWhile (· == '0')
  let part := (part.reverse.dropWhile (· == '0')).reverse
  ⟨negative && !(whole.isEmpty && part.isEmpty), whole, part⟩

def orderOf (a b : List Char) : Comparison := compare (String.ofList a) (String.ofList b)

/-- Compares magnitudes. -/
def Numeric.compareAbs (a b : Numeric) : Comparison :=
  (compare a.whole.length b.whole.length).then ((orderOf a.whole b.whole).then (orderOf a.part b.part))

def Numeric.compare (a b : Numeric) : Comparison :=
  match a.negative, b.negative with
  | true, false => .lt
  | false, true => .gt
  | true, true => b.compareAbs a
  | false, false => a.compareAbs b

def Manner.prepare (m : Manner) (cs : List Char) : List Char := if m.fold then cs.map Char.toUpper else cs

def Manner.compare (m : Manner) (a b : List Char) : Comparison :=
  let o := match m.way with
    | .numeric => (Numeric.ofText a).compare (Numeric.ofText b)
    | .text => orderOf (m.prepare a) (m.prepare b)
  if m.reverse then o.swap else o

/-- How lines are sorted. -/
structure Plan where
  keys : List Key
  tab : Option Char
  reverse : Bool
  stable : Bool
  unique : Bool

structure Row where
  line : List Char
  texts : List (List Char)

def Plan.row (s : Plan) (line : List Char) : Row := ⟨line, s.keys.map fun k => k.text s.tab line⟩

/-- Compares by the keys, the first one that differs. -/
def Plan.compareKeys (s : Plan) (a b : Row) : Comparison :=
  (s.keys.zip (a.texts.zip b.texts)).foldl (fun o (k, x, y) => o.then (k.manner.compare x y)) .eq

/-- Compares by the keys, and last by the whole lines. -/
def Plan.compare (s : Plan) (a b : Row) : Comparison :=
  match s.compareKeys a b with
  | .eq =>
    if s.stable || s.unique then .eq
    else
      let o := orderOf a.line b.line
      if s.reverse then o.swap else o
  | o => o

/-! ## Sorting -/

def linesOf (text : Octets) : List (List Char) :=
  let parts := text.splitOn "\n"
  (if parts.getLast? = some "" then parts.dropLast else parts).map String.toList

/-- The first line of those that are alike. -/
def firsts (s : Plan) : List Row → List Row
  | [] => []
  | [a] => [a]
  | a :: b :: rest =>
    if s.compareKeys a b = .eq then firsts s (a :: rest) else a :: firsts s (b :: rest)
termination_by rows => rows.length

def sortFlags : List Flag :=
  [.plain 'b' "ignore-leading-blanks", .plain 'f' "ignore-case", .plain 'n' "numeric-sort", .plain 'r' "reverse",
   .withValue 'k' "key", .withValue 'o' "output", .plain 's' "stable", .withValue 't' "field-separator",
   .plain 'u' "unique"]

def mannerLetter? (g : Given) : Option Char :=
  match g.key with
  | "ignore-leading-blanks" => some 'b'
  | "ignore-case" => some 'f'
  | "numeric-sort" => some 'n'
  | "reverse" => some 'r'
  | _ => none

/-- `sort`: lines in order. -/
def sort (_ : Runner) (words : List Octets) : Tool Unit := do
  let a ← arguments 2 sortFlags words
  let letters := a.given.filterMap mannerLetter?
  let manner := letters.foldl (fun (m : Manner) c =>
    if c = 'b' then { m with skipStart := true, skipEnd := true } else (m.letter true c).getD m) {}
  let tab ← match a.value? "field-separator" with
    | none => pure none
    | some t =>
      match t.toList with
      | [] => fail 2 "empty tab"
      | [c] => pure (some c)
      | ['\\', '0'] => pure (some '\x00')
      | _ => fail 2 ("multi-character tab " ++ Quoted.plain t)
  let keys ← (a.values "key").mapM fun t => do
    match Key.parse t with
    | .ok k => pure k
    | .error e => fail 2 e
  let keys := keys.map fun k => if k.manner.isUsual then { k with manner := manner } else k
  let keys := if keys.isEmpty && !{ manner with reverse := false }.isUsual then [{ manner := manner }] else keys
  let plainKeys : List Key := if keys.isEmpty then [{ manner := { reverse := manner.reverse } }] else keys
  let s : Plan := ⟨plainKeys, tab, manner.reverse, a.has "stable" || keys.isEmpty, a.has "unique"⟩
  let files := inputs a.operands
  let read (path : Octets) : Tool Octets := do
    match ← openInput path with
    | .error e => fail 2 ("cannot read: " ++ Quoted.forShell path ++ ": " ++ e.notice)
    | .ok fd => do
      let (text, problem) ← act (Act.readAll fd)
      closeInput fd
      match problem with
      | some e => fail 2 ("read failed: " ++ Quoted.forShell path ++ ": " ++ e.notice)
      | none => pure text
  for path in files do
    if path ≠ "-" then
      match ← act (Act.stat path .target) with
      | .error e => fail 2 ("cannot read: " ++ Quoted.forShell path ++ ": " ++ e.notice)
      | .ok _ => pure ()
  let texts ← files.mapM read
  let sorted := ((texts.flatMap linesOf).map s.row).mergeSort fun x y => s.compare x y ≠ .gt
  let kept := if a.has "unique" then firsts s sorted else sorted
  match a.value? "output" with
  | none =>
    for r in kept do
      print (marked '\n' r.line)
  | some path => do
    match ← ask (.open path .forWriting 0o666) with
    | .ok fd => act (Act.put fd (String.join (kept.map fun r => marked '\n' r.line)))
    | .error e => fail 2 ("open failed: " ++ Quoted.forShell path ++ ": " ++ e.notice)

end Sorting

end DataplaneVerdict.Host.Tool
