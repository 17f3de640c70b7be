import DataplaneVerdict.Json.Printer
import DataplaneVerdict.Yaml.Node

/-!
# `Yaml.Quoting` — texts as scalars of a flow collection

A text is written plainly where it would be read back as itself, else in the quotes that need no escapes, by preference
double ones. Long texts that are not keys are folded at spaces.
-/

namespace DataplaneVerdict.Yaml

/-- Where a text is written. -/
structure Place where
  indent : Nat
  implicitKey : Bool := false
  column : Option Nat := none

def lineWidth : Nat := 80

def leastWidth : Nat := 20

/-! ## Folding -/

structure FoldPoint where
  position : Int
  hard : Bool

/-- The search for places to break a line. -/
structure FoldScan where
  position : Nat := 0
  limit : Int
  split : Option Nat := none
  before : Option Nat := none
  escapeStart : Int := -1
  escapeStop : Int := -1
  folds : List FoldPoint := []
  stuck : Bool := false

namespace FoldScan

def isGap (u : Option Nat) : Bool := u = some 0x20 || u = some 0x9

def isWhite (u : Option Nat) : Bool := isGap u || u = some 0xA

def escapeReach (u : Option Nat) : Nat :=
  if u = some 'x'.toNat then 3 else if u = some 'u'.toNat then 5 else if u = some 'U'.toNat then 9 else 1

def passWhite (units : Array Nat) : Nat → Nat → Option Nat → Option Nat → Nat × Option Nat × Option Nat
  | 0, i, at_, before => (i, at_, before)
  | fuel + 1, i, at_, before =>
    if isGap before then passWhite units fuel (i + 1) units[i + 1]? at_ else (i, at_, before)

def breakHard (units : Array Nat) (step : Nat) (s : FoldScan) (here : Option Nat) : FoldScan :=
  let (i, here, _) := passWhite units (units.size + 1) s.position here s.before
  let j : Int := if s.escapeStop + 1 < i then (i : Int) - 2 else s.escapeStart - 1
  if s.folds.any fun f => f.hard && f.position = j then { s with stuck := true }
  else
    { s with position := i + 1, before := here, folds := ⟨j, true⟩ :: s.folds, limit := j + step, split := none }

/-- One code unit: a gap is remembered, and the line broken at the last one. -/
def take (units : Array Nat) (isQuoted : Bool) (indent step : Nat) (s : FoldScan) (unit : Nat) : FoldScan :=
  let start := s.position
  let s := if isQuoted && unit = '\\'.toNat then
      let stop := start + escapeReach units[start + 1]?
      { s with position := stop, escapeStart := start, escapeStop := stop }
    else s
  if unit = 0xA then
    { s with position := s.position + 1, limit := s.position + indent + step, split := none, before := some unit }
  else
    let s := if unit = 0x20 && s.before.isSome && !isWhite s.before && units[s.position + 1]?.isSome &&
        !isWhite units[s.position + 1]? then { s with split := some s.position } else s
    if (s.position : Int) < s.limit then { s with position := s.position + 1, before := some unit }
    else
      match s.split with
      | some p =>
        { s with
          position := s.position + 1, before := some unit, folds := ⟨p, false⟩ :: s.folds,
          limit := p + step, split := none }
      | none =>
        if isQuoted then s.breakHard units step (some unit)
        else { s with position := s.position + 1, before := some unit }

def run (units : Array Nat) (isQuoted : Bool) (indent step : Nat) : Nat → FoldScan → FoldScan
  | 0, s => s
  | fuel + 1, s =>
    match units[s.position]? with
    | some u => if s.stuck then s else run units isQuoted indent step fuel (s.take units isQuoted indent step u)
    | none => s

end FoldScan

def joinFolds (units : Array Nat) (indent : Nat) (folds : List FoldPoint) : List Nat :=
  let lineBreak : List Nat := 0xA :: List.replicate indent 0x20
  let stops := (folds.drop 1).map (fun f => f.position.toNat) ++ [units.size]
  let slice (i j : Nat) : List Nat := (units.extract i j).toList
  let first := slice 0 ((folds.head?.map fun f => f.position.toNat).getD units.size)
  (folds.zip stops).foldl (fun acc (f, stop) =>
    let p := f.position.toNat
    if p = 0 then lineBreak ++ slice 0 stop
    else acc ++ (if f.hard then slice p (p + 1) ++ ['\\'.toNat] else []) ++ lineBreak ++ slice (p + 1) stop) first

/-- Breaks a text into lines of the allowed width. -/
def foldText (isQuoted : Bool) (p : Place) (s : String) : String :=
  let step := max (1 + leastWidth) (1 + lineWidth - p.indent)
  let units := (Text.units s).toArray
  if units.size ≤ step then s
  else
    let (folds, limit) : List FoldPoint × Int := match p.column with
      | some c =>
        if lineWidth - leastWidth < c then ([⟨0, false⟩], (lineWidth : Int) - p.indent)
        else ([], (lineWidth : Int) - c)
      | none => ([], (lineWidth : Int) - p.indent)
    let scan := FoldScan.run units isQuoted p.indent step (units.size + 1) { limit := limit, folds := folds }
    if scan.stuck || scan.folds.isEmpty then s
    else String.ofList (Text.ofUnits (joinFolds units p.indent scan.folds.reverse))

/-! ## Quotes -/

def blanks (n : Nat) : List Char := List.replicate n ' '

def shortEscape (digits : List Char) : List Char :=
  if digits = "0000".toList then "\\0".toList
  else if digits = "0007".toList then "\\a".toList
  else if digits = "000b".toList then "\\v".toList
  else if digits = "001b".toList then "\\e".toList
  else if digits.take 2 = ['0', '0'] then '\\' :: 'x' :: digits.drop 2
  else '\\' :: 'u' :: digits

def leadingFeeds : Nat → List Char → Nat → Nat × List Char
  | 0, cs, n => (n, cs)
  | fuel + 1, cs, n =>
    match cs with
    | '\\' :: 'n' :: c :: rest => if c = '"' then (n, cs) else leadingFeeds fuel (c :: rest) (n + 1)
    | _ => (n, cs)

def respellFeed (breakable : Bool) (indent : Nat) (rest : List Char) : List Char × List Char :=
  if !breakable || rest.head? = some '"' then (['\\', 'n'], rest)
  else
    let (n, rest) := leadingFeeds (rest.length + 1) rest 0
    (List.replicate (n + 2) '\n' ++ blanks indent ++ (if rest.head? = some ' ' then ['\\'] else []), rest)

/-- Respells the escapes of a quoted text the shortest way. -/
def respell (breakable : Bool) (indent : Nat) : Nat → List Char → List Char
  | 0, cs => cs
  | fuel + 1, cs =>
    match cs with
    | ' ' :: '\\' :: 'n' :: rest =>
      let (feed, rest) := respellFeed breakable indent rest
      '\\' :: ' ' :: (feed ++ respell breakable indent fuel rest)
    | '\\' :: 'u' :: a :: b :: c :: d :: rest => shortEscape [a, b, c, d] ++ respell breakable indent fuel rest
    | '\\' :: 'n' :: rest =>
      let (feed, rest) := respellFeed breakable indent rest
      feed ++ respell breakable indent fuel rest
    | '\\' :: c :: rest => '\\' :: c :: respell breakable indent fuel rest
    | c :: rest => c :: respell breakable indent fuel rest
    | [] => []

def leastMultiLine : Nat := 40

/-- A text in double quotes. -/
def doubleQuoted (p : Place) (s : String) : String :=
  let json := Json.quote s
  let breakable := !p.implicitKey && leastMultiLine ≤ Text.unitCount json
  let t := String.ofList (respell breakable p.indent (json.length + 1) json)
  if p.implicitKey then t else foldText true p t

def doubleFeeds (indent : Nat) : List Char → List Char
  | [] => []
  | '\n' :: c :: rest =>
    if c = '\n' then '\n' :: doubleFeeds indent (c :: rest)
    else '\n' :: '\n' :: (blanks indent ++ doubleFeeds indent (c :: rest))
  | ['\n'] => '\n' :: '\n' :: blanks indent
  | c :: rest => c :: doubleFeeds indent rest

def hasNeighbours (first second : Char → Bool) : List Char → Bool
  | a :: b :: rest => (first a && second b) || hasNeighbours first second (b :: rest)
  | _ => false

def isGapChar (c : Char) : Bool := c = ' ' || c = '\t'

/-- A text in single quotes, where they can hold it. -/
def singleQuoted (p : Place) (s : String) : String :=
  let cs := s.toList
  if (p.implicitKey && cs.contains '\n') || hasNeighbours isGapChar (· = '\n') cs ||
    hasNeighbours (· = '\n') isGapChar cs then
    doubleQuoted p s
  else
    let t := "'" ++ String.ofList (doubleFeeds p.indent (cs.flatMap fun c =>
      if c = '\'' then ['\'', '\''] else [c])) ++ "'"
    if p.implicitKey then t else foldText false p t

/-- Single quotes for a text with double ones in it, else double. -/
def quoted (p : Place) (s : String) : String :=
  if s.toList.contains '"' && !s.toList.contains '\'' then singleQuoted p s else doubleQuoted p s

/-! ## Plain texts -/

def hasControls (s : String) : Bool :=
  s.toList.any fun c =>
    let n := c.toNat
    n ≤ 8 || (0xb ≤ n && n ≤ 0x1f) || (0x7f ≤ n && n ≤ 0x9f)

/-- Whether a plain text would be taken for something else. -/
def needsQuotes (cs : List Char) : Bool :=
  let first := match cs with
    | c :: _ => "\n\t ,[]\x7b\x7d#&*!|>'\"%@`".toList.contains c
    | [] => false
  let dash := match cs with
    | [c] => c = '?' || c = '-'
    | c :: d :: _ => (c = '?' || c = '-') && isGapChar d
    | [] => false
  let last := match cs.getLast? with
    | some c => "\n\t :".toList.contains c
    | none => false
  first || dash || last || hasNeighbours (fun c => c = '\n' || c = ':') isGapChar cs ||
    hasNeighbours isGapChar (· = '\n') cs || hasNeighbours (fun c => c = '\n' || isGapChar c) (· = '#') cs ||
    cs.any fun c => isFlowIndicator (some c)

def plainOrQuoted (p : Place) (readAs : String → Bool) (s : String) : String :=
  let cs := s.toList
  let t := String.ofList (doubleFeeds p.indent cs)
  if (p.implicitKey && cs.contains '\n') || needsQuotes cs || readAs t then quoted p s
  else if p.implicitKey then t
  else foldText false p t

/-- A text in its own style, where that style can hold it. -/
def writeText (p : Place) (style : Style) (readAs : String → Bool) (s : String) : String :=
  match if hasControls s then Style.double else style with
  | .double => doubleQuoted p s
  | .single => singleQuoted p s
  | .literal => quoted p s
  | .folded => quoted p s
  | .plain => plainOrQuoted p readAs s

end DataplaneVerdict.Yaml
