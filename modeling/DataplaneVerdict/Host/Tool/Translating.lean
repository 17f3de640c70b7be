import DataplaneVerdict.Host.Tool.Amount
import DataplaneVerdict.Shell.Pattern

/-!
# `Host.Tool.Translating` — replacing characters by others

Two sets of characters are written with escapes, ranges and classes. Characters of the first are replaced by those of
the second, or deleted, or squeezed where they repeat.
-/

namespace DataplaneVerdict.Host.Tool

namespace Translating

/-! ## Sets -/

/-- A piece of a set. -/
inductive Part where
  | char (c : Char)
  | range (low high : Char)
  | named (name : String)

/-- A character, and whether it was escaped. -/
abbrev Written := Char × Bool

def unescape : Nat → List Char → List Written × Bool
  | 0, _ => ([], false)
  | _ + 1, [] => ([], false)
  | _ + 1, ['\\'] => ([('\\', false)], true)
  | fuel + 1, '\\' :: c :: cs =>
    let simple (x : Char) : List Written × Bool :=
      let (rest, b) := unescape fuel cs
      ((x, true) :: rest, b)
    match c with
    | 'a' => simple '\x07'
    | 'b' => simple '\x08'
    | 'f' => simple '\x0c'
    | 'n' => simple '\n'
    | 'r' => simple '\r'
    | 't' => simple '\t'
    | 'v' => simple '\x0b'
    | c =>
      if '0' ≤ c && c ≤ '7' then
        let three := ((c :: cs).take 3).takeWhile fun d => '0' ≤ d && d ≤ '7'
        let value (ds : List Char) : Nat := ds.foldl (fun n d => n * 8 + (d.toNat - 48)) 0
        let ds := if value three < 256 then three else three.take 2
        let (rest, b) := unescape fuel ((c :: cs).drop ds.length)
        ((Char.ofNat (value ds), true) :: rest, b)
      else simple c
  | fuel + 1, c :: cs =>
    let (rest, b) := unescape fuel cs
    ((c, false) :: rest, b)

inductive Problem where
  | reversedRange (low high : Written)
  | badClass (name : List Char)

def shown (c : Char) : List Char :=
  if Shell.Pattern.isInClass "print" c then [c]
  else '\\' :: [Char.ofNat (48 + c.toNat / 64), Char.ofNat (48 + c.toNat / 8 % 8), Char.ofNat (48 + c.toNat % 8)]

def Problem.text : Problem → Octets
  | reversedRange low high =>
    "range-endpoints of '" ++ String.ofList (shown low.1) ++ "-" ++ String.ofList (shown high.1) ++
      "' are in reverse collating sequence order"
  | badClass name => "invalid character class " ++ Quoted.plain (String.ofList name)

/-- The text up to a character and a bracket. -/
def upTo (c : Char) : List Written → List Char → Option (List Char × List Written)
  | [], _ => none
  | [_], _ => none
  | (a, ea) :: (b, eb) :: rest, acc =>
    if a = c && !ea && b = ']' && !eb then some (acc.reverse, rest) else upTo c ((b, eb) :: rest) (a :: acc)

/-- The pieces of a set. -/
def parts : Nat → List Written → Except Problem (List Part)
  | 0, _ => .ok []
  | _ + 1, [] => .ok []
  | fuel + 1, ws =>
    let behind (p : Part) (rest : List Written) : Except Problem (List Part) := (parts fuel rest).map (p :: ·)
    let plain : Except Problem (List Part) :=
      match ws with
      | low :: ('-', false) :: high :: rest =>
        if high.1 < low.1 then .error (.reversedRange low high) else behind (.range low.1 high.1) rest
      | (c, _) :: rest => behind (.char c) rest
      | [] => .ok []
    match ws with
    | ('[', false) :: (':', false) :: rest =>
      match upTo ':' rest [] with
      | some (name, rest) =>
        if Shell.Pattern.classNames.contains (String.ofList name) then behind (.named (String.ofList name)) rest
        else .error (.badClass name)
      | none => plain
    | _ => plain

def everything : List Char := (List.range 256).map Char.ofNat

/-- The characters that a piece stands for. -/
def Part.chars : Part → List Char
  | char c => [c]
  | range low high => ((List.range (high.toNat - low.toNat + 1)).map fun n => Char.ofNat (low.toNat + n))
  | named name => everything.filter (Shell.Pattern.isInClass name)

def Part.isOtherClass : Part → Bool
  | named n => n ≠ "upper" && n ≠ "lower"
  | _ => false

/-! ## The tool -/

/-- What becomes of each character; runs of those in `squeezed` become one. -/
structure Plan where
  replace : Array Char
  deleted : Array Bool
  squeezed : Array Bool

/-- Translates a text; the last character is kept for the next. -/
def Plan.run (p : Plan) : List Char → Option Char → List Char → List Char × Option Char
  | [], last, out => (out, last)
  | c :: cs, last, out =>
    if p.deleted[c.toNat]?.getD false then p.run cs last out
    else
      let d := p.replace[c.toNat]?.getD c
      if p.squeezed[d.toNat]?.getD false then
        if last = some d then p.run cs last out else p.run cs (some d) (d :: out)
      else p.run cs none (d :: out)

def Plan.apply (p : Plan) : Nat → Option Char → Tool Unit
  | 0, _ => pure ()
  | fuel + 1, last => do
    match ← ask (.read 0 8192) with
    | .error .interrupted => p.apply fuel last
    | .error e => fail 1 ("read error: " ++ e.notice)
    | .ok "" => pure ()
    | .ok text => do
      let (out, last) := p.run text.toList last []
      print (String.ofList out.reverse)
      if (← get).outProblem.isNone then p.apply fuel last

def members (cs : List Char) : Array Bool := cs.foldl (fun a c => a.set! c.toNat true) (Array.replicate 256 false)

/-- `tr`: replaces and deletes characters. -/
def tr (_ : Runner) (words : List Octets) : Tool Unit := do
  let a ← leadingArguments 1
    [.plain 'c' "complement", .onlyLetter 'C', .plain 'd' "delete", .plain 's' "squeeze-repeats"] words
  let complement := a.has "complement" || a.has "C"
  let deletes := a.has "delete"
  let squeezes := a.has "squeeze-repeats"
  let translates := !deletes && (a.operands.length = 2)
  let least := if deletes == squeezes then 2 else 1
  let most := if deletes && !squeezes then 1 else 2
  if a.operands.length < least then
    match a.operands with
    | [] => misuse 1 "missing operand"
    | w :: _ => do
      warn ("missing operand after " ++ Quoted.plain (a.operands.getLast?.getD w))
      message (if deletes && squeezes then "Two strings must be given when both deleting and squeezing repeats.\n"
        else "Two strings must be given when translating.\n")
      seeHelp 1
  if most < a.operands.length then
    warn ("extra operand " ++ Quoted.plain (a.operands[most]?.getD ""))
    if a.operands.length = 2 then message "Only one string may be given when deleting without squeezing repeats.\n"
    seeHelp 1
  let readSet (text : Octets) : Tool (List Part) := do
    let (ws, endsOpen) := unescape (text.length + 1) text.toList
    if endsOpen then warn "warning: an unescaped backslash at end of string is not portable"
    match parts (ws.length + 1) ws with
    | .ok ps => pure ps
    | .error e => fail 1 e.text
  let set1 ← readSet (a.operands[0]?.getD "")
  let set2 ← readSet (a.operands[1]?.getD "")
  let given := set1.flatMap Part.chars
  let first := if complement then everything.filter fun c => !given.contains c else given
  let second := set2.flatMap Part.chars
  if translates then
    if set2.any Part.isOtherClass then
      fail 1 "when translating, the only character classes that may appear in\nstring2 are 'upper' and 'lower'"
    if second.isEmpty && !first.isEmpty then fail 1 "when not truncating set1, string2 must be non-empty"
    let second := second ++ List.replicate (first.length - second.length) (second.getLast?.getD '\x00')
    let table := (first.zip second).foldl (fun t (c, d) => t.set! c.toNat d) everything.toArray
    ({ replace := table, deleted := Array.replicate 256 false
       squeezed := if squeezes then members second else Array.replicate 256 false } : Plan).apply Act.fuel none
  else
    ({ replace := everything.toArray, deleted := if deletes then members first else Array.replicate 256 false
       squeezed := if !squeezes then Array.replicate 256 false
         else if deletes then members second else members first } : Plan).apply Act.fuel none

end Translating

end DataplaneVerdict.Host.Tool
