import DataplaneVerdict.Host.Tool.Listing
import DataplaneVerdict.Regex.Automaton

/-!
# `Host.Tool.Searching` — searching lines
-/

namespace DataplaneVerdict.Host.Tool

namespace Searching

/-! ## Queries -/

/-- What is searched for; `word` wants whole words. -/
structure Query where
  automata : List Automaton
  invert : Bool
  word : Bool

/-- The match that starts first, and of those the longest. -/
def better (a b : Option (Nat × Nat)) : Option (Nat × Nat) :=
  match a, b with
  | none, b => b
  | a, none => a
  | some (s, e), some (t, f) => if s < t || (s = t && f ≤ e) then some (s, e) else some (t, f)

/-- Whether no letter is directly before or behind. -/
def standsAlone (text : Array Char) (s e : Nat) : Bool :=
  let isWordAt (n : Nat) : Bool := (text[n]?.map Regex.isWord).getD false
  !(s ≠ 0 && isWordAt (s - 1)) && !isWordAt e

/-- The first match that is a word. -/
def Query.wordFrom (q : Query) (text : Array Char) : Nat → Nat → Option (Nat × Nat)
  | 0, _ => none
  | more + 1, at_ =>
    let ends := q.automata.filterMap fun m => (m.endsFrom text at_).find? fun e => standsAlone text at_ e
    match ends with
    | [] => q.wordFrom text more (at_ + 1)
    | e :: rest => some (at_, rest.foldl max e)

def Query.matchFrom (q : Query) (text : Array Char) (at_ : Nat) : Option (Nat × Nat) :=
  if q.word then q.wordFrom text (text.size + 1 - at_) at_
  else q.automata.foldl (fun best m => better best (m.span? text at_)) none

/-- Whether a line is wanted. -/
def Query.selects (q : Query) (text : Array Char) : Bool :=
  (if q.word then (q.matchFrom text 0).isSome else q.automata.any fun m => m.occursIn text) != q.invert

/-- The matches of a line, one behind the other. -/
def Query.parts (q : Query) (text : Array Char) : Nat → Nat → List (Nat × Nat)
  | 0, _ => []
  | more + 1, at_ =>
    match q.matchFrom text at_ with
    | none => []
    | some (s, e) =>
      if s < e then (s, e) :: q.parts text more e
      else if e < text.size then q.parts text more (e + 1) else []

/-! ## Reports -/

/-- What is told about lines. `names` asks for files with matches, or without. -/
structure Report where
  count : Bool
  names : Option Bool
  quiet : Bool
  onlyParts : Bool
  numbers : Bool
  fileNames : Bool
  before : Nat
  after : Nat
  most : Option Nat
  hidesBinary : Bool

structure Numbered where
  number : Nat
  text : List Char

/-- How far an input has been searched: lines held for context, and lines still owed. -/
structure Progress where
  number : Nat := 0
  held : List Numbered := []
  owed : Nat := 0
  lastShown : Option Nat := none
  selected : Nat := 0
  isBinary : Bool := false
  isOver : Bool := false
deriving Inhabited

/-- What stands before a line. -/
def Report.front (r : Report) (label : Octets) (sep : Char) (line : Numbered) : Octets :=
  (if r.fileNames then label.push sep else "") ++ (if r.numbers then (toString line.number).push sep else "")

def Report.say (r : Report) (q : Query) (label : Octets) (sep : Char) (line : Numbered) : Tool Unit := do
  if r.onlyParts then
    if sep = ':' && !q.invert then
      let text := line.text.toArray
      for (s, e) in q.parts text (text.size + 1) 0 do
        print (r.front label sep line ++ String.ofList ((line.text.drop s).take (e - s)) ++ "\n")
  else print (r.front label sep line ++ String.ofList line.text ++ "\n")

def Report.showsLines (r : Report) : Bool := !r.count && r.names.isNone && !r.quiet

/-- Tells of a line that was found, and of those before it. -/
def Report.select (r : Report) (q : Query) (label : Octets) (p : Progress) (line : Numbered) : Tool Progress := do
  let p := { p with selected := p.selected + 1 }
  if !r.showsLines then
    pure { p with isOver := r.quiet || r.names.isSome }
  else if p.isBinary && r.hidesBinary then do
    warn (label ++ ": binary file matches")
    pure { p with isOver := true }
  else do
    let earlier := p.held.reverse
    let firstShown := ((earlier.head?.map Numbered.number).getD line.number)
    match p.lastShown with
    | some n => if (r.before ≠ 0 || r.after ≠ 0) && n + 1 < firstShown then print "--\n"
    | none => pure ()
    for l in earlier do
      r.say q label '-' l
    r.say q label ':' line
    pure { p with held := [], owed := r.after, lastShown := some line.number }

/-- Looks at one line. -/
def Report.line (r : Report) (q : Query) (label : Octets) (p : Progress) (text : List Char) : Tool Progress := do
  let line : Numbered := ⟨p.number + 1, text⟩
  let p := { p with number := p.number + 1, isBinary := p.isBinary || text.contains '\x00' }
  if q.selects text.toArray then r.select q label p line
  else if p.owed ≠ 0 && r.showsLines then do
    r.say q label '-' line
    pure { p with owed := p.owed - 1, lastShown := some line.number }
  else pure { p with held := if r.before = 0 then [] else (line :: p.held).take r.before }

/-- Shows lines behind the last one. -/
def Report.rest (r : Report) (q : Query) (label : Octets) : Nat → Progress → Lines → Tool Unit
  | 0, _, _ => pure ()
  | fuel + 1, p, l =>
    if p.owed = 0 || !r.showsLines then pure ()
    else do
      match ← l.line with
      | (none, _) => pure ()
      | (some (text, _), l) => do
        r.say q label '-' ⟨p.number + 1, text⟩
        r.rest q label fuel { p with number := p.number + 1, owed := p.owed - 1 } l

/-- Searches lines, up to the greatest count. -/
def Report.scan (r : Report) (q : Query) (label : Octets) : Nat → Progress → Lines → Tool (Progress × Lines)
  | 0, p, l => pure (p, l)
  | fuel + 1, p, l => do
    if p.isOver then pure (p, l)
    else if r.most.any fun n => n ≤ p.selected then do
      -- what is not used is given back before the lines behind are shown
      let unused := l.held.length
      r.rest q label r.after p l
      pure ({ p with isOver := true }, if unused = 0 then { l with held := [] } else l)
    else do
      match ← l.line with
      | (none, l) => pure (p, l)
      | (some (text, _), l) => do
        let isBinary := p.isBinary || (l.held.contains '\x00' && p.number = 0)
        let p ← r.line q label { p with isBinary := isBinary } text
        r.scan q label fuel p l

/-! ## Files -/

def isOutput (fd : Nat) : Tool Bool := do
  match ← ask (.descriptor fd), ← ask (.descriptor 1) with
  | some i, some o =>
    if i ≠ o then pure false
    else
      act (Act.look fun d _ =>
        match d.node? i with
        | some (.file _) => true
        | _ => false)
  | _, _ => pure false

/-- What came of a search. -/
structure Outcome where
  found : Bool := false
  failed : Bool := false

/-- Searches one input. -/
def Report.input (r : Report) (q : Query) (fd : Nat) (label : Octets) (silent : Bool) : Tool Outcome := do
  if r.showsLines && r.most ≠ some 1 && (← isOutput fd) then do
    warn (label ++ ": input file is also the output")
    pure { failed := true }
  else do
    let (p, l) ← r.scan q label Act.fuel {} { fd := fd }
    if r.most.any fun n => n ≤ p.selected then l.giveBack
    let failed ← match l.problem with
      | some e => do
        if !silent then warn (label ++ ": " ++ e.notice)
        pure true
      | none => pure false
    let selected := p.selected
    if r.count && !r.quiet && r.names.isNone && !failed then
      print ((if r.fileNames then label ++ ":" else "") ++ toString selected ++ "\n")
    match r.names with
    | some wanted =>
      if !r.quiet && (selected ≠ 0) == wanted && !failed then print (label ++ "\n")
    | none => pure ()
    let found := match r.names with
      | some false => selected = 0 && !failed
      | _ => selected ≠ 0
    pure ⟨found, failed⟩

def searchPath (r : Report) (q : Query) (silent : Bool) (path : Octets) : Tool Outcome := do
  let refuse (e : FileProblem) : Tool Outcome := do
    if !silent then warn (path ++ ": " ++ e.notice)
    pure { failed := true }
  match ← ask (.open path .forReading 0) with
  | .error e => refuse e
  | .ok fd => do
    let o ← r.input q fd path silent
    act (Act.close fd)
    pure o

/-! ## The tool -/

def usage {α : Type} : Tool α := do
  message ("Usage: " ++ (← name) ++ " [OPTION]... PATTERNS [FILE]...\n")
  seeHelp 2

def flags : List Flag :=
  [.plain 'E' "extended-regexp", .plain 'F' "fixed-strings", .plain 'G' "basic-regexp",
   .withValue 'e' "regexp", .plain 'i' "ignore-case", .onlyLetter 'y',
   .plain 'w' "word-regexp", .plain 'x' "line-regexp", .plain 's' "no-messages",
   .plain 'v' "invert-match", .withValue 'm' "max-count", .plain 'n' "line-number",
   .plain 'H' "with-filename", .plain 'h' "no-filename",
   .plain 'o' "only-matching", .plain 'q' "quiet", .onlyName "silent", .plain 'a' "text",
   .plain 'L' "files-without-match", .plain 'l' "files-with-matches", .plain 'c' "count",
   .withValue 'B' "before-context", .withValue 'A' "after-context", .withValue 'C' "context"] ++
    "0123456789".toList.map Flag.onlyLetter

/-- The number of lines around that was asked for last, also by its digits. -/
def contextGiven (given : List Given) : Option Octets :=
  (given.foldl (fun ((digits, value) : Octets × Option Octets) g =>
    if g.key = "context" then ("", g.value)
    else if g.key.length = 1 && g.key.toList.all Char.isDigit then (digits ++ g.key, some (digits ++ g.key))
    else (digits, value)) ("", none)).2

/-- An expression for a text itself. -/
def literal (fold : Bool) (cs : List Char) : Regex :=
  cs.foldr (fun c r => .cat (Regex.single { fold := fold } c) r) .empty

/-- `grep`: lines that match. -/
def grep (_ : Runner) (words : List Octets) : Tool Unit := do
  let a ← match Arguments.read flags (← setting? "POSIXLY_CORRECT").isSome words with
    | .ok a => pure a
    | .error e => do
      warn e.text
      usage
  let number (value : Option Octets) : Tool (Option Nat) := do
    match value with
    | none => pure none
    | some t =>
      match Amount.natural? t with
      | some n => pure (some n)
      | none => fail 2 (t ++ ": invalid context length argument")
  let around ← number (contextGiven a.given)
  let afterLines ← number (a.value? "after-context")
  let beforeLines ← number (a.value? "before-context")
  let most ← match a.value? "max-count" with
    | none => pure none
    | some t =>
      match t.toList with
      | '-' :: ds => if (Amount.natural? (String.ofList ds)).isSome then pure none else fail 2 "invalid max count"
      | _ =>
        match Amount.natural? t with
        | some n => pure (some n)
        | none => fail 2 "invalid max count"
  let silent := a.has "no-messages"
  -- the patterns
  let given := a.values "regexp"
  let (texts, operands) ← if !given.isEmpty then
      pure (given.flatMap fun p => (p.splitOn "\n").map String.toList, a.operands)
    else
      match a.operands with
      | [] => usage
      | p :: rest => pure ((p.splitOn "\n").map String.toList, rest)
  let fold := a.has "ignore-case" || a.has "y"
  let kind := (a.last? ["extended-regexp", "fixed-strings", "basic-regexp"]).getD "basic-regexp"
  let whole (r : Regex) : Regex :=
    if a.has "line-regexp" then .cat (.check .textStart) (.cat r (.check .textEnd)) else r
  let automata ← texts.mapM fun t => do
    if kind = "fixed-strings" then pure (Automaton.ofRegex (whole (literal fold t)) 0)
    else
      let d : Regex.Dialect := if kind = "basic-regexp" then { Regex.searching with fold := fold }
        else { Regex.searchingExtended with fold := fold }
      match Regex.parse d t with
      | .error e => fail 2 e.message
      | .ok p => do
        for s in p.skipped do
          warn ("warning: " ++ s ++ " at start of expression")
        pure (Automaton.ofRegex (whole p.regex) p.groups)
  let q : Query := ⟨automata, a.has "invert-match", a.has "word-regexp" && !a.has "line-regexp"⟩
  let operands := inputs operands
  let r : Report :=
    { count := a.has "count"
      names := (a.last? ["files-with-matches", "files-without-match"]).map fun k => k = "files-with-matches"
      quiet := a.has "quiet" || a.has "silent", onlyParts := a.has "only-matching", numbers := a.has "line-number"
      fileNames := match a.last? ["with-filename", "no-filename"] with
        | some k => k = "with-filename"
        | none => 1 < operands.length
      before := if a.has "only-matching" then 0 else (beforeLines.orElse fun _ => around).getD 0
      after := if a.has "only-matching" then 0 else (afterLines.orElse fun _ => around).getD 0
      most := most, hidesBinary := !a.has "text" }
  if most = some 0 then exit 1
  let mut all : Outcome := {}
  for path in operands do
    if !(r.quiet && all.found) then
      let o ← if path = "-" then r.input q 0 "(standard input)" silent
        else searchPath r q silent path
      all := ⟨all.found || o.found, all.failed || o.failed⟩
  exit (if all.found && (r.quiet || !all.failed) then 0 else if all.failed then 2 else 1)

end Searching

end DataplaneVerdict.Host.Tool
