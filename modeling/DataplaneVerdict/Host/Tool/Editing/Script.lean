import DataplaneVerdict.Host.Tool.Editing.Command

/-!
# `Host.Tool.Editing.Script` — reading scripts of the stream editor

A script comes in pieces: texts on the command line and files. Commands stand on lines of their own or behind
semicolons.
-/

namespace DataplaneVerdict.Host.Tool

namespace Editing

/-! ## Complaints -/

/-- Where a piece of a script comes from. -/
inductive Origin where
  | expression (n : Nat)
  | file (path : Octets)

/-- What is wrong with a script, and the exit code for it. -/
structure Complaint where
  text : Octets
  code : Nat := 1

/-- How a place in a script is named in a message. -/
def Origin.place (o : Origin) (taken line : Nat) : Octets :=
  match o with
  | expression n => "-e expression #" ++ toString n ++ ", char " ++ toString taken ++ ": "
  | file path => "file " ++ path ++ " line " ++ toString line ++ ": "

/-! ## Reading -/

/-- What is being read, and the commands so far. -/
structure Reader where
  ahead : List Char := []
  taken : Nat := 0
  line : Nat := 1
  origin : Origin := .expression 0
  isFirst : Bool := true
  commands : Array Command := #[]
  blocks : List (Nat × Octets) := []
  isQuiet : Bool := false

abbrev Read := StateT Reader (Except Complaint)

/-- Refuses a script at the current place. -/
def refuse {α : Type} (text : Octets) : Read α := do
  let r ← get
  throw { text := r.origin.place r.taken r.line ++ text }

def take : Read (Option Char) := do
  let r ← get
  match r.ahead with
  | [] => pure none
  | c :: rest => do
    set { r with ahead := rest, taken := r.taken + 1, line := if c = '\n' then r.line + 1 else r.line }
    pure (some c)

def putBack : Option Char → Read Unit
  | none => pure ()
  | some c => modify fun r =>
    { r with ahead := c :: r.ahead, taken := r.taken - 1, line := if c = '\n' then r.line - 1 else r.line }

def skipWhile (p : Char → Bool) : Read Unit := modify fun r =>
  let skipped := r.ahead.takeWhile p
  { r with
    ahead := r.ahead.drop skipped.length, taken := r.taken + skipped.length
    line := r.line + skipped.count '\n' }

def isBlank (c : Char) : Bool := c = ' ' || c = '\t'

def isSpace (c : Char) : Bool := c = ' ' || ('\t' ≤ c && c ≤ '\r')

def takeNonBlank : Read (Option Char) := do
  skipWhile isBlank
  take

def takeWhile (p : Char → Bool) : Read (List Char) := do
  let found := (← get).ahead.takeWhile p
  skipWhile p
  pure found

/-- The number that starts with a character, or zero. -/
def number (first : Option Char) : Read Nat := do
  match first with
  | none => pure 0
  | some c =>
    if c.isDigit then do
      let ds ← takeWhile Char.isDigit
      pure (Nat.ofDigitChars 10 (c :: ds) 0)
    else do
      putBack first
      pure 0

/-- Nothing may follow a command on its line. -/
def endCommand : Read Unit := do
  match ← takeNonBlank with
  | some '\x7d' => putBack (some '\x7d')
  | some '#' => putBack (some '#')
  | none => pure ()
  | some '\n' => pure ()
  | some ';' => pure ()
  | some _ => refuse "extra characters after command"

/-! ## Texts -/

/-- Control characters that are written with letters. -/
def unescape : Nat → List Char → List Char
  | 0, cs => cs
  | _ + 1, [] => []
  | fuel + 1, '\\' :: c :: cs =>
    match c with
    | 'a' => '\x07' :: unescape fuel cs
    | 'f' => '\x0c' :: unescape fuel cs
    | 'n' => '\n' :: unescape fuel cs
    | 'r' => '\r' :: unescape fuel cs
    | 't' => '\t' :: unescape fuel cs
    | 'v' => '\x0b' :: unescape fuel cs
    | c => '\\' :: c :: unescape fuel cs
  | fuel + 1, c :: cs => c :: unescape fuel cs

structure Drafting where
  parts : List Part := []
  text : List Char := []
  greatest : Nat := 0

def Drafting.push (d : Drafting) (more : List Char) (group : Option Nat) : Drafting :=
  { d with
    parts := ⟨d.text.reverse ++ more, group⟩ :: d.parts, text := []
    greatest := max d.greatest (group.getD 0) }

/-- Splits a replacement at references to groups. -/
def draft : List Char → Drafting → Drafting
  | [], d => if d.text.isEmpty then d else d.push [] none
  | ['\\'], d => d.push ['\\'] none
  | '\\' :: c :: cs, d =>
    if c.isDigit then draft cs (d.push [] (some (c.toNat - 48)))
    else draft cs (d.push [c] none)
  | '&' :: cs, d => draft cs (d.push [] (some 0))
  | c :: cs, d => draft cs { d with text := c :: d.text }

/-- The parts of a replacement and the greatest group in it. -/
def replacement (raw : List Char) : List Part × Nat :=
  let d := draft (unescape (raw.length + 1) raw) {}
  (d.parts.reverse, d.greatest)

/-- Whether a place is in a bracket expression, where a delimiter is text. -/
inductive Bracket where
  | outside
  | start (negated : Bool)
  | inside
  | class_ (mark : Char)
deriving DecidableEq

def Bracket.after (b : Bracket) (c : Char) (next : Option Char) : Bracket :=
  match b with
  | outside => if c = '[' then .start false else .outside
  | start false => if c = '^' then .start true else if c = '[' && isMark next then .class_ (next.getD ' ') else .inside
  | start true => if c = '[' && isMark next then .class_ (next.getD ' ') else .inside
  | inside =>
    if c = ']' then .outside else if c = '[' && isMark next then .class_ (next.getD ' ') else .inside
  | class_ m => if c = m && next = some ']' then .start true else .class_ m
where
  isMark : Option Char → Bool
    | some ':' => true
    | some '.' => true
    | some '=' => true
    | _ => false

/-- The text up to a delimiter. -/
def delimited (isRegex : Bool) (slash : Char) : Nat → Bracket → (found : List Char) → Read (Option (List Char))
  | 0, _, _ => pure none
  | fuel + 1, b, found => do
    match ← take with
    | none => pure none
    | some '\n' => do
      putBack (some '\n')
      pure none
    | some c =>
      if c = slash && b = .outside then pure (some found.reverse)
      else if c = '\\' then do
        match ← take with
        | none => pure none
        | some 'n' =>
          if isRegex then delimited isRegex slash fuel (b.after 'n' none) ('\n' :: found)
          else if slash = 'n' then delimited isRegex slash fuel b ('n' :: found)
          else delimited isRegex slash fuel b ('n' :: '\\' :: found)
        | some k =>
          if b ≠ .outside then do
            putBack (some k)
            delimited isRegex slash fuel (b.after '\\' (some k)) ('\\' :: found)
          else if k = '\n' then delimited isRegex slash fuel b ('\n' :: found)
          else if k = slash && !(!isRegex && k = '&') then delimited isRegex slash fuel b (k :: found)
          else delimited isRegex slash fuel b (k :: '\\' :: found)
      else do
        let next := (← get).ahead.head?
        delimited isRegex slash fuel (if isRegex then b.after c next else b) (c :: found)

def readDelimited (isRegex : Bool) (slash : Option Char) : Read (Option (List Char)) := do
  match slash with
  | none => pure none
  | some '\n' => pure none
  | some '\\' => pure none
  | some c => delimited isRegex c ((← get).ahead.length + 1) .outside []

/-- The expression of an address or a substitution. -/
def finder (isExtended : Bool) (raw : List Char) (fold : Bool) (groups : Nat) : Read Finder := do
  if raw.isEmpty then
    if fold then refuse "cannot specify modifiers on empty regexp"
    pure .lastUsed
  else
    let text := unescape (raw.length + 1) raw
    let base := if isExtended then Regex.extended else Regex.basic
    let d : Regex.Dialect := { base with fold := fold, refusesBareClasses := true }
    match Regex.compile d text with
    | .error .bareClass => throw { text := Regex.Problem.bareClass.message, code := 4 }
    | .error e => refuse e.message
    | .ok a =>
      if a.groups < groups then refuse ("invalid reference \\" ++ toString groups ++ " on `s' command's RHS")
      else pure (.regex a)

/-! ## Scripts -/

/-- An address, if one starts here. -/
def address? (isExtended : Bool) (c : Option Char) : Read (Option Address) := do
  let regex (slash : Option Char) : Read (Option Address) := do
    match ← readDelimited true slash with
    | none => refuse "unterminated address regex"
    | some raw => do
      let k ← takeNonBlank
      if k ≠ some 'I' then putBack k
      return some (.found (← finder isExtended raw (k = some 'I') 0))
  match c with
  | some '/' => regex c
  | some '\\' => do regex (← take)
  | some '$' => pure (some .last)
  | some d => if d.isDigit then return some (.line (← number c)) else pure none
  | none => pure none

structure SubstitutionFlags where
  fold : Bool := false
  isGlobal : Bool := false
  nth : Option Nat := none
  prints : Bool := false

/-- The letters behind a substitution. -/
def substitutionFlags : Nat → SubstitutionFlags → Read SubstitutionFlags
  | 0, f => pure f
  | fuel + 1, f => do
    match ← take with
    | none => pure f
    | some '\n' => pure f
    | some ';' => pure f
    | some '\x7d' => do
      putBack (some '\x7d')
      pure f
    | some '#' => do
      putBack (some '#')
      pure f
    | some 'i' => substitutionFlags fuel { f with fold := true }
    | some 'I' => substitutionFlags fuel { f with fold := true }
    | some 'p' => do
      if f.prints then refuse "multiple `p' options to `s' command"
      substitutionFlags fuel { f with prints := true }
    | some 'g' => do
      if f.isGlobal then refuse "multiple `g' options to `s' command"
      substitutionFlags fuel { f with isGlobal := true }
    | some '\r' => do
      match ← take with
      | some '\n' => pure f
      | _ => refuse "unknown option to `s'"
    | some c =>
      if isBlank c then substitutionFlags fuel f
      else if c.isDigit then do
        if f.nth.isSome then refuse "multiple number options to `s' command"
        let n ← number (some c)
        if n = 0 then refuse "number option to `s' command may not be zero"
        substitutionFlags fuel { f with nth := some n }
      else refuse "unknown option to `s'"

def substitution (isExtended : Bool) : Read Substitution := do
  let unterminated {α : Type} : Read α := refuse "unterminated `s' command"
  let slash ← take
  let raw ← match ← readDelimited true slash with
    | some raw => pure raw
    | none => unterminated
  let new ← match ← readDelimited false slash with
    | some new => pure new
    | none => unterminated
  let (parts, greatest) := replacement new
  let f ← substitutionFlags ((← get).ahead.length + 1) {}
  let found ← finder isExtended raw f.fold greatest
  pure { finder := found, parts := parts, isGlobal := f.isGlobal, nth := f.nth.getD 1, prints := f.prints }

/-- What the letter of a command asks for. -/
def action (isExtended : Bool) (i : Nat) (first second : Option Address) (letter : Option Char) :
    Read (Option Action) := do
  let plain (a : Action) : Read (Option Action) := do
    endCommand
    pure (some a)
  let optionalNumber : Read (Option Nat) := do
    let c ← takeNonBlank
    if c.any Char.isDigit then return some (← number c)
    putBack c
    pure none
  match letter with
  | none => refuse "missing command"
  | some '#' => do
    if first.isSome then refuse "comments don't accept any addresses"
    let r ← get
    let isStart := r.isFirst && r.taken = 1
    let comment ← takeWhile (· != '\n')
    if isStart && comment.head? = some 'n' then modify fun r => { r with isQuiet := true }
    let _ ← take
    pure none
  | some '\x7b' => do
    let r ← get
    let place := match r.origin with
      | .expression n => Origin.place (.expression n) 0 0
      | o => o.place 0 r.line
    set { r with blocks := (i, place) :: r.blocks }
    pure (some (.block 0))
  | some '\x7d' => do
    match (← get).blocks with
    | [] => refuse "unexpected `\x7d'"
    | (start, _) :: rest => do
      if first.isSome then refuse "`\x7d' doesn't want any addresses"
      endCommand
      modify fun r => { r with blocks := rest, commands := r.commands.modify start fun c =>
        { c with action := .block i } }
      pure (some .nothing)
  | some 'q' => do
    if second.isSome then refuse "command only uses one address"
    let n ← optionalNumber
    plain (.quit (n.getD 0))
  | some '=' => plain .number
  | some 'd' => plain .delete
  | some 'n' => plain .next
  | some 'p' => plain .print
  | some 's' => do return some (.substitute (← substitution isExtended))
  | some c => refuse ("unknown command: `" ++ String.singleton c ++ "'")

/-- Reads commands to the end of a piece. -/
def commands (isExtended : Bool) : Nat → Read Unit
  | 0 => pure ()
  | fuel + 1 => do
    skipWhile fun c => c = ';' || isSpace c
    match ← take with
    | none => pure ()
    | c => do
      let i := (← get).commands.size
      let mut first ← address? isExtended c
      let mut second : Option Address := none
      let mut letter := c
      if first.isSome then
        letter ← takeNonBlank
        if letter = some ',' then
          second ← address? isExtended (← takeNonBlank)
          if second.isNone then refuse "unexpected `,'"
          letter ← takeNonBlank
        match first, second with
        | some (.line 0), some (.found _) => pure ()
        | some (.line 0), _ => refuse "invalid usage of line address 0"
        | _, _ => pure ()
      let isNegated := letter = some '!'
      if isNegated then
        letter ← takeNonBlank
        if letter = some '!' then refuse "multiple `!'s"
      -- the place of the command is taken before what it holds is read
      modify fun r => { r with commands := r.commands.push ⟨first, second, isNegated, .nothing⟩ }
      match ← action isExtended i first second letter with
      | some a => modify fun r => { r with commands := r.commands.modify i fun c => { c with action := a } }
      | none => modify fun r => { r with commands := r.commands.pop }
      commands isExtended fuel

/-- Reads a piece of a script. -/
def readPiece (isExtended : Bool) (origin : Origin) (text : Octets) : Read Unit := do
  modify fun r => { r with ahead := text.toList, taken := 0, line := 1, origin := origin }
  commands isExtended (text.length + 1)
  modify fun r => { r with isFirst := false }

structure Script where
  commands : Array Command
  isQuiet : Bool

/-- A script is complete if all blocks are closed. -/
def Reader.finish (r : Reader) : Except Complaint Script := do
  match r.blocks with
  | (_, place) :: _ => throw { text := place ++ "unmatched `\x7b'" }
  | [] => pure ()
  pure ⟨r.commands, r.isQuiet⟩

end Editing

end DataplaneVerdict.Host.Tool
