import DataplaneVerdict.Shell.Arithmetic
import DataplaneVerdict.Shell.Field

/-!
# `Shell.Expansion` — the expansion of words

Tildes, parameters, command substitutions and arithmetic are expanded in one pass from left to right. The result is
split into fields, and fields that are patterns are replaced by the names of files that match them.
-/

namespace DataplaneVerdict.Shell

open Host

/-- What is done to the text of a word. -/
structure Mode where
  isFull : Bool := false
  isInner : Bool := false
  isQuoted : Bool := false
  tilde : Bool := false
  isAssignment : Bool := false
deriving Inhabited

/-- How the output of a command is found. -/
abbrev Substitute := Option Command → Sh String

namespace Expansion

/-! ## Values -/

/-- The home directories of users. -/
def homes : List (String × String) :=
  [("root", "/root"), ("daemon", "/usr/sbin"), ("bin", "/bin"), ("sys", "/dev"), ("sync", "/bin"),
   ("games", "/usr/games"),
   ("man", "/var/cache/man"), ("lp", "/var/spool/lpd"), ("mail", "/var/mail"), ("news", "/var/spool/news"),
   ("uucp", "/var/spool/uucp"), ("proxy", "/bin"), ("www-data", "/var/www"), ("backup", "/var/backups"),
   ("list", "/var/list"), ("irc", "/run/ircd"), ("_apt", "/nonexistent"), ("nobody", "/nonexistent"),
   ("ubuntu", "/home/ubuntu")]

def optionLetters : List (String × Char) :=
  [("errexit", 'e'), ("noglob", 'f'), ("ignoreeof", 'I'), ("interactive", 'i'), ("monitor", 'm'), ("noexec", 'n'),
   ("stdin", 's'), ("xtrace", 'x'), ("verbose", 'v'), ("vi", 'V'), ("emacs", 'E'),
   ("noclobber", 'C'), ("allexport", 'a'),
   ("notify", 'b'), ("nounset", 'u'), ("privileged", 'p')]

def cells (quoted : Bool) (text : String) : List Cell := text.toList.map fun c => .char c quoted

def separators (s : State) : List Char := ((s.lookup "IFS").getD " \t\n").toList

/-- All arguments, with something between them. -/
def joinArguments (quoted : Bool) (between : List Cell) : List String → List Cell
  | [] => []
  | [a] => cells quoted a
  | a :: rest => cells quoted a ++ between ++ joinArguments quoted between rest

/-- The value of a parameter, if it is set. -/
def parameter (s : State) (m : Mode) (name : String) : Option (List Cell) :=
  let quoted := m.isQuoted
  let text (t : String) : Option (List Cell) := some (cells quoted t)
  let all : Option (List Cell) :=
    let first := (separators s).head?
    let between : List Cell :=
      if m.isFull && !quoted then [.divider]
      else
        match first with
        | some c => [.char c quoted]
        | none => []
    some (joinArguments quoted between s.arguments)
  match name with
  | "$" => text (toString s.pid)
  | "?" => text (toString s.status)
  | "#" => text (toString s.arguments.length)
  | "!" => s.lastBackground.bind fun n => text (toString n)
  | "-" =>
    text (String.ofList ((optionLetters.filter fun o => s.hasOption o.1).map (·.2)).reverse)
  | "@" => if quoted && m.isFull then some (joinArguments quoted [.divider] s.arguments) else all
  | "*" => all
  | name =>
    if (name.toList.head?.map Char.isDigit).getD false then
      let n := name.toNat?.getD 0
      if n = 0 then text s.name else s.arguments[n - 1]?.bind text
    else (s.lookup name).bind text

/-! ## Trimming -/

def cellChar : Cell → Char
  | .char c _ => c
  | _ => '\x00'

def splits {α : Type} (xs : List α) : List (List α × List α) :=
  (List.range (xs.length + 1)).map fun n => (xs.take n, xs.drop n)

/-- A value without the part that a pattern accepts. -/
def trim (op : ParamOp) (pattern : Pattern) (value : List Cell) : List Cell :=
  let isMatch (cs : List Cell) : Bool := pattern.accepts (cs.map cellChar)
  let ways := splits value
  match op with
  | .trimLeft longest =>
    let ways := if longest then ways.reverse else ways
    ((ways.find? fun w => isMatch w.1).map (·.2)).getD value
  | .trimRight longest =>
    let ways := if longest then ways else ways.reverse
    ((ways.find? fun w => isMatch w.2).map (·.1)).getD value
  | _ => value

/-! ## Words -/

/-- The home directory at the start of a word, and the rest. -/
def tildePrefix? (s : State) (isAssignment : Bool) (w : Word) : Option (String × Word) :=
  match w with
  | .lit '~' :: rest =>
    let isName : Part → Bool
      | .lit c => c ≠ '/' && !(isAssignment && c = ':')
      | _ => false
    let name := rest.takeWhile isName
    let after := rest.dropWhile isName
    let ends := match after with
      | [] => true
      | .lit _ :: _ => true
      | _ => false
    if !ends then none
    else
      let home := if name.isEmpty then s.lookup "HOME" else homes.lookup (String.ofList (Word.bareText name))
      home.map fun h => (h, after)
  | _ => none

/-- The pieces so far, and whether a tilde may stand here. -/
structure Progress where
  done : List Piece := []
  inQuotes : Bool := false
  isPastEquals : Bool := false
  tilde : Bool := false

def Progress.add (p : Progress) (pieces : List Piece) : Progress :=
  { p with done := pieces.reverse ++ p.done, tilde := false }

def Progress.addLiteral (p : Progress) (splits : Bool) (c : Char) : Progress :=
  let splitting : Splitting := if splits then .separators else .none
  let cell := Cell.char c false
  match p.done with
  | last :: rest =>
    if last.splitting = splitting && (splitting = .none || last.cells.all fun
        | .char _ false => true
        | _ => false) then
      { p with done := { last with cells := last.cells ++ [cell] } :: rest, tilde := false }
    else { p with done := ⟨[cell], splitting⟩ :: last :: rest, tilde := false }
  | [] => { p with done := [⟨[cell], splitting⟩], tilde := false }

def flatten (pieces : List Piece) : Field := pieces.flatMap Piece.cells

def notSet {α : Type} (name : String) (message : String) : Sh α := Sh.error (name ++ ": " ++ message)

mutual

/-- The pieces that a parameter with its operator becomes. -/
def expandParam (run : Substitute) (fuel : Nat) (m : Mode) (name : String) (op : ParamOp) (arg : Word) :
    Sh (List Piece) :=
  match fuel with
  | 0 => pure []
  | fuel + 1 => do
    let s ← get
    let value := parameter s m name
    let record (value : List Cell) : List Piece :=
      if !m.isQuoted then [⟨value, .separators⟩]
      else if name = "@" && m.isFull && !s.arguments.isEmpty then [⟨value, .dividers⟩]
      else [⟨value, .none⟩]
    let present (orEmpty : Bool) : Option (List Cell) := value.filter fun v => !(orEmpty && v.isEmpty)
    let inner : Mode := { m with isInner := true, tilde := true, isAssignment := false }
    let required : Sh (List Cell) :=
      match value with
      | some v => pure v
      | none => if s.hasOption "nounset" then notSet name "parameter not set" else pure []
    match op with
    | .bad => Sh.error "Bad substitution"
    | .plain => do return record (← required)
    | .length => do
      let v ← required
      return record (cells m.isQuoted (toString v.length))
    | .minus orEmpty =>
      match present orEmpty with
      | some v => pure (record v)
      | none => expandParts run fuel inner arg { tilde := true }
    | .plus orEmpty =>
      match present orEmpty with
      | some _ => expandParts run fuel inner arg { tilde := true }
      | none => pure (record [])
    | .question orEmpty =>
      match present orEmpty with
      | some v => pure (record v)
      | none => do
        if arg.isEmpty then notSet name (if orEmpty then "parameter not set or null" else "parameter not set")
        let pieces ← expandParts run fuel { tilde := true } arg { tilde := true }
        notSet name (String.ofList (Field.text (flatten pieces)))
    | .assign orEmpty =>
      match present orEmpty with
      | some v => pure (record v)
      | none => do
        let pieces ← expandParts run fuel { tilde := true } arg { tilde := true }
        let text := String.ofList (Field.text (flatten pieces))
        if !isName name then Sh.error (name ++ ": bad variable name")
        Sh.assign name text
        return record (cells m.isQuoted text)
    | op => do
      let v ← required
      let pieces ← expandParts run fuel { tilde := true } arg { tilde := true }
      return record (trim op (Pattern.read (Field.pattern (flatten pieces))) v)

/-- The pieces that a word becomes. -/
def expandParts (run : Substitute) (fuel : Nat) (m : Mode) (w : Word) (p : Progress) : Sh (List Piece) :=
  match fuel with
  | 0 => pure p.done.reverse
  | fuel + 1 => do
    let quoted := m.isQuoted || p.inQuotes
    let mode : Mode := { m with isQuoted := quoted, isAssignment := false, tilde := false }
    let splits := m.isInner && !quoted
    if p.tilde then
      match tildePrefix? (← get) m.isAssignment w with
      | some (home, rest) => expandParts run fuel m rest (p.add [⟨cells true home, .none⟩])
      | none => expandParts run fuel m w { p with tilde := false }
    else
      match w with
      | [] => pure p.done.reverse
      | .mark :: .param "@" .plain [] :: .mark :: rest =>
        if p.inQuotes then do
          let pieces ← expandParam run fuel { mode with isQuoted := m.isQuoted } "@" .plain []
          expandParts run fuel m rest (p.add ([⟨[.mark], .none⟩] ++ pieces ++ [⟨[.mark], .none⟩]))
        else do
          let pieces ← expandParam run fuel { mode with isQuoted := true } "@" .plain []
          expandParts run fuel m rest (p.add pieces)
      | .mark :: rest => expandParts run fuel m rest { p.add [⟨[.mark], .none⟩] with inQuotes := !p.inQuotes }
      | .lit c :: rest =>
        let p := p.addLiteral splits c
        let p := if m.isAssignment && (c = ':' || (c = '=' && !p.isPastEquals)) then
          { p with tilde := true, isPastEquals := true } else p
        expandParts run fuel m rest p
      | .quoted c :: rest => expandParts run fuel m rest (p.add [⟨[.char c true], .none⟩])
      | .param name op arg :: rest => do
        let pieces ← expandParam run fuel mode name op arg
        expandParts run fuel m rest (p.add pieces)
      | .output c :: rest => do
        let text ← run c
        let text := (text.toList.reverse.dropWhile (· == '\n')).reverse.filter (· != '\x00')
        let value := text.map fun c => Cell.char c quoted
        expandParts run fuel m rest (p.add [⟨value, if quoted then .none else .separators⟩])
      | .arith expr :: rest => do
        let pieces ← expandParts run fuel {} expr {}
        let n ← Arithmetic.evaluate (String.ofList (Field.text (flatten pieces)))
        let value := cells quoted (toString n)
        expandParts run fuel m rest (p.add [⟨value, if quoted then .none else .separators⟩])

end

def pieces (run : Substitute) (m : Mode) (w : Word) : Sh (List Piece) :=
  expandParts run 1000000000 m w { tilde := m.tilde }

/-- A word as one text. -/
def text (run : Substitute) (m : Mode) (w : Word) : Sh String := do
  let ps ← pieces run m w
  pure (String.ofList (Field.text (flatten ps)))

/-- A word as a pattern. -/
def pattern (run : Substitute) (w : Word) : Sh Pattern := do
  let ps ← pieces run { tilde := true } w
  pure (Pattern.read (Field.pattern (flatten ps)))

/-! ## File names -/

def components : List Char → List (List Char)
  | [] => [[]]
  | '/' :: cs => [] :: components cs
  | '\\' :: '/' :: cs => [] :: components cs
  | '\\' :: c :: cs => extend ['\\', c] (components cs)
  | c :: cs => extend [c] (components cs)
where
  extend (start : List Char) : List (List Char) → List (List Char)
    | [] => [start]
    | c :: rest => (start ++ c) :: rest

def plainName : List Char → List Char
  | '\\' :: c :: cs => c :: plainName cs
  | c :: cs => c :: plainName cs
  | [] => []

/-- The first name in a path with a pattern in it, with what stands around it. -/
def splitComponent (cs : List Char) : Option (List Char × List Char × Option (List Char)) :=
  let all := components cs
  let fixed := all.takeWhile fun c => !Pattern.isActive c
  match all.drop fixed.length with
  | [] => none
  | c :: rest =>
    some (fixed.flatMap fun f => plainName f ++ ['/'], c,
      if rest.isEmpty then none else some (List.intercalate ['/'] rest))

def directoryNames (path : String) : Sh (List String) := do
  match ← Sh.act (Act.look fun d v => d.list v path) with
  | .ok names => pure ("." :: ".." :: names.map (·.1))
  | .error _ => pure []

/-- The files that the rest of a pattern fits. -/
def globFrom : Nat → List Char → List Char → Sh (List String)
  | 0, _, _ => pure []
  | fuel + 1, start, cs =>
    match splitComponent cs with
    | none => do
      if start.isEmpty then pure []
      else
        let path := String.ofList (start ++ plainName cs)
        match ← Sh.act (Act.stat path .entry) with
        | .ok _ => pure [path]
        | .error _ => pure []
    | some (fixed, component, rest) => do
      let directory := start ++ fixed
      let names ← directoryNames (if directory.isEmpty then "." else String.ofList directory)
      let withDots := match component with
        | '.' :: _ => true
        | '\\' :: '.' :: _ => true
        | _ => false
      let p := Pattern.read component
      let found := names.filter fun n =>
        (withDots || n.toList.head? ≠ some '.') && p.accepts n.toList
      match rest with
      | none => pure (found.map fun n => String.ofList (directory ++ n.toList))
      | some rest => do
        let deeper ← found.mapM fun n => globFrom fuel (directory ++ n.toList ++ ['/']) rest
        pure deeper.flatten

/-- The files that a field stands for, or the field itself if there are none. -/
def glob (f : Field) : Sh (List String) := do
  let itself := String.ofList (Field.text f)
  let p := Field.pattern f
  if (← get).hasOption "noglob" || !Pattern.isActive p then pure [itself]
  else do
    let found ← globFrom (p.length + 1) [] p
    if found.isEmpty then pure [itself] else pure (found.mergeSort fun a b => decide (a ≤ b))

/-- The fields that a word becomes. -/
def fields (run : Substitute) (w : Word) : Sh (List String) := do
  let ps ← pieces run { isFull := true, tilde := true } w
  let fs := Field.split (separators (← get)) ps
  let found ← fs.mapM glob
  pure found.flatten

end Expansion

end DataplaneVerdict.Shell
