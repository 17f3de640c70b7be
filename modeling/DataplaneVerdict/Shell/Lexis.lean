import DataplaneVerdict.Shell.Source

/-!
# `Shell.Lexis` — words and tokens

A word goes on over quotes, expansions and everything nested in them. What a character means depends on the style of the
stretch it stands in, and expansions open stretches of their own.
-/

namespace DataplaneVerdict.Shell

/-- How characters are understood. -/
inductive Style where
  | base
  | double
  | single
  | arithmetic
deriving DecidableEq, Inhabited

/-- What a character means. -/
inductive CharKind where
  | newline
  | plain
  | shielded
  | backslash
  | singleQuote
  | doubleQuote
  | endQuote
  | backquote
  | dollar
  | brace
  | leftParen
  | rightParen
  | special
  | eof
deriving DecidableEq

def backquote : Char := Char.ofNat 96

/-- What a character means in a stretch. -/
def Style.classify (s : Style) : Option Char → CharKind
  | none => .eof
  | some c =>
    if c = '\n' then .newline
    else
      match s with
      | .base =>
        if c = '\\' then .backslash
        else if c = '\'' then .singleQuote
        else if c = '"' then .doubleQuote
        else if c = backquote then .backquote
        else if c = '$' then .dollar
        else if c = '\x7d' then .brace
        else if "<>();&| \t".toList.contains c then .special
        else .plain
      | .double =>
        if c = '\\' then .backslash
        else if c = '"' then .endQuote
        else if c = backquote then .backquote
        else if c = '$' then .dollar
        else if c = '\x7d' then .brace
        else .shielded
      | .single => if c = '\'' then .endQuote else .shielded
      | .arithmetic =>
        if c = '\\' then .backslash
        else if c = backquote then .backquote
        else if c = '$' then .dollar
        else if c = '\x7d' then .brace
        else if c = '(' then .leftParen
        else if c = ')' then .rightParen
        else .plain

/-- A stretch of a word, with what is nested in it. -/
structure Frame where
  style : Style
  isDouble : Bool := false
  nest : Nat := 0
  doubleNest : Nat := 0
  innerDouble : Bool := false
  parens : Nat := 0
  isForParam : Bool := false
deriving Inhabited

/-- An expansion that is not yet closed. -/
inductive Opened where
  | param (name : String) (op : ParamOp)
  | arith

/-- A word that is being read. -/
structure Draft where
  top : Frame
  outer : List Frame := []
  parts : List Part := []
  opened : List (Opened × List Part) := []
  isQuoted : Bool := false

namespace Draft

def emit (d : Draft) (p : Part) : Draft := { d with parts := p :: d.parts }

/-- A character, quoted where the stretch is. -/
def emitChar (d : Draft) (c : Char) : Draft :=
  d.emit (if d.top.style = .double || d.top.style = .single then .quoted c else .lit c)

def openPart (d : Draft) (o : Opened) : Draft := { d with opened := (o, d.parts) :: d.opened, parts := [] }

/-- Closes the innermost expansion. -/
def closePart (d : Draft) : Draft :=
  match d.opened with
  | [] => d
  | (.param name op, before) :: rest =>
    { d with opened := rest, parts := .param name op d.parts.reverse :: before }
  | (.arith, before) :: rest => { d with opened := rest, parts := .arith d.parts.reverse :: before }

def pushFrame (d : Draft) (f : Frame) : Draft := { d with top := f, outer := d.top :: d.outer }

def popFrame (d : Draft) : Draft :=
  match d.outer with
  | [] => d
  | f :: rest => { d with top := f, outer := rest }

def mark (d : Draft) (inDocument : Bool) : Draft := if inDocument then d else d.emit .mark

def toggleDouble (d : Draft) (inDocument : Bool) : Draft :=
  let d := if d.top.nest = 0 then d else { d with top := { d.top with innerDouble := !d.top.innerDouble } }
  d.mark inDocument

end Draft

namespace Read

def nextIn (d : Draft) : Read (Option Char) := if d.top.style = .single then getc else getJoined

def spanName (p : Char → Bool) : Nat → Option Char → List Char → Read (List Char × Option Char)
  | 0, c, acc => pure (acc.reverse, c)
  | fuel + 1, some c, acc =>
    if p c then do
      let next ← getJoined
      spanName p fuel next (c :: acc)
    else pure (acc.reverse, some c)
  | _ + 1, none, acc => pure (acc.reverse, none)

/-- What is done to a parameter in braces. -/
def readOperator (c : Option Char) : Read ParamOp := do
  let simple (c : Option Char) (orEmpty : Bool) : ParamOp :=
    match c with
    | some '\x7d' => if orEmpty then .bad else .plain
    | some '-' => .minus orEmpty
    | some '+' => .plus orEmpty
    | some '?' => .question orEmpty
    | some '=' => .assign orEmpty
    | _ => .bad
  let trim (sign : Char) (op : Bool → ParamOp) : Read ParamOp := do
    let next ← getJoined
    if next = some sign then pure (op true)
    else do
      ungetc next
      pure (op false)
  match c with
  | some ':' => do
    let next ← getJoined
    if next = some '\x7d' then ungetc next
    pure (simple next true)
  | some '%' => trim '%' .trimRight
  | some '#' => trim '#' .trimLeft
  | c => pure (simple c false)

def startsLengthName (c : Option Char) : Bool :=
  match c with
  | some c => isNameChar c
  | none => false

/-- A parameter behind a dollar sign. -/
def readParameter (inBraces : Bool) (c : Option Char) : Read (String × ParamOp) := do
  let named (isLength : Bool) (c : Option Char) : Read (String × ParamOp) := do
    let start := c.getD ' '
    let (name, next) ←
      if isNameStart start then spanName isNameChar fuel c []
      else if inBraces then spanName Char.isDigit fuel c []
      else do
        let next ← getJoined
        pure ([start], next)
    let name := String.ofList name
    if !inBraces then do
      ungetc next
      pure (name, .plain)
    else if isLength then do
      ungetc next
      pure (name, if next = some '\x7d' then .length else .bad)
    else do
      let op ← readOperator next
      pure (name, op)
  match c with
  | none => do
    pure ("", .bad)
  | some s =>
    if isNameStart s || s.isDigit then named false c
    else if s = '\x7d' then do
      ungetc c
      pure ("", .bad)
    else do
      let next ← getJoined
      let special (cc : Char) (isLength : Bool) (next : Option Char) : Read (String × ParamOp) := do
        if !isSpecial cc then do
          ungetc next
          pure ("", .bad)
        else if !inBraces then do
          ungetc next
          pure (String.singleton cc, .plain)
        else if isLength then do
          ungetc next
          pure (String.singleton cc, if next = some '\x7d' then .length else .bad)
        else do
          let op ← readOperator next
          pure (String.singleton cc, op)
      if inBraces && s = '#' then
        if startsLengthName next then named true next
        else do
          let after ← getJoined
          if next = some '\x7d' || after ≠ some '\x7d' then do
            ungetc after
            special '#' false next
          else special (next.getD ' ') true after
      else special s false next

def takesWord : ParamOp → Bool
  | .plain => false
  | _ => true

/-- Looks whether a line is the mark that ends a document. What was read for nothing is given back. -/
def matchMark : Nat → List Char → Option Char → List Char → Read (Option (List Char))
  | 0, _, _, seen => pure (some seen)
  | _ + 1, [], c, seen =>
    match c with
    | none => pure none
    | some '\n' => pure none
    | some c => pure (some (c :: seen))
  | fuel + 1, m :: mark, c, seen =>
    match c with
    | none => pure (some seen)
    | some c =>
      if c = m then do
        let next ← getc
        matchMark fuel mark next (c :: seen)
      else pure (some (c :: seen))

def skipTabs : Nat → Option Char → Read (Option Char)
  | 0, c => pure c
  | fuel + 1, c => if c = some '\t' then do skipTabs fuel (← getc) else pure c

def checkMark (doc : Option Announced) (c : Option Char) : Read (Option Char) :=
  match doc with
  | none => pure c
  | some a => do
    let c ← if a.stripsTabs then skipTabs fuel c else pure c
    match ← matchMark fuel a.mark c [] with
    | none => do
      newLine
      pure none
    | some seen =>
      match seen.reverse with
      | [] => pure c
      | first :: rest => do
        if !rest.isEmpty then push rest none
        pure (some first)

/-- The text between backquotes. -/
def readBackquoted (isDouble : Bool) : Nat → List Char → Read (List Char)
  | 0, acc => pure acc.reverse
  | fuel + 1, acc => do
    match ← getJoined with
    | none => fail "EOF in backquote substitution"
    | some c =>
      if c = backquote then pure acc.reverse
      else if c = '\\' then do
        match ← getc with
        | none => readBackquoted isDouble fuel ('\\' :: acc)
        | some n =>
          if n = '\\' || n = backquote || n = '$' || (isDouble && n = '"') then readBackquoted isDouble fuel (n :: acc)
          else readBackquoted isDouble fuel (n :: '\\' :: acc)
      else do
        if c = '\n' then newLine
        readBackquoted isDouble fuel (c :: acc)

/-- A redirection up to its target. -/
def readRedirection (c : Char) (digit : Option Nat) : Read Unit := do
  let next ← getJoined
  let opening ←
    if c = '>' then
      let fd := digit.getD 1
      match next with
      | some '>' => pure (Opening.file fd .append)
      | some '|' => pure (Opening.file fd .clobber)
      | some '&' => pure (Opening.duplicate fd false)
      | _ => do
        ungetc next
        pure (Opening.file fd .output)
    else
      let fd := digit.getD 0
      match next with
      | some '<' => do
        let after ← getJoined
        if after = some '-' then pure (Opening.document fd true)
        else do
          ungetc after
          pure (Opening.document fd false)
      | some '&' => pure (Opening.duplicate fd true)
      | some '>' => pure (Opening.file fd .both)
      | _ => do
        ungetc next
        pure (Opening.file fd .input)
  modify fun r => { r with opening := opening, last := .redirection }

def skipComment : Nat → Read Unit
  | 0 => pure ()
  | fuel + 1 => do
    match ← getc with
    | none => pure ()
    | some '\n' => ungetc (some '\n')
    | some _ => skipComment fuel

/-- A word ends before a redirection if it is its descriptor. -/
def finishWord (stop : Option Char) (d : Draft) (word : Word) : Read Unit := do
  ungetc stop
  modify fun r => { r with word := word, isQuoted := d.isQuoted, last := .word }

mutual

/-- Reads on behind a backslash. -/
def readBackslash (list : Read (Option Command)) (doc : Option Announced) (fuel : Nat) (d : Draft) :
    Read (Option Char × Draft) :=
  match fuel with
  | 0 => pure (none, d)
  | fuel + 1 => do
    match ← getc with
    | none => readOn list doc fuel (d.emit (.quoted '\\'))
    | some '\n' => do
      newLine
      readOn list doc fuel d
    | some c =>
      let f := d.top
      let keeps := f.isDouble && c ≠ '\\' && c ≠ backquote && c ≠ '$' &&
        (c ≠ '"' || (doc.isSome && f.nest = 0)) && (c ≠ '\x7d' || f.nest = 0)
      let d := if keeps then d.emit (.quoted '\\') else d
      readOn list doc fuel { d.emit (.quoted c) with isQuoted := true }

/-- Reads on behind a dollar sign. -/
def readDollar (list : Read (Option Command)) (doc : Option Announced) (fuel : Nat) (d : Draft) :
    Read (Option Char × Draft) :=
  match fuel with
  | 0 => pure (none, d)
  | fuel + 1 => do
    let c ← getJoined
    let begins := match c with
      | some c => c = '(' || c = '\x7b' || isNameStart c || isSpecial c
      | none => false
    if (← get).check.mark || !begins then do
      ungetc c
      readOn list doc fuel (d.emitChar '$')
    else if c = some '(' then do
      let next ← getJoined
      if next = some '(' then
        readOn list doc fuel ((d.pushFrame { style := .arithmetic, isDouble := true }).openPart .arith)
      else do
        ungetc next
        let announced := (← get).announced
        modify fun r => { r with announced := [] }
        let c ← list
        readToken list fuel
        if (← get).last ≠ .rightParen then unexpected (some .rightParen)
        let r ← get
        set { r with
          announced := announced
          documents := r.documents ++ r.announced.map fun (a : Announced) => Document.mk a.id [] }
        readOn list doc fuel (d.emit (.output c))
    else do
      let inBraces := c = some '\x7b'
      let c ← if inBraces then getJoined else pure c
      let (name, op) ← readParameter inBraces c
      if !takesWord op then readOn list doc fuel (d.emit (.param name op []))
      else
        let style : Style := match op with
          | .trimLeft _ => .base
          | .trimRight _ => .base
          | _ => d.top.style
        let style := if style = .arithmetic then .double else style
        let d := if style ≠ d.top.style || d.top.innerDouble then
          d.pushFrame { style := style, isDouble := style ≠ .base, isForParam := true } else d
        let f := d.top
        let d := { d with top := { f with
          nest := f.nest + 1, doubleNest := if f.isDouble then f.doubleNest + 1 else f.doubleNest } }
        readOn list doc fuel (d.openPart (.param name op))

/-- Reads on behind a backquote. -/
def readOld (list : Read (Option Command)) (doc : Option Announced) (fuel : Nat) (d : Draft) :
    Read (Option Char × Draft) :=
  match fuel with
  | 0 => pure (none, d)
  | fuel + 1 => do
    let text ← readBackquoted d.top.isDouble Read.fuel []
    let outer ← get
    set { outer with text := text, pushed := [], line := 1, announced := [] }
    let c ← list
    let r ← get
    set { r with
      text := outer.text, pushed := outer.pushed, line := outer.line, isHeld := false
      announced := outer.announced
      documents := r.documents ++ r.announced.map fun (a : Announced) => Document.mk a.id [] }
    readOn list doc fuel (d.emit (.output c))

def readOn (list : Read (Option Command)) (doc : Option Announced) (fuel : Nat) (d : Draft) :
    Read (Option Char × Draft) :=
  match fuel with
  | 0 => pure (none, d)
  | fuel + 1 => do
    let c ← nextIn d
    readFrom list doc fuel c d

/-- Reads on from a character. -/
def readFrom (list : Read (Option Command)) (doc : Option Announced) (fuel : Nat) (c : Option Char) (d : Draft) :
    Read (Option Char × Draft) :=
  match fuel with
  | 0 => pure (c, d)
  | fuel + 1 => do
    let char := c.getD '\x00'
    let f := d.top
    match f.style.classify c with
    | .eof => pure (none, d)
    | .newline =>
      if f.style = .base && f.nest = 0 then pure (c, d)
      else do
        newLine
        let next ← nextIn d
        let next ← checkMark doc next
        readFrom list doc fuel next (d.emitChar '\n')
    | .plain => readOn list doc fuel (d.emitChar char)
    | .shielded => readOn list doc fuel (d.emit (.quoted char))
    | .backslash => readBackslash list doc fuel d
    | .singleQuote => readOn list doc fuel ({ d with top := { f with style := .single } }.mark doc.isSome)
    | .doubleQuote =>
      readOn list doc fuel ({ d with top := { f with style := .double, isDouble := true } }.toggleDouble doc.isSome)
    | .endQuote =>
      if doc.isSome && f.nest = 0 then readOn list doc fuel (d.emitChar char)
      else
        let d := if f.doubleNest = 0 then { d with top := { f with style := .base, isDouble := false } } else d
        let d := { d with isQuoted := true }
        readOn list doc fuel (if char = '"' then d.toggleDouble doc.isSome else d.mark doc.isSome)
    | .dollar => readDollar list doc fuel d
    | .brace =>
      if !f.innerDouble && 0 < f.nest then
        let f := { f with nest := f.nest - 1 }
        let d := { d with top := f }
        let d := if f.nest = 0 && f.isForParam then d.popFrame
          else { d with top := { f with doubleNest := f.doubleNest - 1 } }
        readOn list doc fuel d.closePart
      else readOn list doc fuel (d.emitChar char)
    | .leftParen => readOn list doc fuel ({ d with top := { f with parens := f.parens + 1 } }.emitChar char)
    | .rightParen =>
      if 0 < f.parens then readOn list doc fuel ({ d with top := { f with parens := f.parens - 1 } }.emitChar char)
      else do
        let next ← getJoined
        if next = some ')' then readOn list doc fuel d.popFrame.closePart
        else do
          ungetc next
          readOn list doc fuel (d.emitChar char)
    | .backquote =>
      if (← get).check.mark then pure (c, d) else readOld list doc fuel d
    | .special => if f.nest = 0 then pure (c, d) else readOn list doc fuel (d.emitChar char)

/-- Reads a word. -/
def readWord (list : Read (Option Command)) (fuel : Nat) (c : Option Char) : Read Unit :=
  match fuel with
  | 0 => pure ()
  | fuel + 1 => do
    let (stop, d) ← readFrom list none fuel c { top := { style := .base } }
    if d.top.style = .arithmetic then fail "Missing '))'"
    if d.top.style ≠ .base then fail "Unterminated quoted string"
    if d.top.nest ≠ 0 then fail "Missing '\x7d'"
    let word := d.parts.reverse
    let digit? : Option (Option Nat) :=
      match word with
      | [] => some none
      | [.lit c] => if c.isDigit then some (some (c.toNat - 48)) else none
      | _ => none
    match stop, digit? with
    | some '>', some digit => if d.isQuoted then finishWord stop d word else readRedirection '>' digit
    | some '<', some digit => if d.isQuoted then finishWord stop d word else readRedirection '<' digit
    | _, _ => finishWord stop d word

/-- Reads a token. -/
def readPlainToken (list : Read (Option Command)) (fuel : Nat) : Read Unit :=
  match fuel with
  | 0 => pure ()
  | fuel + 1 => do
    if (← get).isHeld then modify fun r => { r with isHeld := false }
    else
      let done (t : Token) : Read Unit := modify fun r => { r with last := t }
      let orDouble (c : Char) (twice once : Token) : Read Unit := do
        let next ← getJoined
        if next = some c then done twice
        else do
          ungetc next
          done once
      match ← getJoined with
      | none => done .eof
      | some c =>
        if c = ' ' || c = '\t' then readPlainToken list fuel
        else if c = '#' then do
          skipComment Read.fuel
          readPlainToken list fuel
        else if c = '\n' then do
          newLine
          done .newline
        else if c = '&' then orDouble '&' .andAnd .ampersand
        else if c = '|' then orDouble '|' .orOr .bar
        else if c = ';' then orDouble ';' .endCase .semi
        else if c = '(' then done .leftParen
        else if c = ')' then done .rightParen
        else readWord list fuel (some c)

/-- Reads the documents that were announced on the last line. -/
def readDocuments (list : Read (Option Command)) (fuel : Nat) : Read Unit :=
  match fuel with
  | 0 => pure ()
  | fuel + 1 => do
    match (← get).announced with
    | [] => pure ()
    | a :: rest => do
      modify fun r => { r with announced := rest }
      let style : Style := if a.expands then .double else .single
      let d : Draft := { top := { style := style, isDouble := a.expands } }
      let c ← nextIn d
      let c ← checkMark (some a) c
      let (_, d) ← readFrom list (some a) fuel c d
      if d.top.style = .arithmetic then fail "Missing '))'"
      if d.top.nest ≠ 0 then fail "Missing '\x7d'"
      modify fun r => { r with documents := r.documents ++ [⟨a.id, d.parts.reverse⟩] }
      readDocuments list fuel

def skipNewlines (list : Read (Option Command)) (fuel : Nat) : Read Unit :=
  match fuel with
  | 0 => pure ()
  | fuel + 1 => do
    if (← get).last = .newline then do
      readDocuments list fuel
      setCheck {}
      readPlainToken list fuel
      skipNewlines list fuel

/-- Reads a token; a word may turn out to be a keyword or an alias. -/
def readToken (list : Read (Option Command)) (fuel : Nat) : Read Unit :=
  match fuel with
  | 0 => pure ()
  | fuel + 1 => do
    let check := (← get).check
    readPlainToken list fuel
    if check.newlines then skipNewlines list fuel
    let r ← get
    let check : Check :=
      ⟨check.newlines || r.check.newlines, check.keywords || r.check.keywords, check.aliases || r.check.aliases, false⟩
    setCheck {}
    if r.last = .word && !r.isQuoted then
      match Word.plainText? r.word with
      | none => pure ()
      | some text =>
        let text := String.ofList text
        if check.keywords && Token.keywords.contains text then modify fun r => { r with last := .keyword text }
        else if check.aliases then
          match r.aliases.lookup text with
          | some value =>
            if (r.pushed.any fun p => p.origin = some text) then pure ()
            else do
              if !value.isEmpty then push value.toList (some text)
              setCheck check
              readToken list fuel
          | none => pure ()

end

end Read

end DataplaneVerdict.Shell
