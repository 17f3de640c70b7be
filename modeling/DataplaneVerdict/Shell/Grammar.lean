import DataplaneVerdict.Shell.Lexis

/-!
# `Shell.Grammar` — commands

Commands are read one complete command at a time, so that what one of them does can matter for reading the next.
-/

namespace DataplaneVerdict.Shell

namespace Read

/-- What is to be read. -/
inductive Goal where
  | list (atTop canBeEmpty : Bool)
  | command

/-- How inner commands are read. -/
abbrev Nested := Goal → Read (Option Command)

def substituted (go : Nested) : Read (Option Command) := go (.list false true)

def token (go : Nested) : Read Token := do
  readToken (substituted go) fuel
  return (← get).last

/-- The next token has to be this one. -/
def expect (go : Nested) (t : Token) : Read Unit := do
  if (← token go) ≠ t then unexpected (some t)

def afterNewlines : Check := { newlines := true, keywords := true, aliases := true }

def sameLine : Check := { keywords := true, aliases := true }

/-- The body of a loop. -/
def body (go : Nested) : Read Command := do
  let c ← go (.list false false)
  pure (c.getD default)

def redirectionTarget (go : Nested) : Read Redirection := do
  let opening := (← get).opening
  match opening with
  | .document _ _ => setCheck { (← get).check with mark := true }
  | _ => pure ()
  if (← token go) ≠ .word then unexpected none
  let r ← get
  match opening with
  | .file fd kind => pure (.file fd kind r.word)
  | .duplicate fd input => pure (.duplicate fd input r.word)
  | .document fd stripsTabs => do
    let a : Announced := ⟨r.nextDocument, Word.bareText r.word, stripsTabs, !r.isQuoted⟩
    set { r with announced := r.announced ++ [a], nextDocument := r.nextDocument + 1 }
    pure (.document fd a.id a.expands)

def redirections (go : Nested) : Nat → List Redirection → Read (List Redirection)
  | 0, acc => pure acc.reverse
  | fuel + 1, acc => do
    if (← token go) = .redirection then do
      let r ← redirectionTarget go
      redirections go fuel (r :: acc)
    else do
      hold
      pure acc.reverse

def words (go : Nested) : Nat → List Word → Read (List Word)
  | 0, acc => pure acc.reverse
  | fuel + 1, acc => do
    if (← token go) = .word then do
      let w := (← get).word
      words go fuel (w :: acc)
    else pure acc.reverse

def specialBuiltins : List String :=
  [".", ":", "break", "continue", "eval", "exec", "exit", "export", "local", "readonly", "return", "set", "shift",
   "times", "trap", "unset"]

/-- A simple command that is being read. -/
structure Simple where
  line : Nat
  assigns : List Word := []
  args : List Word := []
  redirs : List Redirection := []
  isStart : Bool := true

/-- A simple command, or a function if parentheses follow its name. -/
def simple (go : Nested) : Nat → Simple → Read Command
  | 0, s => pure (.simple s.line s.assigns.reverse s.args.reverse s.redirs.reverse)
  | fuel + 1, s => do
    setCheck { aliases := s.isStart }
    match ← token go with
    | .word => do
      let w := (← get).word
      if s.isStart && (Word.assignment? w).isSome then simple go fuel { s with assigns := w :: s.assigns }
      else simple go fuel { s with args := w :: s.args, isStart := false }
    | .redirection => do
      let r ← redirectionTarget go
      simple go fuel { s with redirs := r :: s.redirs }
    | .leftParen =>
      match s.args, s.assigns, s.redirs with
      | [name], [], [] => do
        expect go .rightParen
        let name := match Word.plainText? name with
          | some text => String.ofList text
          | none => ""
        if !isName name || specialBuiltins.contains name then fail "Bad function name"
        setCheck afterNewlines
        let line := (← get).line
        match ← go .command with
        | some c => pure (.define line name c)
        | none => unexpected none
      | _, _, _ => finish s
    | _ => finish s
where
  finish (s : Simple) : Read Command := do
    hold
    pure (.simple s.line s.assigns.reverse s.args.reverse s.redirs.reverse)

/-- What follows `if`. -/
def branches (go : Nested) : Nat → Read Command
  | 0 => unexpected none
  | fuel + 1 => do
    let test ← body go
    expect go (.keyword "then")
    let yes ← body go
    match ← token go with
    | .keyword "elif" => do
      let no ← branches go fuel
      pure (.branch test yes (some no))
    | .keyword "else" => do
      let no ← body go
      pure (.branch test yes (some no))
    | _ => do
      hold
      pure (.branch test yes none)

def patterns (go : Nested) : Nat → List Word → Read (List Word)
  | 0, acc => pure acc.reverse
  | fuel + 1, acc => do
    let w := (← get).word
    if (← token go) = .bar then do
      let _ ← token go
      patterns go fuel (w :: acc)
    else pure (w :: acc).reverse

/-- The cases up to `esac`. -/
def cases (go : Nested) : Nat → List (List Word × Option Command) → Read (List (List Word × Option Command))
  | 0, acc => pure acc.reverse
  | fuel + 1, acc => do
    setCheck { newlines := true, keywords := true }
    let t ← token go
    if t = .keyword "esac" then pure acc.reverse
    else do
      if t = .leftParen then
        let _ ← token go
      let ps ← patterns go Read.fuel []
      if (← get).last ≠ .rightParen then unexpected (some .rightParen)
      let c ← go (.list false true)
      setCheck { newlines := true, keywords := true }
      match ← token go with
      | .keyword "esac" => pure ((ps, c) :: acc).reverse
      | .endCase => cases go fuel ((ps, c) :: acc)
      | _ => unexpected (some .endCase)

def allArguments : Word := [.mark, .param "@" .plain [], .mark]

/-- What follows `for`; without words it goes over the arguments. -/
def eachWord (go : Nested) (line : Nat) : Read Command := do
  let t ← token go
  let r ← get
  let name := match Word.plainText? r.word with
    | some text => String.ofList text
    | none => ""
  if t ≠ .word || r.isQuoted || !isName name then fail "Bad for loop variable"
  setCheck afterNewlines
  let ws ← (do
    if (← token go) = .keyword "in" then do
      let ws ← words go fuel []
      let last := (← get).last
      if last ≠ .newline && last ≠ .semi then unexpected none
      pure ws
    else do
      if (← get).last ≠ .semi then hold
      pure [allArguments])
  setCheck afterNewlines
  expect go (.keyword "do")
  let c ← body go
  pure (.each line name ws c)

def choice (go : Nested) (line : Nat) : Read Command := do
  if (← token go) ≠ .word then unexpected (some .word)
  let w := (← get).word
  setCheck afterNewlines
  expect go (.keyword "in")
  let cs ← cases go fuel []
  pure (.choose line w cs)

/-- A command with the redirections behind it. -/
def withRedirections (go : Nested) (line : Nat) (c : Command) : Read Command := do
  setCheck sameLine
  let redirs ← redirections go fuel []
  pure (match redirs, c with
    | [], c => c
    | redirs, .subshell line c _ => .subshell line c redirs
    | redirs, c => .redirected line c redirs)

/-- A command. -/
def command (go : Nested) : Read Command := do
  let line := (← get).line
  match ← token go with
  | .word => do
    hold
    simple go fuel { line := (← get).line }
  | .redirection => do
    hold
    simple go fuel { line := (← get).line }
  | .leftParen => do
    let c ← body go
    expect go .rightParen
    withRedirections go line (.subshell line c [])
  | .keyword "\x7b" => do
    let c ← body go
    expect go (.keyword "\x7d")
    withRedirections go line c
  | .keyword "if" => do
    let c ← branches go fuel
    expect go (.keyword "fi")
    withRedirections go line c
  | .keyword "while" => loop line false
  | .keyword "until" => loop line true
  | .keyword "for" => do
    let c ← eachWord go line
    expect go (.keyword "done")
    withRedirections go line c
  | .keyword "case" => do
    let c ← choice go line
    withRedirections go line c
  | _ => unexpected none
where
  loop (line : Nat) (isUntil : Bool) : Read Command := do
    let test ← body go
    expect go (.keyword "do")
    let c ← body go
    expect go (.keyword "done")
    withRedirections go line (.loop isUntil test c)

def stages (go : Nested) : Nat → List Command → Read (List Command)
  | 0, acc => pure acc.reverse
  | fuel + 1, acc => do
    if (← token go) = .bar then do
      setCheck afterNewlines
      let c ← command go
      stages go fuel (c :: acc)
    else do
      hold
      pure acc.reverse

def pipeline (go : Nested) : Read Command := do
  let negated ← (do
    if (← token go) = .keyword "!" then do
      setCheck sameLine
      pure true
    else do
      hold
      pure false)
  let first ← command go
  let c := match ← stages go fuel [first] with
    | [c] => c
    | cs => .pipeline cs false
  pure (if negated then .negation c else c)

/-- Pipelines with `&&` and `||` between them. -/
def chain (go : Nested) : Nat → Command → Read Command
  | 0, c => pure c
  | fuel + 1, c => do
    match ← token go with
    | .andAnd => do
      setCheck afterNewlines
      let d ← pipeline go
      chain go fuel (.both c d)
    | .orOr => do
      setCheck afterNewlines
      let d ← pipeline go
      chain go fuel (.either c d)
    | _ => do
      hold
      pure c

/-- A command that is not waited for. -/
def inBackground : Command → Command
  | .pipeline cs _ => .pipeline cs true
  | .redirected line c redirs => .background line c redirs
  | c => .background 0 c []

/-- A list of commands. At the top it ends with its line. -/
def list (go : Nested) (atTop : Bool) : Nat → (mayEnd : Bool) → Option Command → Read (Option Command)
  | 0, _, acc => pure acc
  | fuel + 1, mayEnd, acc => do
    setCheck { newlines := !atTop, keywords := true, aliases := true }
    match ← token go with
    | .newline => do
      readDocuments (substituted go) Read.fuel
      pure acc
    | .eof => atEnd acc
    | t => do
      hold
      if !atTop && mayEnd && t.endsList then pure acc
      else do
        let first ← pipeline go
        let c ← chain go Read.fuel first
        let t ← token go
        let c := if t = .ampersand then inBackground c else c
        let acc := match acc with
          | none => c
          | some before => .sequence before c
        match t with
        | .eof => atEnd (some acc)
        | .newline => do
          hold
          list go atTop fuel true (some acc)
        | .ampersand => list go atTop fuel true (some acc)
        | .semi => list go atTop fuel true (some acc)
        | _ => do
          if atTop then unexpected none
          hold
          pure (some acc)
where
  atEnd (acc : Option Command) : Read (Option Command) := do
    readDocuments (substituted go) Read.fuel
    modify fun r => { r with isHeld := true, last := .eof }
    pure acc

/-- Commands inside commands, only so deep. -/
def nested : Nat → Nested
  | 0, _ => fail "nested too deep"
  | depth + 1, .list atTop canBeEmpty => list (nested depth) atTop fuel canBeEmpty none
  | depth + 1, .command => do
    let c ← command (nested depth)
    pure (some c)

def mostNested : Nat := 100000

/-- The next line of commands; nothing at the end of the text. -/
def next : Read (Option (Option Command)) := do
  modify fun r => { r with isHeld := false, check := {}, announced := [] }
  let c ← nested mostNested (.list true true)
  let r ← get
  pure (if c.isNone && r.isHeld && r.last = .eof then none else some c)

def quotedText : Read Word := do
  let d : Draft := { top := { style := .double, isDouble := true } }
  let c ← nextIn d
  let (_, d) ← readFrom (substituted (nested mostNested)) (some ⟨0, ['\x00'], false, true⟩) fuel c d
  pure d.parts.reverse

def isAtEnd (r : Reading) : Bool := r.isHeld && r.last = .eof

end Read

end DataplaneVerdict.Shell
