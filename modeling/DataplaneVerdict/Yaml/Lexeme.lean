import DataplaneVerdict.Text.Search

/-!
# `Yaml.Lexeme` — the lexemes of a YAML stream

A YAML text is cut into lexemes: indicators, white space, line breaks, comments, and scalars with everything that
belongs to them. Where a multi-line scalar ends depends on indentation, so the scanner keeps the indentation of the
current line and the least indentation that still continues the enclosing node.

Every mode consumes a character or hands over to one that does, so a number of steps bounded by the length of the text
is enough.
-/

namespace DataplaneVerdict.Yaml

inductive LexKind where
  | byteOrderMark | documentMode | flowErrorEnd | documentStart | documentEnd | newline | sequenceItem | explicitKey
  | mapValue | flowMapStart | flowMapEnd | flowSequenceStart | flowSequenceEnd | comma | space | comment | directive
  | aliasMark | anchor | tag | singleQuoted | doubleQuoted | blockHeader | plain
  | scalarMark
  | stray
deriving DecidableEq, Inhabited

structure Token where
  kind : LexKind
  text : List Char
deriving Inhabited

def kindOf (text : List Char) : LexKind :=
  match text with
  | [] => .newline
  | ['\n'] => .newline
  | ['\r', '\n'] => .newline
  | ['\ufeff'] => .byteOrderMark
  | ['-', '-', '-'] => .documentStart
  | ['.', '.', '.'] => .documentEnd
  | ['-'] => .sequenceItem
  | ['?'] => .explicitKey
  | [':'] => .mapValue
  | ['{'] => .flowMapStart
  | ['}'] => .flowMapEnd
  | ['['] => .flowSequenceStart
  | [']'] => .flowSequenceEnd
  | [','] => .comma
  | ['\x02'] => .documentMode
  | ['\x18'] => .flowErrorEnd
  | ['\x1f'] => .scalarMark
  | c :: _ =>
    if c = ' ' ∨ c = '\t' then .space
    else if c = '#' then .comment
    else if c = '%' then .directive
    else if c = '*' then .aliasMark
    else if c = '&' then .anchor
    else if c = '!' then .tag
    else if c = '\'' then .singleQuoted
    else if c = '"' then .doubleQuoted
    else if c = '|' ∨ c = '>' then .blockHeader
    else .stray

/-! ## Characters -/

def isEmptyAt : Option Char → Bool
  | none => true
  | some c => c = ' ' || c = '\n' || c = '\r' || c = '\t'

def isFlowIndicator : Option Char → Bool
  | none => false
  | some c => c = ',' || c = '[' || c = ']' || c = '{' || c = '}'

def endsAnchor : Option Char → Bool
  | none => true
  | some c => c = ' ' || c = ',' || c = '[' || c = ']' || c = '{' || c = '}' || c = '\n' || c = '\r' || c = '\t'

def isHex : Option Char → Bool
  | none => false
  | some c => ('0' ≤ c && c ≤ '9') || ('a' ≤ c && c ≤ 'f') || ('A' ≤ c && c ≤ 'F')

/-- What a tag may hold without an escape. -/
def isTagChar (c : Char) : Bool :=
  c.isAlphanum || "-#;/?:@&=+$_.!~*'()".toList.contains c

/-! ## The scanner -/

/-- Where the scanner stands. -/
inductive Mode where
  | stream | lineStart | blockStart | document | flow
deriving DecidableEq, Inhabited

/-- The scanner: the text, a position in it and what it found. -/
structure Scanner where
  text : Array Char
  pos : Nat := 0
  indentNext : Nat := 0
  indentValue : Nat := 0
  flowKey : Bool := false
  flowLevel : Nat := 0
  found : List Token := []

namespace Scanner

def peek (s : Scanner) (n : Nat) : Option Char := s.text[s.pos + n]?

def slice (s : Scanner) (i j : Nat) : List Char := (s.text.extract i j).toList

/-- The first position from `i` where the test fails. -/
def skip (s : Scanner) (test : Option Char → Bool) : Nat → Nat → Nat
  | 0, i => i
  | fuel + 1, i => if test s.text[i]? && i < s.text.size then skip s test fuel (i + 1) else i

def skipUntil (s : Scanner) (test : Option Char → Bool) (i : Nat) : Nat :=
  s.skip (fun c => !test c) (s.text.size + 1) i

/-- The next line end at or after a position. -/
def lineFeed (s : Scanner) (i : Nat) : Option Nat :=
  let j := s.skipUntil (fun c => c = some '\n') i
  if j < s.text.size then some j else none

def push (s : Scanner) (t : Token) : Scanner := { s with found := t :: s.found }

/-- Cuts off the next `n` characters as a lexeme. -/
def pushCount (s : Scanner) (n : Nat) : Scanner :=
  if n = 0 then s
  else
    let t := s.slice s.pos (s.pos + n)
    { s with pos := s.pos + n, found := ⟨kindOf t, t⟩ :: s.found }

def pushTo (s : Scanner) (i : Nat) : Scanner := s.pushCount (i - s.pos)

def pushScalar (s : Scanner) (i : Nat) : Scanner :=
  { s with pos := max s.pos i, found := ⟨.plain, s.slice s.pos i⟩ :: s.found }

def pushSpaces (s : Scanner) (tabs : Bool) : Nat × Scanner :=
  let i := s.skip (fun c => c = some ' ' || (tabs && c = some '\t')) (s.text.size + 1) s.pos
  (i - s.pos, s.pushTo i)

def pushNewline (s : Scanner) : Nat × Scanner :=
  match s.peek 0, s.peek 1 with
  | some '\n', _ => (1, s.pushCount 1)
  | some '\r', some '\n' => (2, s.pushCount 2)
  | _, _ => (0, s)

def lineEnd (s : Scanner) : Nat :=
  match s.lineFeed s.pos with
  | none => s.text.size
  | some i => if s.pos < i && s.text[i - 1]? = some '\r' then i - 1 else i

def atLineEnd (s : Scanner) : Bool :=
  let i := s.skip (fun c => c = some ' ' || c = some '\t') (s.text.size + 1) s.pos
  match s.text[i]? with
  | none => true
  | some '#' => true
  | some '\n' => true
  | some '\r' => s.text[i + 1]? = some '\n'
  | some _ => false

/-- Whether a line starts or ends a document. -/
def isMarker (s : Scanner) (i : Nat) : Bool :=
  let t := s.slice i (i + 3)
  (t = ['-', '-', '-'] || t = ['.', '.', '.']) && isEmptyAt s.text[i + 3]?

/-- Where a scalar goes on after a line end, if it does. -/
def continueScalar (s : Scanner) (offset : Nat) : Option Nat :=
  if 0 < s.indentNext then
    let i := s.skip (fun c => c = some ' ') (s.text.size + 1) offset
    let indent := i - offset
    match s.text[i]? with
    | some '\r' =>
      if s.text[i + 1]? = some '\n' then some (i + 1)
      else if s.indentNext ≤ indent then some i else none
    | some '\n' => some i
    | _ => if s.indentNext ≤ indent then some i else none
  else if s.isMarker offset then none
  else some offset

/-! ## Tags, anchors and indicators -/

def tagEnd (s : Scanner) : Nat → Nat → Nat
  | 0, i => i
  | fuel + 1, i =>
    match s.text[i]? with
    | none => i
    | some c =>
      if isTagChar c then tagEnd s fuel (i + 1)
      else if c = '%' && isHex s.text[i + 1]? && isHex s.text[i + 2]? then tagEnd s fuel (i + 3)
      else i

def pushTag (s : Scanner) : Scanner :=
  if s.peek 1 = some '<' then
    let i := s.skipUntil (fun c => isEmptyAt c || c = some '>') (s.pos + 2)
    s.pushTo (if s.text[i]? = some '>' then i + 1 else i)
  else s.pushTo (s.tagEnd (s.text.size + 1) (s.pos + 1))

/-- The indicators, anchors and tags at the position. -/
def pushIndicators : Nat → Scanner → Scanner
  | 0, s => s
  | fuel + 1, s =>
    match s.peek 0 with
    | some '!' => pushIndicators fuel (s.pushTag.pushSpaces true).2
    | some '&' => pushIndicators fuel ((s.pushTo (s.skipUntil endsAnchor s.pos)).pushSpaces true).2
    | some c =>
      if c = '-' ∨ c = '?' ∨ c = ':' then
        let inFlow := 0 < s.flowLevel
        let next := s.peek 1
        if isEmptyAt next || (inFlow && isFlowIndicator next) then
          let s := if !inFlow then { s with indentNext := s.indentValue + 1 } else { s with flowKey := false }
          pushIndicators fuel ((s.pushCount 1).pushSpaces true).2
        else s
      else s
    | none => s

/-! ## Scalars -/

def singleQuoteEnd (s : Scanner) : Nat → Nat → Option Nat
  | 0, _ => none
  | fuel + 1, i =>
    let j := s.skipUntil (fun c => c = some '\'') i
    if s.text.size ≤ j then none
    else if s.text[j + 1]? = some '\'' then singleQuoteEnd s fuel (j + 2)
    else some j

/-- How many backslashes stand right before a position. -/
def backslashesBefore (s : Scanner) : Nat → Nat
  | 0 => 0
  | i + 1 => if s.text[i]? = some '\\' then backslashesBefore s i + 1 else 0

def doubleQuoteEnd (s : Scanner) : Nat → Nat → Option Nat
  | 0, _ => none
  | fuel + 1, i =>
    let j := s.skipUntil (fun c => c = some '"') i
    if s.text.size ≤ j then none
    else if s.backslashesBefore j % 2 = 0 then some j
    else doubleQuoteEnd s fuel (j + 1)

def brokenLine (s : Scanner) (limit : Nat) : Nat → Nat → Option Nat
  | 0, _ => none
  | fuel + 1, i =>
    match s.lineFeed i with
    | none => none
    | some nl =>
      if limit ≤ nl then none
      else
        match s.continueScalar (nl + 1) with
        | none => some nl
        | some j => brokenLine s limit fuel j

/-- A quoted scalar, up to its quote or to the line that breaks it off. -/
def pushQuoted (s : Scanner) : Scanner :=
  let size := s.text.size
  let close :=
    if s.peek 0 = some '\'' then s.singleQuoteEnd (size + 1) (s.pos + 1) else s.doubleQuoteEnd (size + 1) (s.pos + 1)
  -- lines are only looked at up to the closing mark
  match s.brokenLine (close.getD 0) (size + 1) s.pos with
  | some nl => s.pushTo (if s.text[nl - 1]? = some '\r' then nl - 1 else nl)
  | none => s.pushTo (close.getD size + 1 |> min size)

def plainEnd (s : Scanner) (inFlow : Bool) : Nat → Nat → Nat → Nat
  | 0, _, last => last
  | fuel + 1, i, last =>
    match s.text[i]? with
    | none => last
    | some ch =>
      if ch = ':' then
        let next := s.text[i + 1]?
        if isEmptyAt next || (inFlow && isFlowIndicator next) then last else plainEnd s inFlow fuel (i + 1) (i + 1)
      else if isEmptyAt (some ch) then
        let broken := ch = '\r' && s.text[i + 1]? = some '\n'
        let last := if ch = '\r' && !broken then i + 1 else last
        let i := if broken then i + 1 else i
        let isLineFeed := ch = '\n' || broken
        let next := s.text[i + 1]?
        if next = some '#' || (inFlow && isFlowIndicator next) then last
        else if isLineFeed then
          match s.continueScalar (i + 1) with
          | none => last
          | some cs => plainEnd s inFlow fuel (max i (cs - 2) + 1) last
        else plainEnd s inFlow fuel (i + 1) last
      else if inFlow && isFlowIndicator (some ch) then last
      else plainEnd s inFlow fuel (i + 1) (i + 1)

def pushPlain (s : Scanner) : Scanner :=
  s.pushScalar (s.plainEnd (0 < s.flowLevel) (s.text.size + 1) s.pos s.pos)

/-! ## Block scalars -/

/-- The indent and the chomping a block scalar's header gives. -/
def headerFlags (s : Scanner) : Nat → Nat → Option Nat → Bool → Option Nat × Bool
  | 0, _, indent, keep => (indent, keep)
  | fuel + 1, i, indent, keep =>
    match s.text[i]? with
    | some '+' => headerFlags s fuel (i + 1) indent true
    | some '-' => headerFlags s fuel (i + 1) indent keep
    | some c =>
      if '1' ≤ c ∧ c ≤ '9' then headerFlags s fuel (i + 1) (some (c.toNat - '0'.toNat - 1)) keep else (indent, keep)
    | none => (indent, keep)

def leadingLines (s : Scanner) : Nat → Nat → Nat → Nat → Nat × Nat
  | 0, _, nl, indent => (nl, indent)
  | fuel + 1, i, nl, indent =>
    match s.text[i]? with
    | some ' ' => leadingLines s fuel (i + 1) nl (indent + 1)
    | some '\n' => leadingLines s fuel (i + 1) i 0
    | some '\r' => if s.text[i + 1]? = some '\n' then leadingLines s fuel (i + 1) nl indent else (nl, indent)
    | _ => (nl, indent)

def blockEnd (s : Scanner) : Nat → Nat → Nat
  | 0, nl => nl
  | fuel + 1, nl =>
    match s.continueScalar (nl + 1) with
    | none => nl
    | some cs =>
      match s.lineFeed cs with
      | none => s.text.size
      | some nl => blockEnd s fuel nl

def beforeSpaces (s : Scanner) : Nat → Nat
  | 0 => 0
  | i + 1 => if s.text[i]? = some ' ' then beforeSpaces s i else i + 1

/-- Leaves out the blank lines after a block scalar. -/
def dropBlankLines (s : Scanner) (indent : Nat) : Nat → Nat → Nat
  | 0, nl => nl
  | fuel + 1, nl =>
    let lineStop := if 0 < nl && s.text[nl - 1]? = some '\r' then nl - 1 else nl
    let stop := s.beforeSpaces lineStop
    if 0 < stop && s.text[stop - 1]? = some '\n' && s.pos ≤ stop - 1 && lineStop - 1 < stop + indent then
      dropBlankLines s indent fuel (stop - 1)
    else nl

def pushBlockScalar (s : Scanner) : Scanner :=
  let size := s.text.size
  let stop := s.lineEnd
  let (explicit, keep) := s.headerFlags (size + 1) (s.pos + 1) none false
  let s := s.pushTo (s.skipUntil (fun c => isEmptyAt c || c = some '#') s.pos)
  let s := (s.pushSpaces true).2
  let s := (s.pushTo stop).pushNewline.2
  let (nl, indent) := s.leadingLines (size + 1) s.pos (s.pos - 1) 0
  let (s, nl) :=
    if s.indentNext ≤ indent then
      let least :=
        match explicit with
        | none => indent
        | some n => n + (if s.indentNext = 0 then 1 else s.indentNext)
      let s := { s with indentNext := least }
      (s, s.blockEnd (size + 1) nl)
    else (s, nl)
  let i := s.skip (fun c => c = some ' ') (size + 1) (nl + 1)
  let nl :=
    if s.text[i]? = some '\t' then
      s.skip (fun c => c = some '\t' || c = some ' ' || c = some '\r' || c = some '\n') (size + 1) i - 1
    else if keep then nl
    else s.dropBlankLines indent (size + 1) nl
  s.pushScalar (min (nl + 1) size)

/-! ## Modes -/

def directiveLength (cs : List Char) : Nat :=
  let cut := (List.range cs.length).find? fun i =>
    cs[i]? = some '#' && 0 < i && (cs[i - 1]? = some ' ' || cs[i - 1]? = some '\t')
  let stop := (cut.map (· - 1)).getD cs.length
  ((cs.take stop).reverse.dropWhile fun c => c = ' ' || c = '\t').length

def stepLineStart (s : Scanner) : Scanner × Mode :=
  if s.isMarker s.pos then
    let isStart := s.peek 0 = some '-'
    ({ s.pushCount 3 with indentValue := 0, indentNext := 0 }, if isStart then .document else .stream)
  else
    let (n, s) := s.pushSpaces false
    let s := { s with indentValue := n }
    let s := if s.indentValue < s.indentNext && !isEmptyAt (s.peek 1) then { s with indentNext := s.indentValue } else s
    (s, .blockStart)

def stepBlockStart (s : Scanner) : Scanner × Mode :=
  match s.peek 0 with
  | some c =>
    if (c = '-' || c = '?' || c = ':') && isEmptyAt (s.peek 1) then
      let (n, s) := (s.pushCount 1).pushSpaces true
      ({ s with indentNext := s.indentValue + 1, indentValue := s.indentValue + (n + 1) }, .blockStart)
    else (s, .document)
  | none => (s, .document)

def stepStream (s : Scanner) : Scanner × Mode :=
  let stop := s.lineEnd
  let s := if s.peek 0 = some '\ufeff' then s.pushCount 1 else s
  if s.peek 0 = some '%' then
    let n := directiveLength (s.slice s.pos stop)
    let s := ((s.pushCount n).pushSpaces true).2
    ((s.pushTo stop).pushNewline.2, .stream)
  else if s.atLineEnd then
    let s := (s.pushSpaces true).2
    ((s.pushTo stop).pushNewline.2, .stream)
  else stepLineStart (s.push ⟨.documentMode, []⟩)

def stepDocument (s : Scanner) : Scanner × Mode :=
  let s := (s.pushSpaces true).2
  let stop := s.lineEnd
  let s := s.pushIndicators (s.text.size + 1)
  if stop ≤ s.pos then (s.pushNewline.2, .lineStart)
  else
    match s.peek 0 with
    | none => (s.pushNewline.2, .lineStart)
    | some '#' => ((s.pushTo stop).pushNewline.2, .lineStart)
    | some '{' => ({ s.pushCount 1 with flowKey := false, flowLevel := 1 }, .flow)
    | some '[' => ({ s.pushCount 1 with flowKey := false, flowLevel := 1 }, .flow)
    | some '}' => (s.pushCount 1, .document)
    | some ']' => (s.pushCount 1, .document)
    | some '*' => (s.pushTo (s.skipUntil endsAnchor s.pos), .document)
    | some '"' => (s.pushQuoted, .document)
    | some '\'' => (s.pushQuoted, .document)
    | some '|' => (s.pushBlockScalar, .lineStart)
    | some '>' => (s.pushBlockScalar, .lineStart)
    | some _ => (s.pushPlain, .document)

def flowBlanks : Nat → Scanner → Option Nat → Option Nat × Scanner
  | 0, s, indent => (indent, s)
  | fuel + 1, s, indent =>
    let (nl, s) := s.pushNewline
    let (sp, s, indent) :=
      if 0 < nl then
        let (n, s) := s.pushSpaces false
        (n, { s with indentValue := n }, some n)
      else (0, s, indent)
    let (more, s) := s.pushSpaces true
    if nl + sp + more = 0 then (indent, s) else flowBlanks fuel s indent

def pushCommas : Nat → Scanner → Scanner
  | 0, s => s
  | fuel + 1, s =>
    if s.peek 0 = some ',' then pushCommas fuel { ((s.pushCount 1).pushSpaces true).2 with flowKey := false } else s

def stepFlow (s : Scanner) : Scanner × Mode :=
  let (indent, s) := flowBlanks (s.text.size + 1) s none
  let stop := s.lineEnd
  let unindented :=
    match indent with
    | some n => (n < s.indentNext && s.peek 0 ≠ some '#') || (n = 0 && s.isMarker s.pos)
    | none => false
  let closing := indent.map (· + 1) = some s.indentNext && s.flowLevel = 1 &&
    (s.peek 0 = some ']' || s.peek 0 = some '}')
  if unindented && !closing then stepLineStart ({ s with flowLevel := 0 }.push ⟨.flowErrorEnd, []⟩)
  else
    let s := pushCommas (s.text.size + 1) s
    let s := s.pushIndicators (s.text.size + 1)
    if stop ≤ s.pos then (s, .flow)
    else
      match s.peek 0 with
      | none => (s, .flow)
      | some '#' => (s.pushTo stop, .flow)
      | some '{' => ({ s.pushCount 1 with flowKey := false, flowLevel := s.flowLevel + 1 }, .flow)
      | some '[' => ({ s.pushCount 1 with flowKey := false, flowLevel := s.flowLevel + 1 }, .flow)
      | some '}' =>
        ({ s.pushCount 1 with flowKey := true, flowLevel := s.flowLevel - 1 },
          if s.flowLevel ≤ 1 then .document else .flow)
      | some ']' =>
        ({ s.pushCount 1 with flowKey := true, flowLevel := s.flowLevel - 1 },
          if s.flowLevel ≤ 1 then .document else .flow)
      | some '*' => (s.pushTo (s.skipUntil endsAnchor s.pos), .flow)
      | some '"' => ({ s with flowKey := true }.pushQuoted, .flow)
      | some '\'' => ({ s with flowKey := true }.pushQuoted, .flow)
      | some ':' =>
        let next := s.peek 1
        if s.flowKey || isEmptyAt next || next = some ',' then
          ((({ s with flowKey := false }.pushCount 1).pushSpaces true).2, .flow)
        else ({ s with flowKey := false }.pushPlain, .flow)
      | some _ => ({ s with flowKey := false }.pushPlain, .flow)

/-- One step of the scanner. -/
def step (s : Scanner) : Mode → Scanner × Mode
  | .stream => s.stepStream
  | .lineStart => s.stepLineStart
  | .blockStart => s.stepBlockStart
  | .document => s.stepDocument
  | .flow => s.stepFlow

def run : Nat → Scanner → Mode → Scanner
  | 0, s, _ => s
  | fuel + 1, s, mode =>
    if s.pos < s.text.size then
      let (s, mode) := s.step mode
      run fuel s mode
    else s

end Scanner

/-- The lexemes of a text. -/
def scan (text : String) : List Token :=
  let chars := text.toList.toArray
  ((Scanner.run (4 * chars.size + 16) { text := chars } .stream).found).reverse

end DataplaneVerdict.Yaml
