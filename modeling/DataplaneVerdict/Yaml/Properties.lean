import DataplaneVerdict.Yaml.Outline

/-!
# `Yaml.Properties` — what stands around the nodes of an outline

Both give the complaints about what they meet.
-/

namespace DataplaneVerdict.Yaml

/-- What follows the properties. -/
inductive Next where
  | nothing
  | lexeme (l : Lexeme)
  | piece (p : Piece)

namespace Next

def of (p : Option Piece) (ls : Option (List Lexeme)) : Next :=
  match p, ls with
  | some p, _ => piece p
  | none, some (l :: _) => lexeme l
  | none, _ => nothing

def needsNoSpace : Next → Bool
  | nothing => true
  | lexeme l => l.kind = .space || l.kind = .newline || l.kind = .comma
  | piece (.scalar .plain _ _ text _) => text.isEmpty
  | piece _ => false

def isFlow : Next → Bool
  | piece (.flow _ _ _ _ _) => true
  | _ => false

def isBlock : Next → Bool
  | piece (.blockMap _ _ _) => true
  | piece (.blockSequence _ _ _) => true
  | _ => false

end Next

def commentText (l : Lexeme) : String := if l.text.length ≤ 1 then " " else String.ofList (l.text.drop 1)

/-- The properties of a node, and the lexemes around them. -/
structure Props where
  comma : Bool := false
  found : Option Lexeme := none
  spaceBefore : Bool := false
  comment : String := ""
  hasNewline : Bool := false
  anchor : Option Lexeme := none
  tag : Option Lexeme := none
  newlineAfterProp : Option Lexeme := none
  stop : Nat := 0
  start : Nat := 0

structure PropScan where
  props : Props := {}
  atNewline : Bool
  hasSpace : Bool
  needsSpace : Bool := false
  tab : Option Lexeme := none
  first : Option Nat := none
  breaks : String := ""
  complaints : List String := []

namespace PropScan

def complain (s : PropScan) (m : String) : PropScan := { s with complaints := m :: s.complaints }

def takeComment (s : PropScan) (l : Lexeme) : PropScan :=
  let text := commentText l
  { s with
    props := { s.props with comment := if s.props.comment.isEmpty then text else s.props.comment ++ s.breaks ++ text }
    breaks := ""
    atNewline := false }

def takeNewline (indicator : LexKind) (s : PropScan) (l : Lexeme) : PropScan :=
  let p := s.props
  let marked := p.anchor.isSome || p.tag.isSome
  let source := String.ofList l.text
  let p :=
    if s.atNewline then
      if !p.comment.isEmpty then { p with comment := p.comment ++ source }
      else if p.found.isNone || indicator ≠ .sequenceItem then { p with spaceBefore := true }
      else p
    else p
  { s with
    breaks := if s.atNewline then s.breaks else s.breaks ++ source
    atNewline := true
    hasSpace := true
    props := { p with hasNewline := true, newlineAfterProp := if marked then some l else p.newlineAfterProp } }

/-- One lexeme before a node. -/
def take (flow : Bool) (indicator : LexKind) (next : Next) (s : PropScan) (l : Lexeme) : PropScan :=
  let s := if s.needsSpace && l.kind ≠ .space && l.kind ≠ .newline && l.kind ≠ .comma then
      s.complain "Tags and anchors must be separated from the next token by white space" else s
  let s := { s with needsSpace := false }
  let s := if s.tab.isSome && s.atNewline && l.kind ≠ .comment && l.kind ≠ .newline then
      s.complain "Tabs are not allowed as indentation" else s
  let s := { s with tab := none }
  if l.kind = .space then
    let counts := !flow && (indicator ≠ .documentStart || !next.isFlow) && l.text.contains '\t'
    { s with tab := if counts then some l else s.tab, hasSpace := true }
  else if l.kind = .comment then
    let s := if s.hasSpace then s
      else s.complain "Comments must be separated from other tokens by white space characters"
    s.takeComment l
  else if l.kind = .newline then s.takeNewline indicator l
  else if l.kind = .anchor then
    let s := if s.props.anchor.isSome then s.complain "A node can have at most one anchor" else s
    { s with
      props := { s.props with anchor := some l }
      first := s.first.orElse fun _ => some l.offset
      atNewline := false, hasSpace := false, needsSpace := true }
  else if l.kind = .tag then
    let s := if s.props.tag.isSome then s.complain "A node can have at most one tag" else s
    { s with
      props := { s.props with tag := some l }
      first := s.first.orElse fun _ => some l.offset
      atNewline := false, hasSpace := false, needsSpace := true }
  else if l.kind = indicator then
    let s := if s.props.anchor.isSome || s.props.tag.isSome then
        s.complain "Anchors and tags must be after the indicator" else s
    let s := if s.props.found.isSome then s.complain "Unexpected indicator in collection" else s
    { s with
      props := { s.props with found := some l }
      atNewline := indicator = .sequenceItem || indicator = .explicitKey
      hasSpace := false }
  else if l.kind = .comma && flow then
    let s := if s.props.comma then s.complain "Unexpected , in flow collection" else s
    { s with props := { s.props with comma := true }, atNewline := false, hasSpace := false }
  else { s.complain "Unexpected token" with atNewline := false, hasSpace := false }

end PropScan

/-- The properties that a list of lexemes gives. -/
def Props.of (lexemes : List Lexeme) (flow : Bool) (indicator : LexKind) (next : Next) (offset parentIndent : Nat)
    (startOnNewline : Bool) : Props × List String :=
  let s := lexemes.foldl (PropScan.take flow indicator next) { atNewline := startOnNewline, hasSpace := startOnNewline }
  let stop := match lexemes.getLast? with
    | some l => l.offset + Text.unitCount l.text
    | none => offset
  let s := if s.needsSpace && !next.needsNoSpace then
      s.complain "Tags and anchors must be separated from the next token by white space" else s
  let s := match s.tab with
    | some t =>
      if (s.atNewline && t.indent ≤ parentIndent) || next.isBlock then s.complain "Tabs are not allowed as indentation"
      else s
    | none => s
  ({ s.props with stop := stop, start := s.first.getD stop }, s.complaints)

structure Rest where
  comment : String := ""
  breaks : String := ""
  hasSpace : Bool := false
  stop : Nat
  complaints : List String := []

namespace Rest

def take (needsSpace : Bool) (r : Rest) (l : Lexeme) : Rest :=
  let r := { r with stop := r.stop + Text.unitCount l.text }
  match l.kind with
  | .space => { r with hasSpace := true }
  | .newline =>
    { r with hasSpace := true, breaks := if r.comment.isEmpty then r.breaks else r.breaks ++ String.ofList l.text }
  | .comment =>
    { r with
      comment := if r.comment.isEmpty then commentText l else r.comment ++ r.breaks ++ commentText l
      breaks := ""
      complaints := if needsSpace && !r.hasSpace then
          "Comments must be separated from other tokens by white space characters" :: r.complaints else r.complaints }
  | _ => { r with complaints := "Unexpected token at node end" :: r.complaints }

def of (lexemes : List Lexeme) (offset : Nat) (needsSpace : Bool) : Rest :=
  lexemes.foldl (take needsSpace) { stop := offset }

end Rest

/-- Whether a flow piece is spread over several lines. -/
def containsNewline : Nat → Piece → Bool
  | 0, _ => true
  | _ + 1, .scalar _ _ _ text trailing =>
    text.contains '\n' || (trailing.getD []).any fun l => l.kind = .newline
  | fuel + 1, .flow _ _ _ items _ =>
    items.any fun it =>
      includes .newline it.start || includes .newline (it.sep.getD []) ||
        (match it.key with
          | some k => containsNewline fuel k
          | none => false) ||
        (match it.value with
          | some v => containsNewline fuel v
          | none => false)
  | _ + 1, _ => true

end DataplaneVerdict.Yaml
