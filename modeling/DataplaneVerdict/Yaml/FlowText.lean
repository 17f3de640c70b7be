import DataplaneVerdict.Yaml.Quoting
import DataplaneVerdict.Yaml.Tag

/-!
# `Yaml.FlowText` — nodes as flow collections

A map key that is a collection needs a text: the collection written between brackets, with the anchors, tags and
comments inside it. It stands on one line if that has eighty columns at most and needs no line breaks.
-/

namespace DataplaneVerdict.Yaml

/-! ## Comments -/

def endsLine (c : Char) : Bool := c = '\n' || c = '\r' || c.toNat = 0x2028 || c.toNat = 0x2029

def mapLines (f : List Char → List Char) (cs : List Char) : List Char :=
  let (line, done) := cs.foldr
    (fun c (line, done) => if endsLine c then ([], c :: (f line ++ done)) else (c :: line, done)) ([], [])
  f line ++ done

/-- Puts the comment mark before each line. -/
def markComment (s : String) : List Char :=
  mapLines (fun line => if line.isEmpty then [] else if line = [' '] then ['#'] else '#' :: line) s.toList

def indentComment (indent : Nat) (cs : List Char) : List Char :=
  if cs.all (· = '\n') then cs.drop 1
  else mapLines (fun line => if line.all (· = ' ') then line else blanks indent ++ line) cs

def lineComment (s : String) (indent : Nat) (comment : String) : String :=
  let c := markComment comment
  String.ofList (
    if s.toList.getLast? = some '\n' then indentComment indent c
    else if c.contains '\n' then '\n' :: indentComment indent c
    else (if s.toList.getLast? = some ' ' then [] else [' ']) ++ c)

/-! ## Scalars -/

def inRadix (base n : Nat) : String := String.ofList (Nat.toDigits base n)

def radixText (base : Nat) (bits : Nat) (n : Nat) : String :=
  let excess := n.log2 + 1 - 53
  let zeros := (excess + bits - 1) / bits
  inRadix base (n / Nat.pow base zeros) ++ String.ofList (List.replicate zeros '0')

def exponentText (n : Number) : String :=
  match n.toRat? with
  | none => n.text
  | some r =>
    if r.num = 0 then "0e+0"
    else
      let d := Number.shortest (if r.num < 0 then -r else r)
      let all := Nat.toDigits 10 d.digits
      let digits := Number.dropFinalZeros all
      let e : Int := (all.length : Int) + d.exponent - 1
      (if r.num < 0 then "-" else "") ++
        String.ofList (match digits with
          | [] => []
          | [c] => [c]
          | c :: rest => c :: '.' :: rest) ++
        (if e < 0 then "e-" else "e+") ++ Number.natText e.natAbs

def twoDigits (s : String) : String := if s.length < 2 then "0" ++ s else s

def dropNoise (cs : List Char) : List Char :=
  let tail := (cs.reverse.takeWhile Number.isDigit).reverse
  let head := cs.take (cs.length - tail.length)
  match (List.range tail.length).find? fun i => (tail.drop i).take 6 = "000000".toList with
  | some i => head ++ tail.take i
  | none => cs

def sexagesimalText (n : Number) : String :=
  let magnitude := if Number.lt n 0 then n.neg else n
  let r := (magnitude.toRat?).getD 0
  let modSixty (x : Rat) : Rat := x - 60 * ((x / 60).floor : Rat)
  let quotient (x part : Rat) : Rat := ((Number.round ((((Number.round (x - part)).toRat?).getD 0) / 60)).toRat?).getD 0
  let seconds := modSixty r
  let parts : List Rat :=
    if r < 60 then [0, seconds]
    else
      let minutes := quotient r seconds
      let rest := modSixty minutes
      if minutes < 60 then [rest, seconds] else [quotient minutes rest, rest, seconds]
  let body := Text.join ":" (parts.map fun p => twoDigits (Number.finite p).text)
  (if Number.lt n 0 then "-" else "") ++ String.ofList (dropNoise body.toList)

/-- A number with at least the digits after the point it was read with. -/
def decimalText (n : Number) (fractionDigits : Nat) : String :=
  match n with
  | .nan => ".nan"
  | .infinity negative => if negative then "-.inf" else ".inf"
  | n =>
    let t := if n = .negativeZero then "-0" else n.text
    if fractionDigits = 0 || t.toList.contains 'e' then t
    else
      let fraction := (t.toList.dropWhile (· != '.')).drop 1
      (if t.toList.contains '.' then t else t ++ ".") ++
        String.ofList (List.replicate (fractionDigits - fraction.length) '0')

def radixMark (schema : Schema) : Numeral → String
  | .binary => "0b"
  | .octal => if schema = .core then "0o" else "0"
  | .hexadecimal => "0x"
  | _ => ""

def numberText (schema : Schema) (n : Number) (numeral : Numeral) (fractionDigits : Nat) : String :=
  let inBase (base bits : Nat) : String :=
    match n.isInteger, n.toRat? with
    | true, some r => (if r.num < 0 then "-" else "") ++ radixMark schema numeral ++ radixText base bits r.num.natAbs
    | _, _ => decimalText n 0
  match numeral with
  | .decimal => decimalText n fractionDigits
  | .binary => inBase 2 1
  | .octal => inBase 8 3
  | .hexadecimal => inBase 16 4
  | .exponent => if n.toRat?.isSome then exponentText n else decimalText n 0
  | .sexagesimal => if n.toRat?.isSome then sexagesimalText n else decimalText n 0

def textAsNumber (s : String) : String :=
  match Number.ofText s with
  | .nan => ".nan"
  | .infinity negative => if negative then "-.inf" else ".inf"
  | _ => String.ofList (Json.quote s)

def piecesOf (n : Nat) : Nat → List Char → List (List Char)
  | 0, _ => []
  | fuel + 1, cs => if cs.isEmpty then [] else cs.take n :: piecesOf n fuel (cs.drop n)

/-- A byte array in base 64, broken into lines. -/
def bytesText (p : Place) (style : Style) (b : Bytes) : String :=
  let cs := Base64.encodeList b
  let s := if style = .double then String.ofList cs
    else
      let width := max (lineWidth - p.indent) leastWidth
      Text.join (if style = .literal then "\n" else " ") ((piecesOf width (cs.length + 1) cs).map String.ofList)
  writeText p style (fun _ => false) s

/-- What the text of a node depends on. -/
structure Writer where
  schema : Schema
  handles : TagHandles
  extraTags : List String

namespace Writer

/-- Whether a plain text would be read back as something else. -/
def readsAs (w : Writer) (s : String) : Bool := (w.schema.plain? true s).isSome

def plainText (w : Writer) (p : Place) (style : Style) (s : String) : String := writeText p style w.readsAs s

def valueText (w : Writer) (p : Place) (value : ScalarValue) (style : Style) (source : Option String)
    (plainTag : Bool) : String :=
  match value with
  | .null => (source.filter fun s => (Schema.null? s).isSome).getD "null"
  | .bool b => source.getD (if b then "true" else "false")
  | .number n numeral digits => numberText w.schema n numeral (if plainTag then digits else 0)
  | .text s => if w.schema = .legacy && s = "<<" then "<<" else w.plainText p style s
  | .bytes b => bytesText p style b
  | .time ms => Timestamp.isoText ms
  | .merge => "<<"

def knows (w : Writer) (name : String) : Bool :=
  ["null", "bool", "int", "float", "str", "map", "seq"].contains name ||
    (["binary", "merge", "timestamp", "omap", "pairs", "set"].contains name &&
      (w.schema = .legacy || w.extraTags.contains (standardTag name)))

def known? (w : Writer) (tag : Option String) : Option String :=
  tag.bind fun t => (["null", "bool", "int", "float", "str", "map", "seq", "binary", "merge",
    "timestamp", "omap", "pairs",
    "set"].find? fun n => standardTag n = t).filter w.knows

/-- The text of a scalar, its source kept where it reads the same. -/
def scalarText (w : Writer) (p : Place) (value : ScalarValue) (style : Style) (source : Option String)
    (tag : Option String) :
    Except String String :=
  let byValue := w.valueText p value style source (tag.isNone || tag = some (standardTag "float"))
  match w.known? tag, value with
  | some "null", .text s => .ok (if (Schema.null? s).isSome then s else "null")
  | some "bool", .text s => .ok (if s.isEmpty then "false" else "true")
  | some "int", .text s => .ok (textAsNumber s)
  | some "float", .text s => .ok (textAsNumber s)
  | some "timestamp", .text _ => .error "Not a time"
  | some "merge", _ => .ok "<<"
  | some "str", .text s => .ok (w.plainText p style s)
  | some "map", .text s => .ok (writeText p style (fun _ => false) s)
  | some "seq", .text s => .ok (writeText p style (fun _ => false) s)
  | some "omap", .text s => .ok (writeText p style (fun _ => false) s)
  | some "pairs", .text s => .ok (writeText p style (fun _ => false) s)
  | some "set", .text s => .ok (writeText p style (fun _ => false) s)
  | _, _ => .ok byValue

/-- What a missing value is written as under a tag. -/
def mistagged? (w : Writer) (p : Place) (tag : Option String) : Option String :=
  match w.known? tag with
  | some "null" => some "null"
  | some "bool" => some "false"
  | some "int" => some ".nan"
  | some "float" => some ".nan"
  | some "str" => some (w.plainText p .plain "undefined")
  | some "binary" => some ""
  | some "timestamp" => some ""
  | some "merge" => some "<<"
  | _ => none

/-! ## Nodes -/

def isAnchorName (s : String) : Bool :=
  s.toList.all fun c => 0x19 < c.toNat && !Text.isBlank c && !isFlowIndicator (some c)

/-- The tag and the anchor before a node. -/
def propsText (w : Writer) (m : Marks) : Except String String := do
  let anchor ← match m.anchor with
    | none => pure []
    | some a =>
      if isAnchorName a.name then pure ["&" ++ a.name]
      else throw "Anchor must not contain whitespace or control characters"
  let tag := match m.tag with
    | none => []
    | some t => if t.isEmpty then [] else [w.handles.written t]
  pure (Text.join " " (anchor ++ tag))

inductive Entry where
  | item (n : Node)
  | pair (key : Node) (value : Option Node)

structure Lines where
  lines : List String := []
  needsBreaks : Bool := false
  column : Option Nat

def linesBefore (indent : Nat) (m : Marks) : List String :=
  (if m.spaceBefore then [""] else []) ++
    (if m.commentBefore.isEmpty then []
      else [String.ofList ((indentComment indent (markComment m.commentBefore)).dropWhile Text.isBlank)])

def Entry.comment : Entry → String
  | .item n => n.marks.comment
  | .pair _ (some v) => v.marks.comment
  | .pair k none => k.marks.comment

def Entry.needsBreaks : Entry → Bool
  | .item _ => false
  | .pair k v => !k.marks.comment.isEmpty || (match v with
      | some v => !v.marks.commentBefore.isEmpty
      | none => false)

def Entry.firstMarks : Entry → Marks
  | .item n => n.marks
  | .pair k _ => k.marks

/-- A flow collection on one line if it fits, else one entry a line. -/
def enclose (opening closing : String) (indent : Nat) (l : Lines) : String :=
  let lines := l.lines.reverse
  if lines.isEmpty then opening ++ closing
  else
    let width := lines.foldl (fun sum line => sum + Text.width line + 2) 2
    if l.needsBreaks || lineWidth < width then
      opening ++ Text.join "" (lines.map fun line =>
        if line.isEmpty then "\n" else "\n" ++ String.ofList (blanks (indent + 2)) ++ line) ++
        "\n" ++ String.ofList (blanks indent) ++ closing
    else opening ++ " " ++ Text.join " " lines ++ " " ++ closing

def hasPropsLine (s : String) : Bool :=
  let cs := s.toList
  let first := cs.takeWhile (· != '\n')
  match cs with
  | '&' :: _ =>
    match (first.dropWhile (· != ' ')).drop 1 with
    | '!' :: rest => !rest.contains ' '
    | _ => !first.contains ' '
  | '!' :: _ => !first.contains ' '
  | _ => false

def gapBefore (explicitKey : Bool) (keyComment : String) (value : Node) (text : String) (indent : Nat) : String :=
  let m := value.marks
  let newLine := "\n" ++ String.ofList (blanks indent)
  if !keyComment.isEmpty || m.spaceBefore || !m.commentBefore.isEmpty then
    (if m.spaceBefore then "\n" else "") ++
      (if m.commentBefore.isEmpty then ""
        else "\n" ++ String.ofList (indentComment indent (markComment m.commentBefore))) ++ newLine
  else if !explicitKey && value.isCollection then
    if text.toList.contains '\n' && !hasPropsLine text then newLine else " "
  else if text.isEmpty || text.toList.head? = some '\n' then ""
  else " "

def isExplicitKey : Node → Bool
  | .scalar _ style _ _ => style = .literal || style = .folded
  | _ => true

mutual

/-- A node in flow style, and where its comment begins. -/
def nodeText (w : Writer) : Nat → Place → Node → Except String (String × Option Nat)
  | 0, _, _ => .error "The document is nested too deeply"
  | fuel + 1, p, n => do
    match n with
    | .aliasOf name _ _ =>
      if isAnchorName name then pure ("*" ++ name ++ (if p.implicitKey then " " else ""), p.column)
      else throw "Anchor must not contain whitespace or control characters"
    | n =>
      let props ← w.propsText n.marks
      let p := if props.isEmpty then p else { p with column := some (p.column.getD 0 + Text.width props + 1) }
      let text ← match n with
        | .scalar value style source m => w.scalarText p value style source m.tag
        | n =>
          match w.mistagged? p n.marks.tag with
          | some t => pure t
          | none => collectionText w fuel p n
      let first := text.toList.head?
      if props.isEmpty then pure (text, p.column)
      else if n.isScalar || first = some '{' || first = some '[' then pure (props ++ " " ++ text, p.column)
      else pure (props ++ "\n" ++ String.ofList (blanks p.indent) ++ text, p.column)

def collectionText (w : Writer) : Nat → Place → Node → Except String String
  | 0, _, _ => .error "The document is nested too deeply"
  | fuel + 1, p, n => do
    match n with
    | .map isSet ps _ =>
      let allNull := isSet || ps.all fun q => q.2.isNone
      let lines ← entryLines w fuel p (p.indent + 2) allNull (ps.map fun (k, v) => .pair k v) { column := p.column }
      pure (enclose "\x7b" "\x7d" p.indent lines)
    | .sequence items _ =>
      let lines ← entryLines w fuel p (p.indent + 4) false (items.map .item) { column := p.column }
      pure (enclose "[" "]" p.indent lines)
    | .pairs _ ps _ =>
      let lines ← entryLines w fuel p (p.indent + 4) false (ps.map fun (k, v) => .pair k v) { column := p.column }
      pure (enclose "[" "]" p.indent lines)
    | _ => pure ""

def entryLines (w : Writer) : Nat → Place → Nat → Bool → List Entry → Lines → Except String Lines
  | 0, _, _, _, _, _ => .error "The document is nested too deeply"
  | _ + 1, _, _, _, [], l => .ok l
  | fuel + 1, p, itemIndent, allNull, e :: rest, l => do
    let before := linesBefore p.indent e.firstMarks
    let comment := e.comment
    let place : Place := { indent := itemIndent, implicitKey := p.implicitKey, column := l.column }
    let (text, column) ← match e with
      | .item n => nodeText w fuel place n
      | .pair k v => do
        let t ← pairText w fuel place allNull k v
        pure (t, l.column)
    let text := if rest.isEmpty then text else text ++ ","
    let needsBreaks := l.needsBreaks || e.needsBreaks || !comment.isEmpty || !before.isEmpty ||
      text.toList.contains '\n'
    let text := if comment.isEmpty then text else text ++ lineComment text itemIndent comment
    entryLines w fuel p itemIndent allNull rest ⟨text :: (before.reverse ++ l.lines), needsBreaks, column⟩

def pairText (w : Writer) : Nat → Place → Bool → Node → Option Node → Except String String
  | 0, _, _, _, _ => .error "The document is nested too deeply"
  | fuel + 1, p, allNull, key, value => do
    let explicitKey := isExplicitKey key
    let inner := p.indent + 2
    let (keyText, column) ←
      nodeText w fuel { indent := inner, implicitKey := !explicitKey && !allNull, column := p.column } key
    match allNull, value with
    | false, some v =>
      let comment := key.marks.comment
      let after (s : String) : String := if comment.isEmpty then s else s ++ lineComment s inner comment
      let head := if explicitKey then "? " ++ after keyText ++ "\n" ++ String.ofList (blanks p.indent) ++ ":"
        else after (keyText ++ ":")
      let column := if !explicitKey && comment.isEmpty && v.isScalar then some (Text.width head + 1) else column
      let (text, _) ← nodeText w fuel { indent := inner, column := column } v
      pure (head ++ gapBefore explicitKey comment v text inner ++ text)
    | _, _ => pure (if keyText.isEmpty then "?" else if explicitKey then "? " ++ keyText else keyText)

end

/-- A key that is no text, written as a field name. -/
def keyText (w : Writer) (fuel : Nat) (n : Node) : Except String String :=
  match n with
  | .scalar (.time ms) _ _ _ => .ok (Timestamp.longText ms)
  | .scalar (.bytes b) _ _ _ => .ok (Utf8.decode b)
  | .scalar _ _ _ _ => .ok ""
  | .aliasOf name _ _ =>
    if isAnchorName name then .ok ("*" ++ name) else .error "Anchor must not contain whitespace or control characters"
  | n => w.collectionText fuel { indent := 0 } n

end Writer

end DataplaneVerdict.Yaml
