import DataplaneVerdict.Number.Decimal
import DataplaneVerdict.Yaml.Outline

/-!
# `Yaml.Scalar` — the texts of scalars

A text comes with the complaints about how it is written.
-/

namespace DataplaneVerdict.Yaml

/-- The text of a scalar as written, with complaints about it. -/
structure Written where
  text : List Char
  complaints : List String := []

def isBlankChar (c : Char) : Bool := c = ' ' || c = '\t'

def dropBlanks (cs : List Char) : List Char := cs.dropWhile isBlankChar

def dropFinalBlanks (cs : List Char) : List Char := (cs.reverse.dropWhile isBlankChar).reverse

def dropReturn (line : List Char) : List Char :=
  if line.getLast? = some '\r' then line.dropLast else line

/-! ## Flow scalars -/

def foldRest (acc : List Char) (sep : Char) : List (List Char) → List Char
  | [] => acc.reverse
  | [last] => ((dropBlanks last).reverseAux (sep :: acc)).reverse
  | line :: rest =>
    let t := dropFinalBlanks (dropBlanks (dropReturn line))
    if t.isEmpty then
      if sep = '\n' then foldRest ('\n' :: acc) sep rest else foldRest acc '\n' rest
    else foldRest (t.reverseAux (sep :: acc)) ' ' rest

/-- Joins lines: one break becomes a space, each further one stays. -/
def foldLines (cs : List Char) : List Char :=
  match Text.pieces '\n' cs with
  | [] => cs
  | [_] => cs
  | first :: rest => foldRest (dropFinalBlanks (dropReturn first)).reverse ' ' rest

def plainText (cs : List Char) : Written :=
  let bad := match cs.head? with
    | some c => "\t,%|>@`".toList.contains c
    | none => false
  ⟨foldLines cs, if bad then ["Plain value cannot start with this character"] else []⟩

/-- A doubled quote stands for one. -/
def undouble : List Char → List Char
  | '\'' :: '\'' :: rest => '\'' :: undouble rest
  | c :: rest => c :: undouble rest
  | [] => []

def isClosed (quote : Char) (cs : List Char) : Bool := cs.getLast? = some quote && 1 < cs.length

def singleQuotedText (cs : List Char) : Written :=
  ⟨undouble (foldLines (cs.drop 1).dropLast), if isClosed '\'' cs then [] else ["Missing closing 'quote"]⟩

def simpleEscape : Char → Option Char
  | '0' => some '\x00'
  | 'a' => some '\x07'
  | 'b' => some '\x08'
  | 'e' => some '\x1b'
  | 'f' => some '\x0c'
  | 'n' => some '\n'
  | 'r' => some '\r'
  | 't' => some '\t'
  | 'v' => some '\x0b'
  | 'N' => some (Char.ofNat 0x85)
  | '_' => some (Char.ofNat 0xA0)
  | 'L' => some (Char.ofNat 0x2028)
  | 'P' => some (Char.ofNat 0x2029)
  | ' ' => some ' '
  | '"' => some '"'
  | '/' => some '/'
  | '\\' => some '\\'
  | '\t' => some '\t'
  | _ => none

/-- How many hex digits an escape takes. -/
def escapeDigits : Char → Option Nat
  | 'x' => some 2
  | 'u' => some 4
  | 'U' => some 8
  | _ => none

def foldBreaks : List Char → List Char → List Char × List Char
  | acc, '\r' :: '\n' :: rest => foldBreaks ('\n' :: acc) rest
  | acc, '\n' :: rest => foldBreaks ('\n' :: acc) rest
  | acc, ' ' :: rest => foldBreaks acc rest
  | acc, '\t' :: rest => foldBreaks acc rest
  | acc, rest => (if acc.isEmpty then [' '] else acc, rest)

/-- Replaces the escapes of a double-quoted text. -/
def unescape : Nat → List Nat → List String → List Char → List Nat × List String
  | 0, acc, complaints, _ => (acc.reverse, complaints)
  | fuel + 1, acc, complaints, cs =>
    match cs with
    | [] => (acc.reverse, complaints)
    | '\r' :: '\n' :: rest => unescape fuel acc complaints ('\n' :: rest)
    | '\n' :: rest =>
      let (fold, rest) := foldBreaks [] rest
      unescape fuel (fold.map Char.toNat ++ acc) complaints rest
    | '\\' :: '\n' :: rest => unescape fuel acc complaints (dropBlanks rest)
    | '\\' :: '\r' :: '\n' :: rest => unescape fuel acc complaints (dropBlanks rest)
    | '\\' :: c :: rest =>
      match simpleEscape c, escapeDigits c with
      | some e, _ => unescape fuel (e.toNat :: acc) complaints rest
      | none, some n =>
        let digits := rest.take n
        match digits.length == n, Number.natOfBase 16 digits with
        | true, some code =>
          if code ≤ 0x10FFFF then unescape fuel (code :: acc) complaints (rest.drop n)
          else unescape fuel acc ("Invalid escape sequence" :: complaints) (rest.drop n)
        | _, _ => unescape fuel acc ("Invalid escape sequence" :: complaints) (rest.drop n)
      | none, none => unescape fuel acc ("Invalid escape sequence" :: complaints) rest
    | c :: rest =>
      if isBlankChar c then
        let blanks := (c :: rest).takeWhile isBlankChar
        let after := (c :: rest).dropWhile isBlankChar
        let atBreak := match after with
          | '\n' :: _ => true
          | '\r' :: '\n' :: _ => true
          | _ => false
        unescape fuel (if atBreak then acc else (blanks.map Char.toNat).reverse ++ acc) complaints after
      else unescape fuel (c.toNat :: acc) complaints rest

def codeUnits (code : Nat) : List Nat := if code < 0x10000 then [code] else Text.charUnits (Char.ofNat code)

def doubleQuotedText (cs : List Char) : Written :=
  let inner := (cs.drop 1).dropLast
  let (codes, complaints) := unescape (2 * inner.length + 2) [] [] inner
  ⟨Text.ofUnits (codes.flatMap codeUnits),
    if isClosed '"' cs then complaints else "Missing closing \"quote" :: complaints⟩

/-! ## Block scalars -/

inductive Chomp where
  | clip | strip | keep
deriving DecidableEq

structure BlockHeader where
  folded : Bool
  indent : Nat
  chomp : Chomp
  comment : String
  length : Nat
  complaints : List String

def headerMarks : List Char → Option Chomp → Nat → Bool → Option Chomp × Nat × Bool
  | [], chomp, indent, bad => (chomp, indent, bad)
  | c :: rest, chomp, indent, bad =>
    if chomp.isNone && c = '-' then headerMarks rest (some .strip) indent bad
    else if chomp.isNone && c = '+' then headerMarks rest (some .keep) indent bad
    else if indent = 0 && '1' ≤ c && c ≤ '9' then headerMarks rest chomp (c.toNat - '0'.toNat) bad
    else headerMarks rest chomp indent true

def headerRest : List Lexeme → Bool → List String
  | [], _ => []
  | l :: rest, spaced =>
    match l.kind with
    | .space => headerRest rest true
    | .newline => headerRest rest spaced
    | .comment =>
      (if spaced then [] else ["Comments must be separated from other tokens by white space characters"]) ++
        headerRest rest spaced
    | _ => "Unexpected token in block scalar header" :: headerRest rest spaced

def blockHeader (lexemes : List Lexeme) (broken : Bool) : BlockHeader :=
  let mark := (lexemes.head?.map (·.text)).getD []
  let (chomp, indent, bad) := headerMarks (mark.drop 1) none 0 false
  { folded := mark.head? = some '>'
    indent := indent
    chomp := chomp.getD .clip
    comment := (((lexemes.drop 1).filter fun l => l.kind = .comment).getLast?.map fun l =>
      String.ofList (l.text.drop 1)).getD ""
    length := lexemes.foldl (fun n l => n + Text.unitCount l.text) 0
    complaints := (if bad then ["Block scalar header includes extra characters"] else []) ++
      headerRest (lexemes.drop 1) false ++ (if broken then ["Not a YAML token"] else []) }

abbrev BlockLine := Nat × List Char

def blockLines (cs : List Char) : List BlockLine :=
  if cs.isEmpty then []
  else (Text.pieces '\n' cs).map fun l => ((l.takeWhile (· = ' ')).length, l.dropWhile (· = ' '))

def isBlankLine (l : BlockLine) : Bool := l.2.isEmpty || l.2 = ['\r']

/-- The indent of the first line that is not blank. -/
def findIndent (atRoot : Bool) (explicit : Nat) : List BlockLine → Nat → Nat → List String → Nat × Nat × List String
  | [], _, trim, complaints => (trim, 0, complaints)
  | l :: rest, i, trim, complaints =>
    if isBlankLine l then
      findIndent atRoot explicit rest (i + 1) (if explicit = 0 && trim < l.1 then l.1 else trim) complaints
    else
      let complaints := if l.1 < trim then
          "Block scalars with more-indented leading empty lines must use an explicit indentation indicator" ::
            complaints
        else complaints
      let trim := if explicit = 0 then l.1 else trim
      let complaints := if trim = 0 && !atRoot then
          "Block scalar values in collections must be indented" :: complaints
        else complaints
      (trim, i, complaints)

def joinBlock (folded : Bool) (trim : Nat) (acc : List Char) (sep : List Char) (more : Bool) :
    List BlockLine → List String → List Char × List String
  | [], complaints => (acc.reverse, complaints)
  | (indent, content) :: rest, complaints =>
    let content := dropReturn content
    let short := !content.isEmpty && indent < trim
    let complaints := if short then "Block scalar lines must not be less indented than their first line" :: complaints
      else complaints
    let indent := if short then 0 else indent
    let shown := List.replicate (indent - trim) ' ' ++ content
    if !folded then joinBlock folded trim (shown.reverseAux (sep.reverseAux acc)) ['\n'] more rest complaints
    else if trim < indent || content.head? = some '\t' then
      let sep := if sep = [' '] then ['\n'] else if !more && sep = ['\n'] then ['\n', '\n'] else sep
      joinBlock folded trim (shown.reverseAux (sep.reverseAux acc)) ['\n'] true rest complaints
    else if content.isEmpty then
      if sep = ['\n'] then joinBlock folded trim ('\n' :: acc) sep more rest complaints
      else joinBlock folded trim acc ['\n'] more rest complaints
    else joinBlock folded trim (content.reverseAux (sep.reverseAux acc)) [' '] false rest complaints

def trailingStop (trim : Nat) (lines : List BlockLine) (from_ : Nat) : Nat :=
  (lines.zipIdx.drop from_).foldl (fun acc (l, i) => if trim < l.1 then i + 1 else acc) from_

/-- The text of a block scalar. -/
def blockText (atRoot : Bool) (indent : Nat) (header : BlockHeader) (source : List Char) : Written :=
  let lines := blockLines source
  let chompStart := lines.length - (lines.reverse.takeWhile isBlankLine).length
  if chompStart = 0 then
    let text := if header.chomp = .keep && !lines.isEmpty then List.replicate (max 1 (lines.length - 1)) '\n' else []
    ⟨text, header.complaints⟩
  else
    let (trim, contentStart, complaints) :=
      findIndent atRoot header.indent (lines.take chompStart) 0 (indent + header.indent) header.complaints
    let stop := trailingStop trim lines chompStart
    let leading := (lines.take contentStart).flatMap fun l => List.replicate (l.1 - trim) ' ' ++ ['\n']
    let (text, complaints) :=
      joinBlock header.folded trim leading.reverse [] false ((lines.take stop).drop contentStart) complaints
    let text := match header.chomp with
      | .strip => text
      | .clip => text ++ ['\n']
      | .keep =>
        let t := text ++ (lines.drop stop).flatMap fun l => '\n' :: List.replicate (l.1 - trim) ' '
        if t.getLast? = some '\n' then t else t ++ ['\n']
    ⟨text, complaints⟩

end DataplaneVerdict.Yaml
