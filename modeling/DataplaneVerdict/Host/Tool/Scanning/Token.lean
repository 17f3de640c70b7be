import DataplaneVerdict.Host.Numeral
import DataplaneVerdict.Host.Tool.Scanning.Program

/-!
# `Host.Tool.Scanning.Token` — the words of scanning programs

A line end is a word of its own where a statement can end, and nothing where it cannot. In front of a closing brace a
statement ends even if nothing says so. A slash starts a regular expression unless the word before it is a value.
-/

namespace DataplaneVerdict.Host.Tool.Scanning

/-! ## Words -/

/-- The units of a program. -/
inductive Token where
  | number (x : Float) (source : Octets)
  | text (s : Octets)
  | regex (source : Octets)
  | name (s : String) (isCall : Bool)
  | keyword (w : String)
  | mark (w : String)
  | lineEnd
  | impliedEnd
  | done
  | fault (text : Octets)

def Token.shown : Token → Octets
  | number _ source => source
  | text s => s
  | regex s => "/" ++ s ++ "/"
  | name s _ => s
  | keyword w => w
  | mark w => w
  | lineEnd => "end of line"
  | impliedEnd => "\x7d"
  | done => "end of file"
  | fault s => s

def Token.isMark (t : Token) (w : String) : Bool :=
  match t with
  | mark v => v == w
  | _ => false

def Token.isKeyword (t : Token) (w : String) : Bool :=
  match t with
  | keyword v => v == w
  | _ => false

/-- Whether a slash behind it divides. -/
def Token.endsValue : Token → Bool
  | number _ _ => true
  | text _ => true
  | regex _ => true
  | name _ _ => true
  | mark w => w = ")" || w = "]" || w = "++" || w = "--"
  | _ => false

/-- A token with its place. -/
structure Lexeme where
  token : Token
  file : Option Octets
  line : Nat

instance : Inhabited Lexeme := ⟨⟨.done, none, 0⟩⟩

/-! ## Texts -/

/-- The text that a string stands for. -/
def unescape : Nat → List Char → List Char
  | 0, cs => cs
  | _ + 1, [] => []
  | fuel + 1, '\\' :: c :: rest =>
    let isOctal (d : Char) : Bool := '0' ≤ d && d ≤ '7'
    let one (x : Char) : List Char := x :: unescape fuel rest
    match c with
    | '"' => one '"'
    | '\\' => one '\\'
    | 'a' => one '\x07'
    | 'b' => one '\x08'
    | 'f' => one '\x0c'
    | 'n' => one '\n'
    | 'r' => one '\r'
    | 't' => one '\t'
    | 'v' => one '\x0b'
    | 'x' =>
      let ds := (rest.take 2).takeWhile fun d => (Numeral.hexValue d).isSome
      if ds.isEmpty then '\\' :: 'x' :: unescape fuel rest
      else
        Char.ofNat (ds.foldl (fun n d => n * 16 + (Numeral.hexValue d).getD 0) 0) :: unescape fuel (rest.drop ds.length)
    | c =>
      if isOctal c then
        let ds := ((c :: rest).take 3).takeWhile isOctal
        Char.ofNat (ds.foldl (fun n d => n * 8 + (d.toNat - 48)) 0 % 256) :: unescape fuel ((c :: rest).drop ds.length)
      else '\\' :: c :: unescape fuel rest
  | fuel + 1, c :: rest => c :: unescape fuel rest

def unescaped (s : Octets) : Octets := String.ofList (unescape (s.length + 1) s.toList)

/-- A string up to its closing quote. -/
def quoted : List Char → List Char → Nat → List Char × Option (List Char) × Nat
  | [], out, n => (out.reverse, none, n)
  | '\\' :: '\n' :: rest, out, n => quoted rest out (n + 1)
  | '\\' :: c :: rest, out, n => quoted rest (c :: '\\' :: out) n
  | '"' :: rest, out, n => (out.reverse, some rest, n)
  | '\n' :: _, out, n => (out.reverse, none, n)
  | c :: rest, out, n => quoted rest (c :: out) n

inductive Within where
  | outside
  | brackets
  | className

/-- A pattern up to its closing slash, which may stand in brackets. -/
def slashed : List Char → Within → List Char → List Char × Option (List Char)
  | [], _, out => (out.reverse, none)
  | '\n' :: _, _, out => (out.reverse, none)
  | '\\' :: '/' :: rest, w, out => slashed rest w ('/' :: out)
  | '\\' :: c :: rest, w, out => slashed rest w (c :: '\\' :: out)
  | '/' :: rest, .outside, out => (out.reverse, some rest)
  | '[' :: '^' :: ']' :: rest, .outside, out => slashed rest .brackets (']' :: '^' :: '[' :: out)
  | '[' :: ']' :: rest, .outside, out => slashed rest .brackets (']' :: '[' :: out)
  | '[' :: rest, .outside, out => slashed rest .brackets ('[' :: out)
  | '[' :: ':' :: rest, .brackets, out => slashed rest .className (':' :: '[' :: out)
  | ':' :: ']' :: rest, .className, out => slashed rest .brackets (']' :: ':' :: out)
  | ']' :: rest, .brackets, out => slashed rest .outside (']' :: out)
  | c :: rest, w, out => slashed rest w (c :: out)

/-! ## Reading -/

def keywords : List String :=
  ["BEGIN", "END", "function", "if", "else", "while", "for", "do", "break", "continue",
   "next", "nextfile", "exit", "return",
   "delete", "in", "getline", "print", "printf"]

def marks : List (List Char) :=
  (["&&", "||", "==", "!=", "<=", ">=", "!~", "++", "--", "+=", "-=", "*=", "\x7b", "(", "[", "]", ";", ",",
    "+", "-", "*", "/", "!", ">", "<", "~", "$", "="]).map String.toList

/-- Where a text comes from, and what was read last. -/
structure Lexer where
  previous : Token := .lineEnd
  file : Option Octets := none
  line : Nat := 1
  parens : Nat := 0
  braces : Nat := 0

/-- Skips blanks and comments, and ends of lines where they do not count. -/
def skipBlanks (lines : Bool) : Nat → List Char → Nat → List Char × Nat
  | 0, cs, n => (cs, n)
  | _ + 1, [], n => ([], n)
  | fuel + 1, c :: rest, n =>
    if c = ' ' || c = '\t' || c = '\r' || c = '\x0b' || c = '\x0c' then skipBlanks lines fuel rest n
    else if c = '#' then skipBlanks lines fuel (rest.dropWhile (· != '\n')) n
    else if c = '\\' then
      match rest with
      | '\n' :: rest => skipBlanks lines fuel rest (n + 1)
      | '\r' :: '\n' :: rest => skipBlanks lines fuel rest (n + 1)
      | _ => (c :: rest, n)
    else if c = '\n' && lines then skipBlanks lines fuel rest (n + 1)
    else (c :: rest, n)

/-- Whether a line may end behind it. -/
def Token.continues : Token → Bool
  | lineEnd => true
  | mark w => w = "\x7b" || w = "\x7d" || w = "&&" || w = "||" || w = "," || w = ";"
  | keyword w => w = "do" || w = "else"
  | _ => false

def startsName (c : Char) : Bool := c.isAlpha || c = '_'

/-- The token at the start of a text, the rest, and the lines in it. -/
def oneToken (previous : Token) (cs : List Char) : Token × List Char × Nat :=
  match cs with
  | [] => (.done, [], 0)
  | '\n' :: rest => (.lineEnd, rest, 1)
  | '"' :: rest =>
    match quoted rest [] 0 with
    | (body, some rest, n) => (.text (String.ofList (unescape (body.length + 1) body)), rest, n)
    | (body, none, n) => (.fault ("runaway string constant \"" ++ String.ofList (body.take 10) ++ " ..."), [], n)
  | '/' :: rest =>
    if previous.endsValue then
      match rest with
      | '=' :: more => (.mark "/=", more, 0)
      | _ => (.mark "/", rest, 0)
    else
      match slashed rest .outside [] with
      | (body, some rest) => (.regex (String.ofList body), rest, 0)
      | (body, none) => (.fault ("runaway regular expression /" ++ String.ofList (body.take 10) ++ " ..."), [], 0)
  | c :: rest =>
    let stray : Token := .fault ("unexpected character '" ++ String.singleton c ++ "'")
    if startsName c then
      let word := cs.takeWhile fun x => startsName x || x.isDigit
      let rest := cs.drop word.length
      let w := String.ofList word
      if keywords.contains w then (.keyword w, rest, 0)
      else (.name w (rest.head? = some '('), rest, 0)
    else if c.isDigit || (c = '.' && (rest.head?.any Char.isDigit)) then
      match Numeral.scanDecimal cs with
      | some r => (.number r.value (String.ofList (cs.take (cs.length - r.rest.length))), r.rest, 0)
      | none => (stray, rest, 0)
    else
      match marks.find? fun m => m.isPrefixOf cs with
      | some m => (.mark (String.ofList m), cs.drop m.length, 0)
      | none => (stray, rest, 0)

def Lexer.read : Nat → Lexer → List Char → List Lexeme → List Lexeme × Lexer
  | 0, l, _, out => (out, l)
  | fuel + 1, l, cs, out =>
    let (cs, n) := skipBlanks l.previous.continues (2 * cs.length + 2) cs 0
    let l := { l with line := l.line + n }
    let put (t : Token) : Lexeme := ⟨t, l.file, l.line⟩
    match cs with
    | [] => (out, l)
    | ')' :: rest =>
      if l.parens = 0 then (put (.fault "extra ')'") :: out, l)
      else read fuel { l with previous := .mark ")", parens := l.parens - 1 } rest (put (.mark ")") :: out)
    | '\x7d' :: rest =>
      let isEnded := match l.previous with
        | .lineEnd => true
        | .impliedEnd => true
        | t => t.isMark ";" || t.isMark "\x7d"
      if l.braces = 0 then (put (.fault "extra '\x7d'") :: out, l)
      else if isEnded then
        let rest := if l.braces = 1 then
            let behind := (skipBlanks false (rest.length + 1) rest 0).1
            match behind with
            | ';' :: more => more
            | _ => rest
          else rest
        read fuel { l with previous := .mark "\x7d", braces := l.braces - 1 } rest (put (.mark "\x7d") :: out)
      else read fuel { l with previous := .impliedEnd } cs (put .impliedEnd :: out)
    | _ =>
      let (t, rest, lines) := oneToken l.previous cs
      match t with
      | .fault _ => (put t :: out, l)
      | t =>
        let l' := { l with
          previous := t, line := l.line + lines
          parens := if t.isMark "(" then l.parens + 1 else l.parens
          braces := if t.isMark "\x7b" then l.braces + 1 else l.braces }
        read fuel l' rest (put t :: out)

/-- The tokens of a program. -/
def lexemes (texts : List (Option Octets × Octets)) : List Lexeme :=
  let (out, l) := texts.foldl (fun (out, l) (file, text) =>
    let cs := text.toList ++ ['\n']
    Lexer.read (2 * cs.length + 4) { l with file := file, line := 1 } cs out) (([] : List Lexeme), ({} : Lexer))
  (⟨.done, l.file, l.line⟩ :: out).reverse

end DataplaneVerdict.Host.Tool.Scanning
