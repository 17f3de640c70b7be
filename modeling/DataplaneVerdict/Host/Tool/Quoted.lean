import DataplaneVerdict.Host.Octets

/-!
# `Host.Tool.Quoted` — names in messages

Messages put names in quotes in two ways. One is what a shell would read back: quotes are left out where nothing needs
them, and what cannot be printed is written in `$'...'`. The other always has quotes and writes a backslash before
what is special.
-/

namespace DataplaneVerdict.Host.Tool

namespace Quoted

def letter? (c : Char) : Option Char :=
  match c.toNat with
  | 7 => some 'a'
  | 8 => some 'b'
  | 9 => some 't'
  | 10 => some 'n'
  | 11 => some 'v'
  | 12 => some 'f'
  | 13 => some 'r'
  | _ => none

def isPrintable (c : Char) : Bool := 32 ≤ c.toNat && c.toNat < 127

def octal (c : Char) : List Char :=
  let n := c.toNat
  [Char.ofNat (48 + n / 64 % 8), Char.ofNat (48 + n / 8 % 8), Char.ofNat (48 + n % 8)]

/-- A character that cannot be printed, as a letter or a number. -/
def escaped (c : Char) : List Char :=
  '\\' :: match letter? c with
    | some l => [l]
    | none => octal c

def isSpecial (c : Char) : Bool := " !\"$&()*;<=>[^|?\\'".toList.contains c || c = Char.ofNat 96

/-- Whether a shell would not take a name as it is. -/
def needsQuotes (cs : List Char) : Bool :=
  cs.isEmpty || cs.any (fun c => isSpecial c || !isPrintable c || c = ':') ||
    cs.head? = some '#' || cs.head? = some '~' || cs = ['\x7b'] || cs = ['\x7d']

def isSafeInDouble (c : Char) : Bool := c.isAlphanum || " '%+,-./:]_".toList.contains c

/-- A name between quotes; a quote in it is written outside them. -/
def inside : (inEscape : Bool) → List Char → List Char
  | _, [] => []
  | inEscape, c :: cs =>
    if isPrintable c then
      let front := if inEscape then ['\'', '\''] else []
      front ++ (if c = '\'' then ['\'', '\\', '\'', '\''] else [c]) ++ inside false cs
    else (if inEscape then [] else ['\'', '$', '\'']) ++ escaped c ++ inside true cs

/-- A name in quotes. -/
def always (name : Octets) : Octets :=
  let cs := name.toList
  if cs.contains '\'' && cs.all isSafeInDouble then "\"" ++ name ++ "\""
  else "'" ++ String.ofList (inside false cs) ++ "'"

/-- A name in quotes where it needs them. -/
def forShell (name : Octets) : Octets := if needsQuotes name.toList then always name else name

/-- A text in quotes, with backslashes. -/
def plain (text : Octets) : Octets :=
  let one (c : Char) : List Char :=
    if c = '\'' || c = '\\' then ['\\', c] else if isPrintable c then [c] else escaped c
  "'" ++ String.ofList (text.toList.flatMap one) ++ "'"

end Quoted

end DataplaneVerdict.Host.Tool
