/-!
# `Shell.Pattern` — patterns for texts and file names

A star stands for any text, a question mark for any character, and brackets for any character of a set. A backslash
takes the meaning from the next character. A bracket that is never closed stands for itself.
-/

namespace DataplaneVerdict.Shell

/-- A member of a set in brackets. -/
inductive SetItem where
  | range (low high : Char)
  | named (name : String)
deriving Inhabited

/-- A unit of a pattern. -/
inductive Glyph where
  | char (c : Char)
  | any
  | star
  | set (negated : Bool) (items : List SetItem)
deriving Inhabited

abbrev Pattern := List Glyph

namespace Pattern

def isInClass (name : String) (c : Char) : Bool :=
  let n := c.toNat
  match name with
  | "alpha" => c.isAlpha
  | "digit" => c.isDigit
  | "alnum" => c.isAlphanum
  | "upper" => c.isUpper
  | "lower" => c.isLower
  | "space" => n = 32 || (9 ≤ n && n ≤ 13)
  | "blank" => n = 32 || n = 9
  | "punct" => 33 ≤ n && n ≤ 126 && !c.isAlphanum
  | "print" => 32 ≤ n && n ≤ 126
  | "graph" => 33 ≤ n && n ≤ 126
  | "cntrl" => n < 32 || n = 127
  | "xdigit" => c.isDigit || ('a' ≤ c && c ≤ 'f') || ('A' ≤ c && c ≤ 'F')
  | _ => false

def classNames : List String :=
  ["alpha", "digit", "alnum", "upper", "lower", "space", "blank", "punct", "print", "graph", "cntrl", "xdigit"]

def SetItem.has (c : Char) : SetItem → Bool
  | .range low high => low ≤ c && c ≤ high
  | .named name => isInClass name c

/-- A class by its name, and the rest. -/
def readClass? (cs : List Char) : Option (String × List Char) :=
  match cs with
  | ':' :: rest =>
    let name := String.ofList (rest.takeWhile Char.isAlpha)
    match rest.drop name.length with
    | ':' :: ']' :: rest => if classNames.contains name then some (name, rest) else none
    | _ => none
  | _ => none

/-- The members of a set up to its end, if there is one. -/
def readItems : Nat → List Char → List SetItem → Option (List SetItem × List Char)
  | 0, _, _ => none
  | _ + 1, [], _ => none
  | fuel + 1, c :: cs, items =>
    let next (rest : List Char) (item : SetItem) : Option (List SetItem × List Char) :=
      match rest with
      | ']' :: rest => some ((item :: items).reverse, rest)
      | rest => readItems fuel rest (item :: items)
    let single (c : Char) (cs : List Char) : Option (List SetItem × List Char) :=
      match cs with
      | '-' :: '\\' :: d :: rest => next rest (.range c d)
      | '-' :: d :: rest => if d = ']' then next cs (.range c c) else next rest (.range c d)
      | _ => next cs (.range c c)
    if c = '[' then
      match readClass? cs with
      | some (name, rest) => next rest (.named name)
      | none => single c cs
    else if c = '\\' then
      match cs with
      | d :: rest => single d rest
      | [] => none
    else single c cs

def readOn : Nat → List Char → Pattern
  | 0, _ => []
  | _ + 1, [] => []
  | fuel + 1, c :: cs =>
    if c = '*' then .star :: readOn fuel cs
    else if c = '?' then .any :: readOn fuel cs
    else if c = '\\' then
      match cs with
      | d :: rest => .char d :: readOn fuel rest
      | [] => [.char '\\']
    else if c = '[' then
      let (negated, inner) := match cs with
        | '!' :: rest => (true, rest)
        | _ => (false, cs)
      match readItems (inner.length + 1) inner [] with
      | some (items, rest) => .set negated items :: readOn fuel rest
      | none => .char '[' :: readOn fuel cs
    else .char c :: readOn fuel cs

def read (cs : List Char) : Pattern := readOn (cs.length + 1) cs

def anySuffix (p : List Char → Bool) : List Char → Bool
  | [] => p []
  | c :: cs => p (c :: cs) || anySuffix p cs

/-- Whether a text fits a pattern. -/
def accepts (pattern : Pattern) (text : List Char) : Bool :=
  match pattern with
  | [] => text.isEmpty
  | .char c :: rest =>
    match text with
    | d :: text => c = d && accepts rest text
    | [] => false
  | .any :: rest =>
    match text with
    | _ :: text => accepts rest text
    | [] => false
  | .star :: rest => anySuffix (accepts rest) text
  | .set negated items :: rest =>
    match text with
    | d :: text => (items.any (SetItem.has d)) != negated && accepts rest text
    | [] => false

def closesBracket : List Char → Bool
  | [] => false
  | '\\' :: _ :: cs => closesBracket cs
  | c :: cs => if c = '/' then false else c = ']' || closesBracket cs

/-- Whether anything in a text has a meaning in patterns. -/
def isActive : List Char → Bool
  | [] => false
  | '\\' :: _ :: cs => isActive cs
  | '[' :: cs =>
    (match cs with
      | '!' :: _ :: rest => closesBracket rest
      | _ :: rest => closesBracket rest
      | [] => false) || isActive cs
  | c :: cs => c = '*' || c = '?' || isActive cs

end Pattern

end DataplaneVerdict.Shell
