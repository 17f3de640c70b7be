import DataplaneVerdict.Settings.Basic

/-!
# `Settings.Assignment` — assignments of variables as text

One assignment a line: a name, an equals sign or a colon, and a value that may be quoted. A quoted value may span lines,
and a hash sign starts a comment behind a value. Lines that are no assignment are passed over.

## Contents
- **Assignments.** `Assignment.assignment?` reads one, `Assignment.parse` all of a text.
- **Values.** `Assignment.meaning` takes the marks off and resolves escapes.
-/

namespace DataplaneVerdict.Assignment

def isNameChar (c : Char) : Bool := c.isAlphanum || c = '_' || c = '.' || c = '-'

/-- A text with plain line feeds as its only line ends. -/
def plainLines : List Char → List Char
  | [] => []
  | '\r' :: '\n' :: rest => '\n' :: plainLines rest
  | '\r' :: rest => '\n' :: plainLines rest
  | c :: rest => c :: plainLines rest

/-- The characters that end a line once all line ends are plain: the line feed and the two separators. -/
def isLineEnd (c : Char) : Bool := c = '\n' || c.toNat = 0x2028 || c.toNat = 0x2029

def atLineEnd : List Char → Bool
  | [] => true
  | c :: _ => isLineEnd c

/-- Whether what follows a value ends the assignment: blanks up to a line end, to the end of the text, or to a
comment. -/
def endsAssignment : List Char → Bool
  | [] => true
  | c :: rest => isLineEnd c || c = '#' || (Text.isBlank c && endsAssignment rest)

def isQuote (c : Char) : Bool := c = '\'' || c = '"' || c.toNat = 96

/-- The ways to close a quotation: the part before each closing mark and what follows it. The first unprotected mark
comes first, then the protected ones before it, the last of them first. -/
def closings (q : Char) (before : List Char) (earlier : List (List Char × List Char)) :
    List Char → List (List Char × List Char)
  | [] => earlier
  | '\\' :: c :: rest =>
    if c = q then closings q (c :: '\\' :: before) ((('\\' :: before).reverse, rest) :: earlier) rest
    else closings q ('\\' :: before) earlier (c :: rest)
  | c :: rest => if c = q then (before.reverse, rest) :: earlier else closings q (c :: before) earlier rest
termination_by cs => cs.length

/-- A quoted value with its marks and what follows it. -/
def quotedValue? (cs : List Char) : Option (List Char × List Char) :=
  match cs.dropWhile Text.isBlank with
  | [] => none
  | q :: rest =>
    if isQuote q then
      ((closings q [] [] rest).find? fun c => endsAssignment c.2).map fun c => (q :: c.1 ++ [q], c.2)
    else none

/-- A value up to a comment or a line end. -/
def plainValue? (cs : List Char) : Option (List Char × List Char) :=
  let v := cs.takeWhile fun c => c ≠ '#' && c ≠ '\n'
  if v.isEmpty then none else some (v, cs.drop v.length)

/-- The value that starts here and what follows it. Blanks before it are skipped one by one as far as that helps. -/
def value? (least : Bool) : List Char → Option (List Char × List Char)
  | [] => if least then none else some ([], [])
  | c :: rest =>
    let here : Option (List Char × List Char) :=
      if least then none
      else
        (quotedValue? (c :: rest)).orElse fun _ =>
          (plainValue? (c :: rest)).orElse fun _ =>
            if endsAssignment (c :: rest) then some ([], c :: rest) else none
    here.orElse fun _ => if Text.isBlank c then value? false rest else none

/-- The value behind a name. -/
def behindName (cs : List Char) : Option (List Char × List Char) :=
  match cs.dropWhile Text.isBlank with
  | '=' :: rest => value? false rest
  | _ =>
    match cs with
    | ':' :: rest => value? true rest
    | _ => none

/-- An assignment that starts with a name. -/
def named? (cs : List Char) : Option (String × List Char × List Char) :=
  let name := cs.takeWhile isNameChar
  if name.isEmpty then none
  else (behindName (cs.drop name.length)).map fun (v, rest) => (String.ofList name, v, rest)

/-- What follows the word that marks a variable for export. -/
def afterExport? (cs : List Char) : Option (List Char) :=
  if "export".toList.isPrefixOf cs then
    let rest := cs.drop 6
    match rest with
    | c :: _ => if Text.isBlank c then some (rest.dropWhile Text.isBlank) else none
    | [] => none
  else none

/-- The assignment at the start of a line: its name, its value as written, and what follows it. -/
def assignment? (cs : List Char) : Option (String × List Char × List Char) :=
  let cs := cs.dropWhile Text.isBlank
  (((afterExport? cs).bind named?).orElse fun _ => named? cs)

/-- A text with escapes for line ends resolved. -/
def resolveEscapes : List Char → List Char
  | [] => []
  | '\\' :: 'n' :: rest => '\n' :: resolveEscapes rest
  | '\\' :: 'r' :: rest => '\r' :: resolveEscapes rest
  | c :: rest => c :: resolveEscapes rest

/-- How many characters stand before the last mark `q` that ends a line; `i` stand before the list. -/
def lastClosing? (q : Char) (i : Nat) : List Char → Option Nat
  | [] => none
  | c :: rest => (lastClosing? q (i + 1) rest).orElse fun _ => if c = q && atLineEnd rest then some i else none

/-- A text without the quotation marks that stand around it, or around parts of it that begin and end with a line. -/
def unquoted (atStart : Bool) : List Char → List Char
  | [] => []
  | c :: rest =>
    if atStart && isQuote c then
      match lastClosing? c 0 rest with
      | some n => rest.take n ++ unquoted false (rest.drop (n + 1))
      | none => c :: unquoted false rest
    else c :: unquoted (isLineEnd c) rest
termination_by cs => cs.length
decreasing_by all_goals (simp only [List.length_drop, List.length_cons]; omega)

/-- A value as it counts: without blanks around it and without its quotation marks; between double ones, escapes stand
for line ends. -/
def meaning (written : List Char) : String :=
  let v := Text.trimList written
  match v with
  | [] => ""
  | q :: _ =>
    let inner := unquoted true v
    String.ofList (if q = '"' then resolveEscapes inner else inner)

def nextLine (cs : List Char) : List Char := (cs.dropWhile fun c => !isLineEnd c).drop 1

/-- The assignments of a text, from line to line. -/
def assignments : Nat → List Char → List (String × String)
  | 0, _ => []
  | _ + 1, [] => []
  | fuel + 1, cs =>
    match assignment? cs with
    | some (name, written, rest) => (name, meaning written) :: assignments fuel (nextLine rest)
    | none => assignments fuel (nextLine cs)

/-- A name that no variable of a file can have. -/
def reservedName : String := "__proto__"

/-- The variables of a text; of two with one name the last counts. -/
def parse (text : String) : Environment :=
  let cs := plainLines text.toList
  let given := (assignments (cs.length + 1) cs).filter fun v => v.1 ≠ reservedName
  given.foldl (fun env v => Value.setField v.1 v.2 env) []

end DataplaneVerdict.Assignment
