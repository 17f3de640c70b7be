import DataplaneVerdict.Text.Order
import DataplaneVerdict.Text.Search

/-!
# `Text.Quoted` — texts as messages show them

A message shows a text between quotation marks, with control characters spelled out, on several lines if it is long,
and never more than a fixed number of characters of it.

## Contents
- **Marks.** `Quoted.markOf`, the quotation mark that needs no escape, if there is one.
- **Pieces.** `Quoted.literal` writes one text between marks, `Quoted.lines` cuts a long one behind its line ends.
- **Messages.** `Quoted.shown` is what a message shows.
-/

namespace DataplaneVerdict.Quoted

/-- A text is written on several lines if it has more than this many units. -/
def lineLimit : Nat := 124

/-- A message shows at most this many units. -/
def shownLimit : Nat := 128

/-- What lies beyond this many units of a text is not looked at. -/
def textLimit : Nat := 10000

/-- The mark for a text: the single one, unless the text has it and does not have the double one or the grave one; the
grave one would also be misread in front of an opening brace behind a dollar sign. -/
def markOf (s : String) : Char :=
  if !Text.contains s "'" then '\''
  else if !Text.contains s "\"" then '"'
  else if !Text.contains s "`" && !Text.contains s "$\x7b" then Char.ofNat 96
  else '\''

def hexDigit (n : Nat) : Char := if n < 10 then Char.ofNat (48 + n) else Char.ofNat (55 + n)

/-- A character between marks. -/
def character (mark c : Char) : String :=
  let n := c.toNat
  if c = '\\' then "\\\\"
  else if c = '\'' && mark = '\'' then "\\'"
  else if n = 8 then "\\b"
  else if n = 9 then "\\t"
  else if n = 10 then "\\n"
  else if n = 12 then "\\f"
  else if n = 13 then "\\r"
  else if n < 32 || (126 < n && n < 160) then String.ofList ['\\', 'x', hexDigit (n / 16), hexDigit (n % 16)]
  else c.toString

def literal (s : String) : String :=
  let mark := markOf s
  mark.toString ++ Text.join "" (s.toList.map (character mark)) ++ mark.toString

/-- The lines of a text, each with its end. -/
def lines : List Char → List (List Char)
  | [] => []
  | c :: rest =>
    if c = '\n' then [c] :: lines rest
    else
      match lines rest with
      | [] => [[c]]
      | l :: ls => (c :: l) :: ls

/-- The first units of a text. -/
def cut (limit : Nat) (s : String) : String := String.ofList (Text.ofUnits ((Text.units s).take limit))

/-- A whole text between marks; a long one is a sum of its lines. -/
def whole (s : String) : String :=
  if Text.width s ≤ lineLimit then literal s
  else Text.join " +\n  " ((lines s.toList).map fun l => literal (String.ofList l))

/-- What a message shows of a text. -/
def shown (s : String) : String :=
  let text := whole (if Text.width s ≤ textLimit then s else cut textLimit s)
  if Text.width text ≤ shownLimit then text else cut shownLimit text ++ "..."

end DataplaneVerdict.Quoted
