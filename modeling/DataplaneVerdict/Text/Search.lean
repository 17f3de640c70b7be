/-!
# `Text.Search` — occurrences, ends and pieces of texts

## Contents
- **Occurrence.** `Text.occurs` decides whether one list stands consecutively inside another.
- **Ends.** `Text.startsWith`, `Text.endsWith`.
- **Pieces.** `Text.splitOn` cuts at every separator; `Text.join` is its inverse.
-/

namespace DataplaneVerdict.Text

/-- Whether `needle` stands consecutively somewhere in the list. -/
def occurs {α : Type} [BEq α] (needle : List α) : List α → Bool
  | [] => needle.isEmpty
  | c :: rest => needle.isPrefixOf (c :: rest) || occurs needle rest

/-- Whether the text `needle` stands somewhere in `text`. -/
def contains (text needle : String) : Bool := occurs needle.toList text.toList

def startsWith (text start : String) : Bool := start.toList.isPrefixOf text.toList

def endsWith (text tail : String) : Bool := tail.toList.isSuffixOf text.toList

/-- The pieces of a list between its separators; there is always at least one. -/
def pieces {α : Type} [BEq α] (sep : α) : List α → List (List α)
  | [] => [[]]
  | c :: rest =>
    if c == sep then [] :: pieces sep rest
    else
      match pieces sep rest with
      | [] => [[c]]
      | p :: ps => (c :: p) :: ps

/-- The pieces of a text between occurrences of a character. -/
def splitOn (text : String) (sep : Char) : List String :=
  (pieces sep text.toList).map String.ofList

/-- The texts one after the other with `sep` between them. -/
def join (sep : String) : List String → String
  | [] => ""
  | [x] => x
  | x :: y :: rest => x ++ sep ++ join sep (y :: rest)

def repeated (s : String) (n : Nat) : String :=
  String.ofList (List.replicate n s.toList).flatten

end DataplaneVerdict.Text
