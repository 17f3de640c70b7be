import DataplaneVerdict.Shell.Pattern

/-!
# `Shell.Field` — from expanded words to fields

The expansion of a word leaves a text in which some stretches can be split where they have separators. What was quoted
stays together and means only itself in a pattern.
-/

namespace DataplaneVerdict.Shell

/-- A character, an empty stretch that keeps a field, or a place between two fields. -/
inductive Cell where
  | char (c : Char) (quoted : Bool)
  | mark
  | divider
deriving DecidableEq, Inhabited

/-- Where a piece can be split. -/
inductive Splitting where
  | none
  | separators
  | dividers
deriving DecidableEq, Inhabited

/-- A stretch of an expanded word. -/
structure Piece where
  cells : List Cell
  splitting : Splitting := .none
deriving Inhabited

abbrev Field := List Cell

namespace Field

def text (f : Field) : List Char :=
  f.filterMap fun
    | .char c _ => some c
    | _ => none

/-- A field as a pattern; what was quoted means itself. -/
def pattern (f : Field) : List Char :=
  f.flatMap fun
    | .char c quoted => if quoted then ['\\', c] else [c]
    | _ => []

/-- The fields so far. Blanks in a row separate only once. -/
structure Splitter where
  fields : List Field := []
  current : List Cell := []
  afterBlank : Bool := false
  wasDividers : Bool := false

/-- Whether a cell separates, and whether as a blank. -/
def separator (ifs : List Char) (onlyDividers : Bool) : Cell → Bool × Bool
  | .divider => (true, true)
  | .mark => (false, false)
  | .char c _ =>
    let isSeparator := !onlyDividers && ifs.contains c
    (isSeparator, isSeparator && (c = ' ' || c = '\t' || c = '\n'))

def splitCell (ifs : List Char) (onlyDividers afterDividers : Bool) (s : Splitter) (c : Cell) : Splitter :=
  let (isSeparator, isBlank) := separator ifs onlyDividers c
  if s.afterBlank then
    if isBlank then { s with current := [] }
    else if isSeparator then { s with current := [], afterBlank := false }
    else { s with current := [c], afterBlank := false }
  else if isSeparator then
    let endsWithBlank := isBlank && !(onlyDividers || afterDividers)
    if s.current.isEmpty && endsWithBlank then s
    else { s with fields := s.current.reverse :: s.fields, current := [], afterBlank := endsWithBlank }
  else { s with current := c :: s.current }

def splitPiece (ifs : List Char) (s : Splitter) (p : Piece) : Splitter :=
  match p.splitting with
  | .none => { s with current := p.cells.reverse ++ s.current }
  | kind =>
    let onlyDividers := kind = .dividers
    let s' := p.cells.foldl (splitCell ifs onlyDividers s.wasDividers) { s with afterBlank := false }
    { s' with wasDividers := onlyDividers }

/-- The fields of an expanded word. -/
def split (ifs : List Char) (pieces : List Piece) : List Field :=
  let s := pieces.foldl (splitPiece ifs) {}
  let fields := if s.current.isEmpty && !s.wasDividers then s.fields else s.current.reverse :: s.fields
  fields.reverse

/-! ## Splitting into so many fields -/

structure LimitedSplitter where
  fields : List Field := []
  current : List Cell := []
  afterBlank : Bool := false
  left : Nat
  kept : Option (List Cell) := none

/-- The last field takes the rest of the text without the blanks at its end. -/
def lastCell (ifs : List Char) (s : LimitedSplitter) (c : Cell) : LimitedSplitter :=
  let (isSeparator, isBlank) := separator ifs false c
  let longer := { s with current := c :: s.current }
  if isBlank then { longer with kept := s.kept.orElse fun _ => some s.current }
  else if isSeparator && s.afterBlank then { longer with afterBlank := false }
  else { longer with kept := none, afterBlank := false }

def limitedCell (ifs : List Char) (s : LimitedSplitter) (c : Cell) : LimitedSplitter :=
  let (isSeparator, isBlank) := separator ifs false c
  if s.left = 0 then lastCell ifs s c
  else if s.afterBlank then
    if isBlank then { s with current := [] }
    else if isSeparator then { s with current := [], afterBlank := false }
    else { s with current := [c], afterBlank := false }
  else if isSeparator then
    if s.current.isEmpty && isBlank then s
    else if s.left = 1 then
      { s with left := 0, kept := some s.current, current := c :: s.current, afterBlank := isBlank }
    else
      { s with fields := s.current.reverse :: s.fields, current := [], afterBlank := isBlank, left := s.left - 1 }
  else { s with current := c :: s.current }

def limitedPiece (ifs : List Char) (s : LimitedSplitter) (p : Piece) : LimitedSplitter :=
  match p.splitting with
  | .none => { s with current := p.cells.reverse ++ s.current }
  | _ => p.cells.foldl (limitedCell ifs) { s with afterBlank := false }

/-- At most so many fields. -/
def splitAtMost (ifs : List Char) (most : Nat) (pieces : List Piece) : List Field :=
  let s := pieces.foldl (limitedPiece ifs) { left := most }
  let last := s.kept.getD s.current
  (if last.isEmpty then s.fields else last.reverse :: s.fields).reverse

end Field

end DataplaneVerdict.Shell
