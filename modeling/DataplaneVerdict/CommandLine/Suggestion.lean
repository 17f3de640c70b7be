import DataplaneVerdict.Text.Order
import DataplaneVerdict.Text.Search

/-!
# `CommandLine.Suggestion` — near misses

A misspelt word is answered with the candidates nearest to it, if any is near enough. Distance counts insertions,
deletions, replacements and swaps of neighbours, no part being edited twice.

## Contents
- **Distance.** `Suggestion.distance`.
- **Choice.** `Suggestion.nearest`, and `Suggestion.text`, the hint that a message ends with.
-/

namespace DataplaneVerdict.Suggestion

/-- The farthest distance that is still near. -/
def mostDistance : Nat := 3

/-- The next entry of a row of the distance table. `up` and `upper` are the two rows above, `left` the entry before. -/
def entry (up upper : List Nat) (same swapped : Bool) (i left : Nat) : Nat :=
  let replaced := up.getD (i - 1) 0 + (if same then 0 else 1)
  let n := min (min (up.getD i 0 + 1) (left + 1)) replaced
  if swapped then min n (upper.getD (i - 2) 0 + 1) else n

/-- One row of the table: the distances of a beginning of the second text to all beginnings of the first. -/
def row (a : List Nat) (up upper : List Nat) (j : Nat) (b previous : Option Nat) : List Nat :=
  (List.range a.length).foldl (fun acc k =>
    let i := k + 1
    let here := a[k]?
    let before := if k = 0 then none else a[k - 1]?
    let swapped := 1 < i && 1 < j && here = previous && before = b
    acc ++ [entry up upper (here = b) swapped i (acc.getLast?.getD 0)]) [j]

/-- The distance of two texts of similar length. -/
def table (a b : List Nat) : Nat :=
  let first := List.range (a.length + 1)
  let (last, _) := (List.range b.length).foldl (fun ((up : List Nat), (upper : List Nat)) k =>
    (row a up upper (k + 1) b[k]? (if k = 0 then none else b[k - 1]?), up)) (first, [])
  last.getLast?.getD 0

/-- The distance of two texts; texts of very different length are as far apart as the longer one is long. -/
def distance (a b : List Nat) : Nat :=
  if mostDistance < a.length - b.length || mostDistance < b.length - a.length then max a.length b.length
  else table a b

/-- Whether a distance is small for a length: more than two fifths are kept. -/
def isSimilar (distance length : Nat) : Bool := 2 * length < 5 * (length - distance)

/-- The candidates nearest to a word. -/
def nearest (word : String) (candidates : List String) : List String :=
  let (_, found) := candidates.foldl (fun ((best : Nat), (found : List String)) c =>
    if c.length ≤ 1 then (best, found)
    else
      let d := distance (Text.units word) (Text.units c)
      let length := max (Text.units word).length (Text.units c).length
      if isSimilar d length then
        if d < best then (d, [c]) else if d = best then (best, found ++ [c]) else (best, found)
      else (best, found)) (mostDistance, [])
  Text.sortByUnits found

def hint : List String → String
  | [] => ""
  | [one] => "\n(Did you mean " ++ one ++ "?)"
  | many => "\n(Did you mean one of " ++ Text.join ", " many ++ "?)"

def bare (flag : String) : String := String.ofList (flag.toList.drop 2)

/-- The hint for a word. A word that starts like a long option is compared without its hyphens, and so is every
candidate. -/
def text (word : String) (candidates : List String) : String :=
  if Text.startsWith word "--" then
    hint ((nearest (bare word) (candidates.eraseDups.map bare)).map ("--" ++ ·))
  else hint (nearest word candidates.eraseDups)

end DataplaneVerdict.Suggestion
