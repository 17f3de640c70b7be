/-!
# `Verdict.RunSort` — sorting by merging runs

The list is cut into runs that are ordered already; short ones are filled up by insertion. Neighbouring runs are merged
while their lengths are out of balance, and a merge leaps ahead once one of its sides keeps winning. For a comparison
that orders the items this is a stable sort; for any other it still is one definite arrangement, which depends on
which comparisons are made.

## Contents
- **Runs.** `RunSort.firstRun` is an ordered start, `RunSort.place` finds a place by halving, `RunSort.takeRun` is a
  run of the least length.
- **Merging.** `RunSort.leap` finds a place by doubled steps, `RunSort.Merge` is a merge under way, `RunSort.join`
  merges two neighbours.
- **Sorting.** `RunSort.balance` keeps the pending runs in balance, `RunSort.sort` is the sort.
-/

namespace DataplaneVerdict.RunSort

variable {α : Type} (lt : α → α → Bool)

/-! ## Runs -/

/-- The items that continue a run whose last item is `last`, and the rest. A descending run goes on while each item
comes before the last one, an ascending run while none does. -/
def runOn (descending : Bool) (last : α) : List α → List α × List α
  | [] => ([], [])
  | x :: rest =>
    if lt x last = descending then
      let (run, rest) := runOn descending x rest
      (x :: run, rest)
    else ([], x :: rest)

/-- The ordered start of a list, in ascending order, and the rest. -/
def firstRun : List α → List α × List α
  | [] => ([], [])
  | [x] => ([x], [])
  | x :: y :: rest =>
    let descending := lt y x
    let (run, rest) := runOn lt descending x (y :: rest)
    (if descending then (x :: run).reverse else x :: run, rest)

/-- The first place from `low` up to `high` that `before` does not hold of, found by halving. -/
def place (before : α → Bool) (items : Array α) (low high : Nat) : Nat :=
  if _h : low < high then
    let middle := low + (high - low) / 2
    match items[middle]? with
    | none => low
    | some y => if before y then place before items (middle + 1) high else place before items low middle
  else low
termination_by high - low
decreasing_by all_goals omega

/-- Inserts an item at its place; an equal item stays before it. -/
def insert (items : List α) (x : α) : List α :=
  let i := place (fun y => !lt x y) items.toArray 0 items.length
  items.take i ++ x :: items.drop i

/-- The least length of a run of a list of this length: its leading six bits, one more if a later bit is set. -/
def leastRun (n : Nat) (odd : Bool) : Nat :=
  if n < 64 then n + odd.toNat else leastRun (n / 2) (odd || n % 2 == 1)
termination_by n
decreasing_by omega

/-- An ordered start, filled up by insertion to the least length, and the rest. -/
def takeRun (least : Nat) (items : List α) : List α × List α :=
  let (run, rest) := firstRun lt items
  let missing := least - run.length
  ((rest.take missing).foldl (insert lt) run, rest.drop missing)

/-! ## Merging -/

/-- Doubles a step while `more` holds of it. -/
def stride (more : Nat → Bool) (bound : Nat) : Nat → Nat → Nat → Nat × Nat
  | 0, last, step => (last, min step bound)
  | fuel + 1, last, step =>
    if step < bound && more step then stride more bound fuel step (2 * step + 1) else (last, min step bound)

/-- The first place that `before` does not hold of, searched from the hint by doubled steps and then by halving. -/
def leap (before : α → Bool) (items : Array α) (hint : Nat) : Nat :=
  let holds (i : Nat) : Bool := (items[i]?.map before).getD false
  if holds hint then
    let (last, step) := stride (fun k => holds (hint + k)) (items.size - hint) items.size 0 1
    place before items (hint + last + 1) (hint + step)
  else
    let (last, step) := stride (fun k => !holds (hint - k)) (hint + 1) items.size 0 1
    place before items (hint + 1 - step) (hint - last)

/-- The direction of a merge: `fromOther` compares the heads of both sides, the counts say how many items of a side go
before the key. -/
structure Direction (α : Type) where
  fromOther : (spare other : α) → Bool
  spareWins : (key : α) → List α → Nat
  otherWins : (key : α) → List α → Nat
  /-- whether a leap looks at the spare side first -/
  spareFirst : Bool

/-- A merge under way: the two sides, what was taken in reverse order, and how many wins in a row make it leap. -/
structure Merge (α : Type) where
  spare : List α
  other : List α
  taken : List α
  patience : Nat

namespace Merge

/-- One side is used up. -/
def rest (m : Merge α) : List α := m.taken.reverse ++ m.spare ++ m.other

/-- The last item of the spare side belongs behind everything. -/
def restWithLast (m : Merge α) : List α := m.taken.reverse ++ m.other ++ m.spare

/-- A step of a merge, or the merged list at its end. -/
abbrev Step (α : Type) := Except (List α × Nat) (Merge α)

/-- Stops when the other side is used up. -/
def unlessOtherEmpty (m : Merge α) : Step α := if m.other.isEmpty then .error (m.rest, m.patience) else .ok m

/-- Stops when the spare side has only one item, or none. -/
def unlessSpareLast (m : Merge α) : Step α :=
  match m.spare with
  | [] => .error (m.rest, m.patience)
  | [_] => .error (m.restWithLast, m.patience)
  | _ => .ok m

def takeSpare (n : Nat) (m : Merge α) : Step α :=
  if n = 0 then .ok m
  else unlessSpareLast { m with spare := m.spare.drop n, taken := (m.spare.take n).reverse ++ m.taken }

def takeOther (n : Nat) (m : Merge α) : Step α :=
  if n = 0 then .ok m
  else unlessOtherEmpty { m with other := m.other.drop n, taken := (m.other.take n).reverse ++ m.taken }

/-- How many items of the spare side go before the head of the other one. -/
def spareLead (d : Direction α) (m : Merge α) : Nat :=
  match m.other with
  | [] => 0
  | key :: _ => d.spareWins key m.spare

/-- How many items of the other side go before the head of the spare one. -/
def otherLead (d : Direction α) (m : Merge α) : Nat :=
  match m.spare with
  | [] => 0
  | key :: _ => d.otherWins key m.other

/-- One leap on each side, and the two counts of wins. -/
def leaps (d : Direction α) (m : Merge α) : Except (List α × Nat) (Merge α × Nat × Nat) := do
  let m := { m with patience := max 1 (m.patience - 1) }
  if d.spareFirst then
    let spareWins := spareLead d m
    let m ← takeSpare spareWins m
    let m ← takeOther 1 m
    let otherWins := otherLead d m
    let m ← takeOther otherWins m
    let m ← takeSpare 1 m
    return (m, spareWins, otherWins)
  else
    let otherWins := otherLead d m
    let m ← takeOther otherWins m
    let m ← takeSpare 1 m
    let spareWins := spareLead d m
    let m ← takeSpare spareWins m
    let m ← takeOther 1 m
    return (m, spareWins, otherWins)

/-- A leap is worth while with so many wins. -/
def worthwhile : Nat := 7

/-- Merges to the end: item by item with the wins of each side so far, and leaping while that pays. -/
def run (d : Direction α) : Nat → (leaping : Bool) → (spareWins otherWins : Nat) → Merge α → List α × Nat
  | 0, _, _, _, m => (m.rest, m.patience)
  | fuel + 1, true, _, _, m =>
    match leaps d m with
    | .error merged => merged
    | .ok (m, spareWins, otherWins) =>
      if worthwhile ≤ spareWins || worthwhile ≤ otherWins then run d fuel true 0 0 m
      else run d fuel false 0 0 { m with patience := m.patience + 1 }
  | fuel + 1, false, spareWins, otherWins, m =>
    match m.spare, m.other with
    | s :: _, o :: _ =>
      let fromOther := d.fromOther s o
      match if fromOther then takeOther 1 m else takeSpare 1 m with
      | .error merged => merged
      | .ok m =>
        let (spareWins, otherWins) := if fromOther then (0, otherWins + 1) else (spareWins + 1, 0)
        if m.patience ≤ max spareWins otherWins then run d fuel true 0 0 { m with patience := m.patience + 1 }
        else run d fuel false spareWins otherWins m
    | _, _ => (m.rest, m.patience)

/-- Starts with the head of the other side, which is known to come first. -/
def start (d : Direction α) (patience : Nat) (spare other : List α) : List α × Nat :=
  let fuel := 2 * (spare.length + other.length) + 2
  match (takeOther 1 ⟨spare, other, [], patience⟩).bind unlessSpareLast with
  | .error merged => merged
  | .ok m => run d fuel false 0 0 m

end Merge

/-- Merging from the front, with the first run aside. -/
def forwards : Direction α where
  fromOther s o := lt o s
  spareWins key items := leap (fun y => !lt key y) items.toArray 0
  otherWins key items := leap (fun y => lt y key) items.toArray 0
  spareFirst := true

/-- Merging from the back, with the second run aside; both sides are reversed. -/
def backwards : Direction α where
  fromOther s o := lt s o
  spareWins key items := items.length - leap (fun y => lt y key) items.reverse.toArray (items.length - 1)
  otherWins key items := items.length - leap (fun y => !lt key y) items.reverse.toArray (items.length - 1)
  spareFirst := false

/-- Merges two neighbouring runs. What stands right at both ends is left alone, and the shorter run is set aside. -/
def join (patience : Nat) (a b : List α) : List α × Nat :=
  match b.head?, a.getLast? with
  | some first, some last =>
    let kept := leap (fun y => !lt first y) a.toArray 0
    let front := a.drop kept
    let back := b.take (leap (fun y => lt y last) b.toArray (b.length - 1))
    if front.isEmpty || back.isEmpty then (a ++ b, patience)
    else
      let (merged, patience) :=
        if front.length ≤ back.length then Merge.start (forwards lt) patience front back
        else
          let (reversed, patience) := Merge.start (backwards lt) patience back.reverse front.reverse
          (reversed.reverse, patience)
      (a.take kept ++ merged ++ b.drop back.length, patience)
  | _, _ => (a ++ b, patience)

/-! ## Sorting -/

/-- The pending runs, the last one first, with the patience of the merges. -/
structure Pending (α : Type) where
  runs : List (List α)
  patience : Nat

/-- Whether the four last runs have lengths that grow fast enough towards the front. -/
def isBalanced : List (List α) → Bool
  | z :: y :: x :: w :: _ => y.length + z.length < x.length && x.length + y.length < w.length
  | [z, y, x] => y.length + z.length < x.length
  | _ => true

/-- Merges the two last runs, or the two before the last one if the run before those is shorter than the last. -/
def joinLast (p : Pending α) : Pending α :=
  match p.runs with
  | z :: y :: x :: rest =>
    if x.length < z.length then
      let (run, patience) := join lt p.patience x y
      ⟨z :: run :: rest, patience⟩
    else
      let (run, patience) := join lt p.patience y z
      ⟨run :: x :: rest, patience⟩
  | [z, y] =>
    let (run, patience) := join lt p.patience y z
    ⟨[run], patience⟩
  | _ => p

def joinTop (p : Pending α) : Pending α :=
  match p.runs with
  | z :: y :: rest =>
    let (run, patience) := join lt p.patience y z
    ⟨run :: rest, patience⟩
  | _ => p

/-- Merges runs until their lengths are in balance. -/
def balance : Nat → Pending α → Pending α
  | 0, p => p
  | fuel + 1, p =>
    match p.runs with
    | z :: y :: _ =>
      if !isBalanced p.runs then balance fuel (joinLast lt p)
      else if y.length ≤ z.length then balance fuel (joinTop lt p)
      else p
    | _ => p

def joinAll : Nat → Pending α → List α
  | 0, p => p.runs.reverse.flatten
  | fuel + 1, p =>
    match p.runs with
    | [] => []
    | [run] => run
    | _ => joinAll fuel (joinLast lt p)

/-- Cuts the list into runs and merges them as they come. -/
def collect (least : Nat) : Nat → List α → Pending α → Pending α
  | 0, _, p => p
  | _ + 1, [], p => p
  | fuel + 1, items, p =>
    let (run, rest) := takeRun lt least items
    collect least fuel rest (balance lt (p.runs.length + 1) { p with runs := run :: p.runs })

/-- Sorts a list by merging its runs. -/
def sort (items : List α) : List α :=
  let p := collect lt (leastRun items.length false) (items.length + 1) items ⟨[], Merge.worthwhile⟩
  joinAll lt p.runs.length p

end DataplaneVerdict.RunSort
