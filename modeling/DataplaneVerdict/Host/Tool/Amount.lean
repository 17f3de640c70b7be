import DataplaneVerdict.Host.Tool.Arguments

/-!
# `Host.Tool.Amount` — numbers and sizes in arguments
-/

namespace DataplaneVerdict.Host.Tool

namespace Amount

def digits (cs : List Char) : Nat := cs.foldl (fun n c => n * 10 + (c.toNat - 48)) 0

/-- A number that is written with digits only. -/
def natural? (text : Octets) : Option Nat :=
  let cs := text.toList
  if !cs.isEmpty && cs.all Char.isDigit then some (digits cs) else none

/-- What a suffix such as `K` or `MB` stands for. -/
def factor? (suffix : String) : Option Nat :=
  let letters : List (Char × Nat) := [('K', 1), ('M', 2), ('G', 3), ('T', 4), ('P', 5), ('E', 6), ('Z', 7), ('Y', 8)]
  match suffix.toList with
  | [] => some 1
  | ['b'] => some 512
  | [c] => (letters.lookup (if c = 'k' then 'K' else if c = 'm' then 'M' else c)).map fun n => Nat.pow 1024 n
  | [c, 'B'] => (letters.lookup (if c = 'k' then 'K' else if c = 'm' then 'M' else c)).map fun n => Nat.pow 1000 n
  | [c, 'i', 'B'] => (letters.lookup (if c = 'k' then 'K' else if c = 'm' then 'M' else c)).map fun n => Nat.pow 1024 n
  | _ => none

/-- A number with a suffix, or without. -/
def ofText? (text : Octets) : Option Nat :=
  let cs := text.toList.dropWhile fun c => c = ' ' || (9 ≤ c.toNat && c.toNat ≤ 13)
  let cs := match cs with
    | '+' :: rest => rest
    | cs => cs
  let ds := cs.takeWhile Char.isDigit
  if ds.isEmpty then none
  else (factor? (String.ofList (cs.drop ds.length))).map fun f => digits ds * f

end Amount

end DataplaneVerdict.Host.Tool
