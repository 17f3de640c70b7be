import DataplaneVerdict.Host.Octets
import DataplaneVerdict.Regex.Automaton

/-!
# `Host.Tool.Editing.Command` — commands of the stream editor

The editor takes a text line by line into its pattern space and carries out commands on it. A command may be for some
lines only, which its addresses say.
-/

namespace DataplaneVerdict.Host.Tool

namespace Editing

/-! ## Addresses -/

/-- An expression, or the one that was used last. -/
inductive Finder where
  | lastUsed
  | regex (m : Automaton)

/-- What selects a line. -/
inductive Address where
  | line (n : Nat)
  | last
  | found (f : Finder)

/-! ## Replacing -/

/-- A piece of a replacement: a text, and a group behind it. -/
structure Part where
  text : List Char
  group : Option Nat := none

/-- A replacement with the groups filled in. -/
def Part.render (groups : Nat → List Char) (parts : List Part) : List Char :=
  parts.flatMap fun p => p.text ++ (p.group.map groups).getD []

/-- A substitution, for the `nth` match or from there on for all. -/
structure Substitution where
  finder : Finder
  parts : List Part
  isGlobal : Bool := false
  nth : Nat := 1
  prints : Bool := false

def slice (text : Array Char) (from_ upto : Nat) : List Char := (text.extract from_ upto).toList

/-- Replaces in the rest of a text, and says whether anything was replaced. -/
def Substitution.replaceFrom (s : Substitution) (m : Automaton) (text : Array Char) :
    Nat → (at_ count : Nat) → (lastEnd : Option Nat) → (hasChanged : Bool) → (out : List (List Char)) →
    Bool × List (List Char)
  | 0, at_, _, _, hasChanged, out => (hasChanged, slice text at_ text.size :: out)
  | fuel + 1, at_, count, lastEnd, hasChanged, out =>
    let isLast := text.size < at_
    match if isLast then none else m.find? text at_ with
    | none => (hasChanged, slice text at_ text.size :: out)
    | some r =>
      let out := slice text at_ r.start :: out
      let isEmpty := r.start = r.stop
      let step (hasChanged : Bool) (count : Nat) (out : List (List Char)) : Bool × List (List Char) :=
        if isEmpty then
          s.replaceFrom m text fuel (r.stop + 1) count none hasChanged (slice text r.stop (r.stop + 1) :: out)
        else s.replaceFrom m text fuel r.stop count (some r.stop) hasChanged out
      if isEmpty && lastEnd = some r.start then step hasChanged count out
      else if count + 1 < s.nth then step hasChanged (count + 1) (slice text r.start r.stop :: out)
      else
        let groups (n : Nat) : List Char :=
          match r.groups[n]? with
          | some (some (a, b)) => slice text a b
          | _ => []
        let out := Part.render groups s.parts :: out
        if s.isGlobal then step true (count + 1) out else (true, slice text r.stop text.size :: out)

def Substitution.replace? (s : Substitution) (m : Automaton) (text : List Char) : Option (List Char) :=
  let array := text.toArray
  if (m.span? array 0).isNone then none
  else
    let (hasChanged, out) := s.replaceFrom m array (2 * array.size + 2) 0 0 none false []
    if hasChanged then some out.reverse.flatten else none

/-! ## Commands -/

/-- What a command does. A block knows the place behind it. -/
inductive Action where
  | block (after : Nat)
  | nothing
  | delete
  | next
  | print
  | quit (code : Nat)
  | substitute (s : Substitution)
  | number

/-- A command with the lines that it is for. -/
structure Command where
  first : Option Address := none
  second : Option Address := none
  isNegated : Bool := false
  action : Action

end Editing

end DataplaneVerdict.Host.Tool
