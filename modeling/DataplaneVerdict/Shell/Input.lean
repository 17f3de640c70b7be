import DataplaneVerdict.Shell.Builtin

/-!
# `Shell.Input` — reading a line
-/

namespace DataplaneVerdict.Shell

open Host

namespace Input

def addChar (c : Char) : List Piece → List Piece
  | ⟨cells, .separators⟩ :: rest => ⟨.char c false :: cells, .separators⟩ :: rest
  | pieces => ⟨[.char c false], .separators⟩ :: pieces

/-- Reads one line; a backslash takes its meaning from the next character. -/
def line (raw : Bool) : Nat → (afterBackslash : Bool) → List Piece → Sh (List Piece × Bool)
  | 0, _, pieces => pure (pieces, false)
  | fuel + 1, afterBackslash, pieces => do
    match ← Sh.ask (.read 0 1) with
    | .error .interrupted => do
      Jobs.collect
      if (← get).pending.isEmpty then line raw fuel afterBackslash pieces else pure (pieces, false)
    | .error _ => pure (pieces, false)
    | .ok text =>
      match text.toList with
      | [] => pure (pieces, false)
      | c :: _ =>
        if c = '\x00' then line raw fuel afterBackslash pieces
        else if afterBackslash then
          if c = '\n' then line raw fuel false (⟨[], .separators⟩ :: pieces)
          else line raw fuel false (⟨[], .separators⟩ :: ⟨[.char c true], .none⟩ :: pieces)
        else if c = '\\' && !raw then line raw fuel true pieces
        else if c = '\n' then pure (pieces, true)
        else line raw fuel false (addChar c pieces)

/-- Variables without a field become empty. -/
def assignAll : List String → List String → Sh Unit
  | [], _ => pure ()
  | name :: names, [] => do
    Sh.assign name ""
    assignAll names []
  | name :: names, f :: fields => do
    Sh.assign name f
    assignAll names fields

/-- `read`: a line into variables, the last one taking the rest. -/
def read (args : List String) : Sh Nat := do
  let (options, names) ← Builtin.options "p:r" args
  if names.isEmpty then Sh.error "arg count"
  let raw := options.any fun o => o.1 = 'r'
  let (pieces, isComplete) ← line raw Act.fuel false [⟨[], .separators⟩]
  let pieces := (pieces.map fun p => { p with cells := p.cells.reverse }).reverse
  let fields := Field.splitAtMost (Expansion.separators (← get)) names.length pieces
  assignAll names (fields.map fun f => String.ofList (Field.text f))
  pure (if isComplete then 0 else 1)

end Input

end DataplaneVerdict.Shell
