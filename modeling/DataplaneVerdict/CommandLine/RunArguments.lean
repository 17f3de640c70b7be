import DataplaneVerdict.Number.Decimal

/-!
# `CommandLine.RunArguments` — the positional arguments of a run

After the source file come an optional rules file and an optional timeout. The argument directly after the source is the
rules file unless it consists of digits only; the last argument after the source is the timeout only if it consists of
digits only. All others are ignored.

## Contents
- `RunArguments`, and `RunArguments.parse?`, which needs a source.
-/

namespace DataplaneVerdict

/-- The arguments of a run, sorted by their meaning. -/
structure RunArguments where
  sourceFile : String
  rulesFile : Option String := none
  timeoutSeconds : Option Number := none
  ignored : List String := []
deriving DecidableEq

namespace RunArguments

/-- Whether an argument consists of digits only, at least one. -/
def isNumeric (s : String) : Bool := !s.isEmpty && s.toList.all Number.isDigit

/-- Places the arguments after the source one by one. -/
def place (first : Bool) (a : RunArguments) : List String → RunArguments
  | [] => a
  | v :: rest =>
    if first && !isNumeric v then place false { a with rulesFile := some v } rest
    else if rest.isEmpty && isNumeric v then place false { a with timeoutSeconds := some (Number.ofText v) } rest
    else place false { a with ignored := a.ignored ++ [v] } rest

/-- The arguments of a run, `none` without a source. -/
def parse? : List String → Option RunArguments
  | [] => none
  | source :: rest => if source.isEmpty then none else some (place true { sourceFile := source } rest)

end RunArguments

end DataplaneVerdict
