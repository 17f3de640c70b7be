import DataplaneVerdict.Files.WorkDir
import DataplaneVerdict.Settings.Basic

/-!
# `CommandLine.Clean` — the command that removes stale work directories

## Contents
- `Clean.execute` removes the work directories older than a number of minutes and reports how many there were.
- `Clean.maxAge` reads the number of minutes from the text of an option.
-/

namespace DataplaneVerdict.Clean

/-- The minutes that a text denotes: a whole number, not negative. -/
def maxAge (text : String) : Except Failure Number :=
  let n := Number.ofText text
  if !n.isInteger || Number.lt n 0 then .error (.invalidMaxAge text) else .ok n

def line (removed : Nat) (workRoot : String) : String :=
  Json.line (.object [("removed", .num (Number.ofNat removed)), ("workRoot", .str workRoot)])

structure Result where
  removed : Nat
  line : String
  files : FileSystem

/-- Removes the work directories that are older than some minutes. -/
def execute (env : Environment) (fs : FileSystem) (minutes now : Number) : Except Failure Result :=
  match Settings.load env with
  | .error f => .error f
  | .ok settings =>
    let workRoot := (Path.resolve fs.cwd settings.workRoot).text
    match WorkDir.cleanup fs workRoot (Number.mul (Number.mul minutes 60) 1000) now with
    | .error f => .error f
    | .ok (removed, fs) => .ok ⟨removed, line removed workRoot, fs⟩

end DataplaneVerdict.Clean
