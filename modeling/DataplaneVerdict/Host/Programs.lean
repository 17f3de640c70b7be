import DataplaneVerdict.Host.Tool.Columns
import DataplaneVerdict.Host.Tool.Copying
import DataplaneVerdict.Host.Tool.Editing.Stream
import DataplaneVerdict.Host.Tool.Gathering
import DataplaneVerdict.Host.Tool.Judging
import DataplaneVerdict.Host.Tool.Saying
import DataplaneVerdict.Host.Tool.Scanning.Running
import DataplaneVerdict.Host.Tool.Searching
import DataplaneVerdict.Host.Tool.Sorting
import DataplaneVerdict.Host.Tool.Translating
import DataplaneVerdict.Shell.Startup

/-!
# `Host.Programs` — the programs of the host
-/

namespace DataplaneVerdict.Host

/-- A tool: how it runs other programs, its words, and what it does. -/
abbrev ToolProgram := Runner → List Octets → Tool Unit

namespace Programs

/-- Tools that pass their input on, with the exit code of a failure of each. -/
def copying : List (String × Nat × ToolProgram) :=
  [("cat", 1, Tool.Copying.cat), ("tee", 1, Tool.Copying.tee), ("head", 1, Tool.Copying.head),
   ("tail", 1, Tool.Copying.tail)]

def filing : List (String × Nat × ToolProgram) :=
  [("mkdir", 1, Tool.Making.mkdir), ("touch", 1, Tool.Making.touch), ("cp", 1, Tool.Moving.cp),
   ("mv", 1, Tool.Moving.mv), ("rm", 1, Tool.Moving.rm)]

def launching : List (String × Nat × ToolProgram) :=
  [("true", 1, fun _ _ => pure ()), ("false", 1, fun _ _ => Tool.exit 1), ("sleep", 1, Tool.Launching.sleep),
   ("env", 125, Tool.Launching.env), ("setsid", 1, Tool.Launching.setsid),
   ("timeout", 125, Tool.Launching.timeout), ("xargs", 1, Tool.Gathering.xargs)]

def saying : List (String × Nat × ToolProgram) :=
  [("echo", 1, Tool.Saying.echo), ("printf", 1, Tool.Saying.printf), ("basename", 1, Tool.Saying.basename),
   ("dirname", 1, Tool.Saying.dirname), ("pwd", 1, Tool.Saying.pwd), ("seq", 1, Tool.Saying.seq),
   ("expr", 2, Tool.Judging.expr)]

def telling : List (String × Nat × ToolProgram) :=
  [("ls", 2, Tool.Listing.ls), ("stat", 1, Tool.Listing.stat), ("readlink", 1, Tool.Listing.readlink)]

def lines : List (String × Nat × ToolProgram) :=
  [("wc", 1, Tool.Columns.wc), ("cut", 1, Tool.Columns.cut), ("tr", 1, Tool.Translating.tr),
   ("sort", 2, Tool.Sorting.sort),
   ("grep", 2, Tool.Searching.grep),
   ("sed", 4, Tool.Editing.sed), ("awk", 2, Tool.Scanning.awk), ("mawk", 2, Tool.Scanning.awk)]

/-- All tools. -/
def tools : List (String × Nat × ToolProgram) :=
  copying ++ filing ++ launching ++ saying ++ telling ++ lines

def shells : List String := ["sh", "dash", "bash"]

/-- The programs that the host has. -/
def names : List String := shells ++ tools.map (·.1)

/-- What the programs do; one within another only so deep. -/
def run : (depth : Nat) → Runner
  | 0, _, _ => pure 126
  | depth + 1, image, environment =>
    if shells.contains image.program then Shell.Startup.main (Exec.ofRunner (run depth)) image.args environment
    else
      match tools.lookup image.program with
      | some (failure, tool) =>
        Tool.run (tool (run depth) (image.args.drop 1)) failure (image.args.head?.getD image.program) environment
      | none => pure 127

def mostChanges : Nat := 1000000000

end Programs

end DataplaneVerdict.Host
