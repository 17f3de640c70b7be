import DataplaneVerdict.CommandLine.Program
import DataplaneVerdict.Files.Change
import DataplaneVerdict.Process.Host

/-!
# `Main` — the command line

The outer layer of the program. It takes a snapshot of the current directory, lets the program act on it, prints what
the program has to say, and carries the changes over to the disk. Tools run in the virtual host on that snapshot.

## Contents
- **Snapshot.** `Main.snapshot` reads a directory.
- **Carrying out.** `Main.apply` makes one change on the disk.
- `main` puts them together.
-/

namespace DataplaneVerdict.Main

def pathText (l : Location) : String := l.foldl (fun text name => text ++ "/" ++ name) ""

def directoryEntry (l : Location) : IO.FS.DirEntry := ⟨pathText l.dropLast ++ "/", l.getLast?.getD "."⟩

def milliseconds (t : IO.FS.SystemTime) : Number := Number.ofInt (t.sec * 1000 + (t.nsec.toNat / 1000000 : Nat))

/-- Everything at a location and below it, with the times of last change. What cannot be read is left out. -/
partial def snapshot (l : Location) : IO (List (Location × Entry × Number)) := do
  let place := (directoryEntry l).path
  match ← place.metadata.toBaseIO with
  | .error _ => return []
  | .ok m =>
    if m.type == .dir then
      let inner ← place.readDir.toBaseIO
      let names := match inner with
        | .ok entries => entries.toList.map IO.FS.DirEntry.fileName
        | .error _ => []
      let below ← names.mapM fun n => snapshot (l ++ [n])
      return (l, .directory, milliseconds m.modified) :: below.flatten
    else
      match ← (IO.FS.readBinFile place).toBaseIO with
      | .ok content => return [(l, .file content.toList, milliseconds m.modified)]
      | .error _ => return [(l, .unreadable, milliseconds m.modified)]

/-- The names of the variables that matter to the program and to its tools. -/
def variableNames : List String :=
  ["PATH", "HOME", "PWD", "TMPDIR", "TMP", "TEMP", "P4VERDICT_FRONTEND_TIMEOUT_SECONDS",
   "P4VERDICT_TRANSLATE_TIMEOUT_SECONDS", "P4VERDICT_NATIVE_TIMEOUT_SECONDS", "P4VERDICT_ENGINE_TIMEOUT_SECONDS",
   "P4VERDICT_WORK_ROOT", "P4VERDICT_TRANSLATOR_PATH", "P4VERDICT_TOOLCHAIN_FILE", "DOTENV_CONFIG_ENCODING",
   "DOTENV_CONFIG_PATH", "DOTENV_CONFIG_DEBUG", "DOTENV_CONFIG_OVERRIDE", "DOTENV_CONFIG_DOTENV_KEY", "DOTENV_KEY"]

def environment : IO Environment :=
  variableNames.filterMapM fun n => do
    return (← IO.getEnv n).map fun v => (n, v)

/-- The present moment: the time at which a new file was made. -/
def present : IO Number := do
  let (_, place) ← IO.FS.createTempFile
  let m ← place.metadata
  IO.FS.removeFile place
  return milliseconds m.modified

def idAlphabet : List Char := "ABCDEFGHIJKLMNOPQRSTUVWXYZabcdefghijklmnopqrstuvwxyz0123456789_-".toList

def randomId (length : Nat) : IO String := do
  let places ← (List.replicate length ()).mapM fun _ => IO.rand 0 (idAlphabet.length - 1)
  return String.ofList (places.map fun i => idAlphabet.getD i '_')

/-- What the host has besides the files of the snapshot. -/
def hostEntries : List (Location × Entry) :=
  [([], .directory), (["tmp"], .directory), (["dev"], .directory), (["dev", "null"], .device .null),
   (["dev", "zero"], .device .zero), (["usr"], .directory), (["usr", "bin"], .directory), (["bin"], .link "usr/bin")] ++
    VirtualHost.programEntries ["usr", "bin"]

/-- The directories around a location. -/
def outerEntries (l : Location) : List (Location × Entry) :=
  (List.range l.length).map fun n => (l.take n, .directory)

/-- The file system of the process: the current directory, and the work root if that is elsewhere. -/
def files (cwd : Location) (env : Environment) : IO FileSystem := do
  let workRoot := (Path.resolve cwd ((env.lookup "P4VERDICT_WORK_ROOT").getD (Settings.temporaryDirectory env)))
  let found ← snapshot cwd
  let elsewhere ← if cwd.isPrefixOf workRoot || workRoot.isPrefixOf cwd then pure [] else snapshot workRoot
  let all := found ++ elsewhere
  return {
    entries := hostEntries ++ outerEntries cwd ++ outerEntries workRoot ++ all.map fun e => (e.1, e.2.1)
    stamps := all.map fun e => (e.1, e.2.2)
    modes := all.filterMap fun e => if e.2.1.isFile then some (e.1, 0o755) else none
    present := ← present
    cwd := cwd }

def apply : FileChange → IO Unit
  | .remove l => do
    let place := (directoryEntry l).path
    if ← place.isDir then IO.FS.removeDirAll place else IO.FS.removeFile place
  | .makeDirectory l => IO.FS.createDirAll (directoryEntry l).path
  | .write l content => IO.FS.writeBinFile (directoryEntry l).path (ByteArray.mk content.toArray)

end DataplaneVerdict.Main

open DataplaneVerdict in
/-- Runs the program on its arguments. Its tools are those of the virtual host, and its clock reads the moment of the
start every time, so the time of a report is always zero. -/
def main (args : List String) : IO UInt32 := do
  let env ← Main.environment
  let cwd := FileSystem.pathNames (← IO.currentDir).toString
  let fs ← Main.files cwd env
  let workDirId ← Main.randomId 8
  let program : Program (Signalled VirtualHost) :=
    { environment := env, executor := VirtualHost.host.executor, clock := fun _ => fs.present,
      ids := fun _ => workDirId, runId := ← Main.randomId 10 }
  let (ending, w, _) := program.process args { files := fs } fun env => ⟨false, { environment := env }⟩
  IO.print (Ending.text ending.stdout)
  IO.eprint (Ending.text ending.complaints)
  (fs.changes w.files).forM fun c => Main.apply c
  return UInt32.ofNat ending.exitCode
