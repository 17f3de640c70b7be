import DataplaneVerdict.Host.Machine
import DataplaneVerdict.Host.Mount
import DataplaneVerdict.Host.Programs
import DataplaneVerdict.Process.Supervisor
import DataplaneVerdict.Settings.Basic

/-!
# `Process.Host` — a host in virtual time

This host runs the programs of a file system in virtual time. A process that is still running when its budget is used
up or the run is interrupted is killed with everything it has started.

## Contents
- **Host.** `VirtualHost`, with its own environment and time.
- **Starting.** `VirtualHost.start` finds the program of a command or says why it cannot be started.
- **Running.** `VirtualHost.launch`, and `VirtualHost.host` for the executor.
-/

namespace DataplaneVerdict

/-- The memory of a host. -/
structure VirtualHost where
  /-- the environment that every process inherits -/
  environment : Environment
  /-- the present moment in microseconds -/
  now : Nat := 0
  /-- when the run is interrupted -/
  abortAt : Option Nat := none

namespace VirtualHost

open Host

/-- The environment with variables added; an added one replaces an inherited one in its place. -/
def extend (inherited added : Environment) : Environment :=
  added.foldl (fun env v => Value.setField v.1 v.2 env) inherited

def hasZero (s : String) : Bool := s.toList.contains '\x00'

/-- The first argument with a zero byte. -/
def malformedArgument? (args : List String) : Option Failure :=
  (args.zipIdx.find? fun a => hasZero a.1).map fun (a, i) =>
    .zeroByte ("argument 'args[" ++ Number.natText i ++ "]'") a

/-- The first variable with a zero byte. -/
def malformedVariable? (env : Environment) : Option Failure :=
  (env.find? fun v => hasZero v.1 || hasZero v.2).map fun v =>
    .zeroByte ("property 'options.env['" ++ v.1 ++ "']'") (if hasZero v.1 then v.1 else v.2)

/-- The first part of a command that no process can be given. -/
def malformed? (c : Command) : Option Failure :=
  if hasZero c.command then some (.zeroByte "argument 'file'" c.command)
  else if c.command.isEmpty then some .emptyCommand
  else
    (malformedArgument? c.args).orElse fun _ =>
      (c.cwd.bind fun d => if hasZero d then some (.zeroByteDirectory d) else none).orElse fun _ =>
        malformedVariable? c.env

/-- The longest argument or variable, in bytes. -/
def longestArgument : Nat := 131071

/-- How many bytes all arguments and variables may take. -/
def mostArgumentBytes : Nat := 2097152

/-- Whether arguments and variables are more than a process can be given. -/
def isTooLong (command : String) (args : List String) (env : Environment) : Bool :=
  let sizes := (command :: args).map String.utf8ByteSize ++ env.map fun v => v.1.utf8ByteSize + 1 + v.2.utf8ByteSize
  sizes.any (longestArgument < ·) || mostArgumentBytes < (sizes.map (· + 9)).foldl (· + ·) 0

/-- How a problem with starting a program is told: some are events, the others refuse the launch at once. -/
def cannotStart (command : String) (problem : FileProblem) : Launch :=
  if problem = .missing || problem = .denied then
    .started none [] (.error ("spawn " ++ command ++ " " ++ problem.code) (some problem.code)) []
  else .refused (.spawnRefused problem)

/-- The directory that a command runs in; an empty one counts as none. -/
def workingDirectory (fs : FileSystem) (c : Command) : Except FileProblem Location :=
  match c.cwd.filter fun d => !d.isEmpty with
  | none => .ok fs.cwd
  | some d =>
    match fs.find d with
    | .ok (l, .directory) => .ok l
    | .ok _ => .error .notDirectory
    | .error e => .error e

/-- The program of a command; a bare name is searched for only if a directory could hold it. -/
def program (d : Disk) (v : View) (env : Environment) (command : String) (args : List String) :
    Except FileProblem Image :=
  if !command.toList.contains '/' && FileSystem.longestName < command.utf8ByteSize then .error .nameTooLong
  else
    Image.search d v ((env.lookup "PATH").map Octets.ofText) (Octets.ofText command)
      ((command :: args).map Octets.ofText)

/-- The files on a disk, as they are while processes run. -/
structure Mounted where
  disk : Disk
  cwd : Ino
  image : Image

/-- The disk, the directory and the program of a command. -/
def start (fs : FileSystem) (env : Environment) (c : Command) : Except FileProblem Mounted :=
  match workingDirectory fs c with
  | .error e => .error e
  | .ok cwd =>
    let mounting := Disk.ofFiles fs
    let directory := (mounting.places.get? cwd).getD Disk.root
    match program mounting.disk ⟨directory, 0, 0, fun _ => none⟩ env c.command c.args with
    | .error e => .error e
    | .ok image =>
      if isTooLong c.command c.args env then .error .argumentsTooLong else .ok ⟨mounting.disk, directory, image⟩

/-- The budget of a command in microseconds. -/
def budget (seconds : Number) : Nat :=
  match seconds.toRat? with
  | some r => (r * 1000000).floor.toNat
  | none => 0

def parentPid : Nat := 4000

def firstPid : Nat := 4001

/-- The permissions that new files do not get at first. -/
def usualMask : Nat := 0o022

/-- The machine with a program at its start. It reads from one stream and writes to two. -/
def machine (fs : FileSystem) (env : Environment) (mounted : Mounted) (input : Bytes) (now deadline : Nat) : Machine :=
  let (inlet, disk) := mounted.disk.add .inlet 0o777 0
  let (out, disk) := disk.add (.outlet false) 0o777 0
  let (err, disk) := disk.add (.outlet true) 0o777 0
  let given := env.map fun v => (Octets.ofText v.1, Octets.ofText v.2)
  let behaviour := Act.behaviour (Programs.run Programs.mostChanges mounted.image given)
  let main : Proc :=
    { pid := firstPid, parent := parentPid, group := firstPid, cwd := mounted.cwd
      umask := usualMask, slots := [⟨0, 0, true⟩, ⟨1, 1, true⟩, ⟨2, 2, true⟩], moment := now
      course := .ready behaviour }
  { disk := disk
    procs := [main]
    descriptions :=
      [(0, ⟨inlet, 0, true, true, false⟩), (1, ⟨out, 0, true, true, false⟩), (2, ⟨err, 0, true, true, false⟩)]
    input := ByteArray.mk input.toArray
    main := firstPid
    nextPid := firstPid + 1
    nextDescription := 3
    now := now
    epoch := Disk.microseconds fs.present
    deadline := deadline }

def outputEvents (outputs : List Output) : List ProcessEvent :=
  outputs.map fun o => if o.toStderr then .stderr (Octets.toBytes o.bytes) else .stdout (Octets.toBytes o.bytes)

def finishOf : Option Ending → Finish
  | some (.exited code) => .close (some (Number.ofNat code)) none
  | some (.killed s) => .close none (some ("SIG" ++ s.name))
  | none => .close none none

/-- The timer or the interruption that goes off after the first of them, while something still holds the outputs. -/
def laterKills (timeoutAt : Nat) (abortAt : Option Nat) (deadline overAt : Nat) : List ProcessEvent :=
  let isLater (t : Nat) : Bool := deadline < t && t < overAt
  (if isLater timeoutAt then [.timer] else []) ++ (if (abortAt.map isLater).getD false then [.abort] else [])

/-- How many things all processes may do. -/
def mostSteps : Nat := 1000000000000

/-- Starts a process and follows it to its end. -/
def launch (c : Command) (w : World) (h : VirtualHost) : Launch × World × VirtualHost :=
  match malformed? c with
  | some f => (.refused f, w, h)
  | none =>
    let env := extend h.environment c.env
    match start w.files env c with
    | .error e => (cannotStart c.command e, w, h)
    | .ok mounted =>
      let timeoutAt := h.now + budget c.timeoutSeconds
      let abortAt := h.abortAt.map fun t => max t h.now
      let deadline := match abortAt with
        | some t => min t timeoutAt
        | none => timeoutAt
      let m := (machine w.files env mounted (Utf8.encode (c.stdin.getD "")) h.now deadline).run mostSteps
      let outputs := m.outputs.reverse
      let finish := finishOf m.ending?
      let w := { w with files := m.disk.toFiles w.files }
      let h := { h with now := m.now }
      if m.wasKilled then
        let killed : ProcessEvent := if abortAt = some deadline then .abort else .timer
        let (before, late) := outputs.partition fun o => decide (o.time < deadline)
        (.started (some firstPid) (outputEvents before ++ killed :: outputEvents late ++
          laterKills timeoutAt abortAt deadline m.now)
          finish [], w, h)
      else (.started (some firstPid) (outputEvents outputs) finish [], w, h)

def host : ProcessHost VirtualHost := ⟨launch⟩

/-- Programs at a place, by their names. -/
def programEntries (directory : Location) : List (Location × Entry) :=
  Programs.names.map fun n => (directory ++ [n], .program n)

end VirtualHost

end DataplaneVerdict
