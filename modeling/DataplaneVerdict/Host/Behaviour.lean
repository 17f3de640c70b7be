import DataplaneVerdict.Host.Disk
import DataplaneVerdict.Host.Signal

/-!
# `Host.Behaviour` — what a process does

A process is seen from outside by what it asks of its host: a call with an answer that it waits for, a second process,
or its end. A `Behaviour` is the tree of all its possible courses. Programs are written in the monad `Act`.
-/

namespace DataplaneVerdict.Host

/-- What a file is opened for, and what opening it may do to it. -/
structure OpenMode where
  read : Bool := false
  write : Bool := false
  append : Bool := false
  create : Bool := false
  truncate : Bool := false
  exclusive : Bool := false
deriving DecidableEq, Inhabited

namespace OpenMode

def forReading : OpenMode := { read := true }
def forWriting : OpenMode := { write := true, create := true, truncate := true }
def forAppending : OpenMode := { write := true, create := true, append := true }

end OpenMode

/-- What comes of waiting for a child. -/
inductive Waited where
  | ended (pid : Nat) (e : Ending)
  | pending
  | interrupted
  | noChild
deriving Inhabited

abbrev Answer (α : Type) := Except FileProblem α

/-- What a process can ask of its host, with the kind of the answer. Moments are in microseconds. -/
inductive Call : Type → Type 1 where
  | work (micros : Nat) : Call Unit
  | clock : Call Nat
  | read (fd count : Nat) : Call (Answer Octets)
  | write (fd : Nat) (data : Octets) : Call (Answer Nat)
  | open (path : Octets) (how : OpenMode) (mode : Nat) : Call (Answer Nat)
  | close (fd : Nat) : Call (Answer Unit)
  | duplicate (fd least : Nat) (inherited : Bool) : Call (Answer Nat)
  | redirect (fd target : Nat) : Call (Answer Unit)
  | pipe : Call (Answer (Nat × Nat))
  | seek (fd : Nat) (place : Nat → Nat → Int) : Call (Answer Nat)
  | descriptor (fd : Nat) : Call (Option Ino)
  | await (pid : Option Nat) (block : Bool) (limit : Option Nat) : Call Waited
  | kill (target : Int) (s : Option Signal) : Call (Answer Unit)
  | sleep (limit : Option Nat) : Call Bool
  | dispose (s : Signal) (d : Disposition) : Call Unit
  | disposition (s : Signal) : Call Disposition
  | caught : Call (List Signal)
  | pid : Call Nat
  | parent : Call Nat
  | group : Call Nat
  | detach : Call (Answer Unit)
  | regroup : Call Unit
  | disk {α : Type} (f : View → Disk → α × Disk) : Call α
  | chdir (i : Ino) : Call Unit
  | umask (mask : Option Nat) : Call Nat
  | renew : Call Unit

/-- What a process does next, for every answer that it can get. -/
inductive Behaviour : Type 1 where
  | exit (code : Nat)
  | call {α : Type} (c : Call α) (next : α → Behaviour)
  | fork (child : Behaviour) (next : Nat → Behaviour)

/-- Programs with a result: what is done once the result is there is the argument. -/
def Act (α : Type) : Type 1 := (α → Behaviour) → Behaviour

namespace Act

instance : Monad Act where
  pure a := fun k => k a
  bind m f := fun k => m fun a => f a k

def ask {α : Type} (c : Call α) : Act α := fun k => .call c k

def fork (child : Behaviour) : Act Nat := fun k => .fork child k

def exit {α : Type} (code : Nat) : Act α := fun _ => .exit code

/-- A program that ends with its result as exit code. -/
def behaviour (m : Act Nat) : Behaviour := m fun code => .exit code

/-! ## Requests -/

/-- Reads the disk. -/
def look {α : Type} (f : Disk → View → α) : Act α := ask (.disk fun v d => (f d v, d))

/-- Changes the disk, unless there is a problem. -/
def change (f : Disk → View → Answer Disk) : Act (Answer Unit) :=
  ask (.disk fun v d =>
    match f d v with
    | .ok d => (.ok (), d)
    | .error e => (.error e, d))

/-- Writes all of it, however little is taken at once. -/
def writeAll (fd : Nat) : Nat → Octets → Act (Answer Unit)
  | 0, _ => pure (.ok ())
  | fuel + 1, data =>
    if data.isEmpty then pure (.ok ())
    else do
      match ← ask (.write fd data) with
      | .error .interrupted => writeAll fd fuel data
      | .error e => pure (.error e)
      | .ok n => if data.length ≤ n then pure (.ok ()) else writeAll fd fuel (String.ofList (data.toList.drop n))

/-- Writes as much as can be written, and tells of no problem. -/
def put (fd : Nat) (data : Octets) : Act Unit := do
  let _ ← writeAll fd (data.length + 1) data

def blockSize : Nat := 65536

/-- More steps than any program takes. -/
def fuel : Nat := 1000000000000

def readBlocks (fd : Nat) : Nat → List Octets → Act (List Octets × Option FileProblem)
  | 0, blocks => pure (blocks, none)
  | fuel + 1, blocks => do
    match ← ask (.read fd blockSize) with
    | .error .interrupted => readBlocks fd fuel blocks
    | .error e => pure (blocks, some e)
    | .ok "" => pure (blocks, none)
    | .ok data => readBlocks fd fuel (data :: blocks)

/-- All that is left to read, and what ended it if that was a problem. -/
def readAll (fd : Nat) : Act (Octets × Option FileProblem) := do
  let (blocks, problem) ← readBlocks fd fuel []
  pure (String.join blocks.reverse, problem)

def close (fd : Nat) : Act Unit := do
  let _ ← ask (.close fd)

/-- Goes to a directory. -/
def chdir (path : Octets) : Act (Answer Unit) := do
  match ← look fun d v => (d.find v .target path).map fun i => (i, d.isDirectory i) with
  | .error e => pure (.error e)
  | .ok (i, true) => do
    ask (.chdir i)
    pure (.ok ())
  | .ok (_, false) => pure (.error .notDirectory)

def stat (path : Octets) (reach : FileSystem.Reach) : Act (Answer Disk.Stat) := look fun d v => d.stat v reach path

end Act

end DataplaneVerdict.Host
