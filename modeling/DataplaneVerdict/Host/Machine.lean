import DataplaneVerdict.Host.Behaviour

/-!
# `Host.Machine` — processes in virtual time

The machine runs the behaviours of several processes side by side. Every process has its own moment up to which it has
run, in microseconds; the one that lags behind goes on first. A process that has to wait for a pipe, a child or a moment
is woken when its wait may be over, and asks again. At the deadline the group of the main process is killed.
-/

namespace DataplaneVerdict.Host

/-- An open file, as processes share it. -/
structure Description where
  ino : Ino
  offset : Nat
  readable : Bool
  writable : Bool
  append : Bool
deriving Inhabited

/-- A descriptor of a process. One that is not inherited is closed when another program is begun. -/
structure Slot where
  fd : Nat
  description : Nat
  inherited : Bool
deriving Inhabited

/-- What a process waits for. -/
structure Waiting where
  pipe : Option Ino := none
  child : Bool := false
  limit : Option Nat := none

/-- How a process goes on. -/
inductive Course : Type 1 where
  | ready (b : Behaviour)
  | waiting (w : Waiting) (b : Behaviour)
  | ended (e : Ending)

/-- A process. -/
structure Proc : Type 1 where
  pid : Nat
  parent : Nat
  group : Nat
  cwd : Ino
  umask : Nat
  slots : List Slot
  dispositions : List (Signal × Disposition) := []
  arrived : List Signal := []
  stopped : Bool := false
  moment : Nat
  course : Course

namespace Proc

def disposition (p : Proc) (s : Signal) : Disposition := (p.dispositions.lookup s).getD .standard

def hasEnded (p : Proc) : Bool :=
  match p.course with
  | .ended _ => true
  | _ => false

/-- The moment at which a process can go on by itself. -/
def due (p : Proc) : Option Nat :=
  if p.stopped then none
  else
    match p.course with
    | .ready _ => some p.moment
    | .waiting w _ => w.limit.map fun t => max t p.moment
    | .ended _ => none

def slot? (p : Proc) (fd : Nat) : Option Slot := p.slots.find? fun s => s.fd = fd

/-- The least descriptor from a number on that is free. -/
def freeDescriptor (p : Proc) (least : Nat) : Nat :=
  ((List.range (p.slots.length + 1)).find? fun n => (p.slot? (least + n)).isNone).map (least + ·) |>.getD least

end Proc

/-- What was put out, and when. -/
structure Output where
  time : Nat
  toStderr : Bool
  bytes : Octets

/-- The machine: its disk, its processes, and what they have open. -/
structure Machine : Type 1 where
  disk : Disk
  procs : List Proc
  descriptions : List (Nat × Description)
  buffers : List (Ino × ByteArray) := []
  input : ByteArray
  outputs : List Output := []
  main : Nat
  nextPid : Nat
  nextDescription : Nat
  now : Nat
  epoch : Int
  deadline : Nat
  wasKilled : Bool := false

def mostDescriptors : Nat := 1024

/-- So much can be in a pipe. -/
def pipeCapacity : Nat := 65536

/-- So much is written to a pipe at once or not at all. -/
def pipeAtom : Nat := 4096

/-- How long a process takes to go on after a wait. -/
def wakeTime : Nat := 20

def callTime : Nat := 1

def forkTime : Nat := 60

def birthTime : Nat := 220

/-- How long beginning another program takes. -/
def renewTime : Nat := 500

namespace Machine

def proc? (m : Machine) (pid : Nat) : Option Proc := m.procs.find? fun p => p.pid = pid

def modifyProc (m : Machine) (pid : Nat) (f : Proc → Proc) : Machine :=
  { m with procs := m.procs.map fun p => if p.pid = pid then f p else p }

/-- The present in calendar time. -/
def calendar (m : Machine) : Int := m.epoch + m.now

/-! ## Descriptors -/

def description? (m : Machine) (n : Nat) : Option Description := m.descriptions.lookup n

def opened? (m : Machine) (p : Proc) (fd : Nat) : Option (Nat × Description) :=
  (p.slot? fd).bind fun s => (m.description? s.description).map fun d => (s.description, d)

/-- From where a process looks at the disk. -/
def view (m : Machine) (p : Proc) : View :=
  ⟨p.cwd, p.umask, m.calendar, fun fd => (m.opened? p fd).map fun d => d.2.ino⟩

def modifyDescription (m : Machine) (n : Nat) (f : Description → Description) : Machine :=
  { m with descriptions := m.descriptions.map fun (k, d) => if k = n then (k, f d) else (k, d) }

/-- What is in a pipe. -/
def buffer (m : Machine) (i : Ino) : ByteArray := (m.buffers.lookup i).getD ByteArray.empty

def setBuffer (m : Machine) (i : Ino) (bytes : ByteArray) : Machine :=
  { m with buffers := (i, bytes) :: m.buffers.filter fun b => b.1 ≠ i }

def hasWriter (m : Machine) (i : Ino) : Bool := m.descriptions.any fun d => d.2.ino = i && d.2.writable

def hasReader (m : Machine) (i : Ino) : Bool := m.descriptions.any fun d => d.2.ino = i && d.2.readable

/-- Lets a waiting process ask again. -/
def wake (m : Machine) (p : Proc) : Proc :=
  match p.course with
  | .waiting _ b => { p with course := .ready b, moment := max p.moment (m.now + wakeTime) }
  | _ => p

/-- Wakes all that wait for a pipe. -/
def wakePipe (m : Machine) (i : Ino) : Machine :=
  { m with procs := m.procs.map fun p =>
      match p.course with
      | .waiting w _ => if w.pipe = some i then m.wake p else p
      | _ => p }

/-- Forgets an open file that no process has open any more. -/
def dropUnused (m : Machine) (n : Nat) : Machine :=
  if m.procs.any fun p => p.slots.any fun s => s.description = n then m
  else
    match m.description? n with
    | none => m
    | some d => { m with descriptions := m.descriptions.filter fun e => e.1 ≠ n }.wakePipe d.ino

/-- Closes descriptors of a process. -/
def closeSlots (m : Machine) (pid : Nat) (which : Slot → Bool) : Machine :=
  match m.proc? pid with
  | none => m
  | some p =>
    let closed := p.slots.filter which
    let m := m.modifyProc pid fun p => { p with slots := p.slots.filter fun s => !which s }
    closed.foldl (fun m s => m.dropUnused s.description) m

/-- A new open file with a new descriptor. -/
def addOpened (m : Machine) (p : Proc) (d : Description) : Nat × Nat × Machine :=
  let fd := p.freeDescriptor 0
  let n := m.nextDescription
  let m := { m with descriptions := m.descriptions ++ [(n, d)], nextDescription := n + 1 }
  (fd, n, m.modifyProc p.pid fun p => { p with slots := p.slots ++ [⟨fd, n, true⟩] })

/-! ## Waking and ending -/

/-- Tells a parent that a child has ended. -/
def notify (m : Machine) (parent : Nat) : Machine :=
  m.modifyProc parent fun p =>
    let p := if p.disposition .child = .caught && !p.arrived.contains .child then
      { p with arrived := p.arrived ++ [.child] } else p
    match p.course with
    | .waiting w _ => if w.child || p.arrived.contains .child then m.wake p else p
    | _ => p

/-- The process that takes over children without a parent. -/
def caretaker : Nat := 1

/-- Ends a process. It is kept until its parent has asked for it. -/
def finish (m : Machine) (pid : Nat) (e : Ending) : Machine :=
  let m := m.closeSlots pid fun _ => true
  let m := { m with procs := m.procs.filterMap fun (p : Proc) =>
      if p.parent = pid then (if p.hasEnded then none else some { p with parent := caretaker }) else some p }
  match m.proc? pid with
  | none => m
  | some p =>
    if p.parent = caretaker && pid ≠ m.main then { m with procs := m.procs.filter fun q => q.pid ≠ pid }
    else
      let m := m.modifyProc pid fun p => { p with course := .ended e }
      m.notify p.parent

/-- A signal reaches a process. -/
def deliver (m : Machine) (pid : Nat) (s : Signal) : Machine :=
  match m.proc? pid with
  | none => m
  | some p =>
    if p.hasEnded then m
    else
      let resume (m : Machine) : Machine :=
        if s = .cont then m.modifyProc pid fun p => { p with stopped := false, moment := max p.moment m.now } else m
      match if s.isFinal then .standard else p.disposition s with
      | .ignored => resume m
      | .caught =>
        (resume m).modifyProc pid fun p =>
          let p := if p.arrived.contains s then p else { p with arrived := p.arrived ++ [s] }
          m.wake p
      | .standard =>
        if s.stops then m.modifyProc pid fun p => { p with stopped := true }
        else if s.isHarmless then resume m
        else m.finish pid (.killed s)

/-- The processes that a number stands for: one, a group, or all. -/
def targets (m : Machine) (p : Proc) (target : Int) : List Proc :=
  if 0 < target then m.procs.filter fun q => (q.pid : Int) = target
  else if target = 0 then m.procs.filter fun q => q.group = p.group
  else if target = -1 then m.procs.filter fun q => q.pid ≠ p.pid
  else m.procs.filter fun q => (q.group : Int) = -target

/-! ## Calls -/

/-- An answer, or something to wait for before asking again. -/
inductive Reply (α : Type) : Type 1 where
  | now (answer : α) (m : Machine)
  | later (w : Waiting) (m : Machine)

def zeroText (n : Nat) : Octets := String.ofList (List.replicate n '\x00')

/-- Bytes without a pattern. -/
def scrambled : Nat → Nat → List Char
  | 0, _ => []
  | n + 1, seed =>
    let next := (seed * 1103515245 + 12345) % 2147483648
    Char.ofNat (next / 65536 % 256) :: scrambled n next

/-- Reads from a descriptor. At the end of a file there is nothing, at a pipe with writers there is a wait. -/
def read (m : Machine) (p : Proc) (fd count : Nat) : Reply (Answer Octets) :=
  match m.opened? p fd with
  | none => .now (.error .badDescriptor) m
  | some (n, d) =>
    if !d.readable then .now (.error .badDescriptor) m
    else
      match m.disk.node? d.ino with
      | some (.file bytes) =>
        let data := bytes.extract d.offset (d.offset + count)
        .now (.ok (Octets.ofArray data)) (m.modifyDescription n fun d => { d with offset := d.offset + data.size })
      | some (.directory _ _) => .now (.error .isDirectory) m
      | some (.device .null) => .now (.ok "") m
      | some (.device .random) => .now (.ok (String.ofList (scrambled (min count 33554432) (m.now + 7)))) m
      | some (.device _) => .now (.ok (zeroText (min count 33554432))) m
      | some .pipe =>
        let held := m.buffer d.ino
        if held.isEmpty then
          if !m.hasWriter d.ino then .now (.ok "") m
          else if !p.arrived.isEmpty then .now (.error .interrupted) m
          else .later { pipe := some d.ino } m
        else
          let data := held.extract 0 count
          .now (.ok (Octets.ofArray data)) ((m.setBuffer d.ino (held.extract count held.size)).wakePipe d.ino)
      | some .inlet =>
        let data := m.input.extract 0 count
        .now (.ok (Octets.ofArray data)) { m with input := m.input.extract count m.input.size }
      | some (.program _) =>
        if d.offset = 0 then
          .now (.ok "\x7fELF\x02\x01\x01\x00") (m.modifyDescription n fun d => { d with offset := 8 })
        else .now (.ok "") m
      | _ => .now (.error .inputOutput) m

/-- Writes to a descriptor. A pipe without readers breaks the writer. -/
def write (m : Machine) (p : Proc) (fd : Nat) (data : Octets) : Reply (Answer Nat) :=
  match m.opened? p fd with
  | none => .now (.error .badDescriptor) m
  | some (n, d) =>
    if !d.writable then .now (.error .badDescriptor) m
    else
      let size := data.length
      match m.disk.node? d.ino with
      | some (.file bytes) =>
        let offset := if d.append then bytes.size else d.offset
        let m := m.modifyDescription n fun d => { d with offset := offset + size }
        let now := m.calendar
        .now (.ok size) { m with disk := m.disk.writeAt d.ino offset (Octets.toArray data) now }
      | some (.device .full) => .now (.error .noSpace) m
      | some (.device _) => .now (.ok size) m
      | some .inlet => .now (.ok size) m
      | some (.outlet toStderr) => .now (.ok size) { m with outputs := ⟨m.now, toStderr, data⟩ :: m.outputs }
      | some .pipe =>
        if !m.hasReader d.ino then
          .now (.error .brokenPipe) (m.deliver p.pid .pipe)
        else
          let held := m.buffer d.ino
          let room := pipeCapacity - held.size
          if size ≤ room then .now (.ok size) ((m.setBuffer d.ino (Octets.pushTo held data)).wakePipe d.ino)
          else if room = 0 || size ≤ pipeAtom then .later { pipe := some d.ino } m
          else
            let part := String.ofList (data.toList.take room)
            .now (.ok room) ((m.setBuffer d.ino (Octets.pushTo held part)).wakePipe d.ino)
      | _ => .now (.error .inputOutput) m

/-- Finds or makes the file to be opened. -/
def openNode (d : Disk) (v : View) (path : Octets) (how : OpenMode) (mode : Nat) : Answer (Ino × Disk) :=
  let reach : FileSystem.Reach := if how.create then (if how.exclusive then .entry else .creation) else .target
  match d.resolve v reach path with
  | .error e => .error e
  | .ok (.free dir name) =>
    if !how.create then .error .missing
    else if FileSystem.wantsDirectory path then .error .isDirectory
    else .ok (d.create v dir name (.file ByteArray.empty) (Disk.granted v mode))
  | .ok (.at _ _ i) =>
    if how.create && how.exclusive then .error .alreadyThere
    else
      match d.node? i with
      | some (.directory _ _) => if how.write || how.create then .error .isDirectory else .ok (i, d)
      | some (.file _) =>
        .ok (i, if how.truncate && how.write then d.truncate i v.now else d)
      | some (.program _) => if how.write then .error .busy else .ok (i, d)
      | some .inlet => .error .noDevice
      | some (.outlet _) => .error .noDevice
      | some (.link _) => .error .tooManyLinks
      | none => .error .missing
      | _ => .ok (i, d)

def openFile (m : Machine) (p : Proc) (path : Octets) (how : OpenMode) (mode : Nat) : Reply (Answer Nat) :=
  match openNode m.disk (m.view p) path how mode with
  | .error e => .now (.error e) m
  | .ok (i, disk) =>
    let (fd, _, m) := { m with disk := disk }.addOpened p ⟨i, 0, how.read, how.write, how.append⟩
    .now (.ok fd) m

def duplicate (m : Machine) (p : Proc) (fd least : Nat) (inherited : Bool) : Reply (Answer Nat) :=
  match p.slot? fd with
  | none => .now (.error .badDescriptor) m
  | some s =>
    let free := p.freeDescriptor least
    .now (.ok free) (m.modifyProc p.pid fun p => { p with slots := p.slots ++ [⟨free, s.description, inherited⟩] })

/-- Makes a descriptor stand for what another one stands for. -/
def redirect (m : Machine) (p : Proc) (fd target : Nat) : Reply (Answer Unit) :=
  match p.slot? fd with
  | none => .now (.error .badDescriptor) m
  | some s =>
    if fd = target then .now (.ok ()) m
    else if mostDescriptors ≤ target then .now (.error .badDescriptor) m
    else
      let old := p.slot? target
      let m := m.modifyProc p.pid fun p =>
        { p with slots := (p.slots.filter fun s => s.fd ≠ target) ++ [⟨target, s.description, true⟩] }
      .now (.ok ()) (match old with
        | some o => m.dropUnused o.description
        | none => m)

def makePipe (m : Machine) (p : Proc) : Reply (Answer (Nat × Nat)) :=
  let (i, disk) := m.disk.add .pipe 0o600 m.calendar
  let m := { m with disk := disk }
  let (input, _, m) := m.addOpened p ⟨i, 0, true, false, false⟩
  match m.proc? p.pid with
  | none => .now (.error .badDescriptor) m
  | some p =>
    let (output, _, m) := m.addOpened p ⟨i, 0, false, true, false⟩
    .now (.ok (input, output)) m

def seek (m : Machine) (p : Proc) (fd : Nat) (place : Nat → Nat → Int) : Reply (Answer Nat) :=
  match m.opened? p fd with
  | none => .now (.error .badDescriptor) m
  | some (n, d) =>
    match m.disk.node? d.ino with
    | some .pipe => .now (.error .cannotSeek) m
    | some .inlet => .now (.error .cannotSeek) m
    | some (.outlet _) => .now (.error .cannotSeek) m
    | _ =>
      let target := place d.offset (m.disk.content d.ino).size
      if target < 0 then .now (.error .invalid) m
      else .now (.ok target.toNat) (m.modifyDescription n fun d => { d with offset := target.toNat })

/-- Waits for a child. -/
def await (m : Machine) (p : Proc) (pid : Option Nat) (block : Bool) (limit : Option Nat) : Reply Waited :=
  let children := m.procs.filter fun q => q.parent = p.pid && (pid.isNone || pid = some q.pid)
  match children.findSome? fun q =>
      match q.course with
      | .ended e => some (q.pid, e)
      | _ => none with
  | some (child, e) => .now (.ended child e) { m with procs := m.procs.filter fun q => q.pid ≠ child }
  | none =>
    if children.isEmpty then .now .noChild m
    else if !block then .now .pending m
    else if !p.arrived.isEmpty then .now .interrupted m
    else if (limit.map fun t => decide (t ≤ m.now)).getD false then .now .pending m
    else .later { child := true, limit := limit } m

/-- Sends a signal, or looks whether there is somebody to send one to. -/
def kill (m : Machine) (p : Proc) (target : Int) (s : Option Signal) : Reply (Answer Unit) :=
  match m.targets p target with
  | [] =>
    if target = caretaker || some target = (m.proc? m.main).map (fun q => (q.parent : Int)) then .now (.ok ()) m
    else .now (.error .noProcess) m
  | found =>
    match s with
    | none => .now (.ok ()) m
    | some s => .now (.ok ()) (found.foldl (fun m q => m.deliver q.pid s) m)

/-- The answer to a call. -/
def answer {α : Type} (m : Machine) (p : Proc) : Call α → Reply α
  | .work _ => .now () m
  | .clock => .now m.now m
  | .read fd count => m.read p fd count
  | .write fd data => m.write p fd data
  | .open path how mode => m.openFile p path how mode
  | .close fd =>
    match p.slot? fd with
    | none => .now (.error .badDescriptor) m
    | some _ => .now (.ok ()) (m.closeSlots p.pid fun s => s.fd = fd)
  | .duplicate fd least inherited => m.duplicate p fd least inherited
  | .redirect fd target => m.redirect p fd target
  | .pipe => m.makePipe p
  | .seek fd place => m.seek p fd place
  | .descriptor fd => .now ((m.opened? p fd).map fun d => d.2.ino) m
  | .await pid block limit => m.await p pid block limit
  | .kill target s => m.kill p target s
  | .sleep limit =>
    if (limit.map fun t => decide (t ≤ m.now)).getD false then .now true m
    else if !p.arrived.isEmpty then .now false m
    else .later { limit := limit } m
  | .dispose s d =>
    .now () (m.modifyProc p.pid fun p =>
      { p with dispositions := (s, d) :: p.dispositions.filter fun e => e.1 ≠ s })
  | .disposition s => .now (p.disposition s) m
  | .caught => .now p.arrived (m.modifyProc p.pid fun p => { p with arrived := [] })
  | .pid => .now p.pid m
  | .parent => .now p.parent m
  | .group => .now p.group m
  | .detach =>
    if p.group = p.pid then .now (.error .notPermitted) m
    else .now (.ok ()) (m.modifyProc p.pid fun p => { p with group := p.pid })
  | .regroup => .now () (m.modifyProc p.pid fun p => { p with group := p.pid })
  | .disk f =>
    let v := m.view p
    let (a, disk) := f v m.disk
    .now a { m with disk := disk }
  | .chdir i => .now () (m.modifyProc p.pid fun p => { p with cwd := i })
  | .umask mask => .now p.umask (m.modifyProc p.pid fun p => { p with umask := mask.getD p.umask })
  | .renew =>
    let m := m.closeSlots p.pid fun s => !s.inherited
    .now () (m.modifyProc p.pid fun p =>
      { p with dispositions := p.dispositions.filter fun e => e.2 ≠ .caught, arrived := [] })

/-- How long a call takes. -/
def cost {α : Type} : Call α → Nat
  | .work micros => micros
  | .renew => renewTime
  | _ => callTime

/-! ## Running -/

/-- A second process that goes its own way. -/
def fork (m : Machine) (p : Proc) (child : Behaviour) (next : Nat → Behaviour) : Machine :=
  let pid := m.nextPid
  let born : Proc := { p with
    pid := pid, parent := p.pid, arrived := [], moment := m.now + birthTime, course := .ready child }
  let m := { m with nextPid := pid + 1, procs := m.procs ++ [born] }
  m.modifyProc p.pid fun p => { p with course := .ready (next pid), moment := m.now + forkTime }

/-- One step of a process. -/
def advance (m : Machine) (p : Proc) : Machine :=
  let go (b : Behaviour) : Machine :=
    match b with
    | .exit code => m.finish p.pid (.exited (code % 256))
    | .fork child next => m.fork p child next
    | .call c next =>
      match m.answer p c with
      | .now a m =>
        m.modifyProc p.pid fun p =>
          if p.hasEnded then p else { p with course := .ready (next a), moment := m.now + cost c }
      | .later w m =>
        m.modifyProc p.pid fun p => if p.hasEnded then p else { p with course := .waiting w b }
  match p.course with
  | .ready b => go b
  | .waiting _ b => go b
  | .ended _ => m

/-- The process that lags behind, and when it goes on. -/
def next? (m : Machine) : Option (Nat × Proc) :=
  m.procs.foldl (fun best p =>
    match p.due, best with
    | none, _ => best
    | some t, none => some (t, p)
    | some t, some (u, _) => if t < u then some (t, p) else best) none

def isOutlet (m : Machine) (i : Ino) : Bool :=
  match m.disk.node? i with
  | some (.outlet _) => true
  | _ => false

/-- How the main process has ended. -/
def ending? (m : Machine) : Option Ending :=
  match m.proc? m.main with
  | some p =>
    match p.course with
    | .ended e => some e
    | _ => none
  | none => none

/-- The main process has ended, and nobody has its outputs open. -/
def isClosed (m : Machine) : Bool :=
  m.ending?.isSome && !m.descriptions.any fun d => m.isOutlet d.2.ino

/-- Kills the group of the main process. -/
def killMain (m : Machine) : Machine :=
  let m := { m with now := max m.now m.deadline, wasKilled := true }
  (m.procs.filter fun p => p.group = m.main).foldl (fun m p => m.deliver p.pid .kill) m

/-- How long processes may go on behind the deadline. -/
def patience : Nat := 86400000000

/-- Runs the machine until its outputs are closed. -/
def run : Nat → Machine → Machine
  | 0, m => m
  | fuel + 1, m =>
    if m.isClosed then m
    else
      match m.next? with
      | none => if m.wasKilled then m else run fuel m.killMain
      | some (t, p) =>
        if !m.wasKilled && m.deadline ≤ t then run fuel m.killMain
        else if m.deadline + patience < t then m
        else run fuel ({ m with now := max m.now t }.advance p)

end Machine

end DataplaneVerdict.Host
