import DataplaneVerdict.Shell.Expansion
import DataplaneVerdict.Shell.Jobs

/-!
# `Shell.Redirect` — redirections

A redirection first opens what it names and then makes its descriptor lead there. Around a command that the shell runs
itself, the old descriptors are kept aside and put back afterwards.
-/

namespace DataplaneVerdict.Shell

open Host

/-- A redirection with its words expanded. -/
inductive Target where
  | file (fd : Nat) (kind : OpenKind) (path : String)
  | duplicate (fd : Nat) (source : Option Nat)
  | document (fd : Nat) (body : Word) (expands : Bool)

namespace Redirect

def descriptor : Target → Nat
  | .file fd _ _ => fd
  | .duplicate fd _ => fd
  | .document fd _ _ => fd

/-- A descriptor to be copied, or one to be closed. -/
def source? (word : String) : Option (Option Nat) :=
  match word.toList with
  | ['-'] => some none
  | [c] => if c.isDigit then some (some (c.toNat - 48)) else none
  | _ => none

def expand (run : Substitute) : Redirection → Sh Target
  | .file fd kind name => do
    let path ← Expansion.text run { tilde := true } name
    pure (.file fd kind path)
  | .duplicate fd _ source => do
    match (Word.plainText? source).bind fun t => source? (String.ofList t) with
    | some s => pure (.duplicate fd s)
    | none =>
      match ← Expansion.fields run source with
      | [] => Sh.error "redir error"
      | word :: _ =>
        match source? word with
        | some s => pure (.duplicate fd s)
        | none => Sh.error "Bad fd number"
  | .document fd id expands => do
    let body := ((← get).documents.find? fun d => d.id = id).map Document.body |>.getD []
    pure (.document fd body expands)

def openProblem (creates : Bool) (path : String) (e : FileProblem) : String :=
  let reason := if e = .missing || e = .notDirectory then
    (if creates then "Directory nonexistent" else "No such file") else e.notice
  "cannot " ++ (if creates then "create " else "open ") ++ path ++ ": " ++ reason

/-- Opens a file; one that is there may be kept from being overwritten. -/
def openPath (kind : OpenKind) (path : String) : Sh Nat := do
  let noClobber := (← get).hasOption "noclobber"
  let openAs (how : OpenMode) : Sh Nat := do
    let rec attempt : Nat → Sh Nat
      | 0 => Sh.error (openProblem how.create path .interrupted)
      | fuel + 1 => do
        match ← Sh.ask (.open path how 0o666) with
        | .ok fd => pure fd
        | .error .interrupted => do
          Jobs.collect
          attempt fuel
        | .error e => Sh.error (openProblem how.create path e)
    attempt 1000
  match kind with
  | .input => openAs .forReading
  | .append => openAs .forAppending
  | .both => openAs { read := true, write := true, create := true }
  | .clobber => openAs .forWriting
  | .output =>
    if !noClobber then openAs .forWriting
    else
      match ← Sh.act (Act.stat path .target) with
      | .error _ => openAs { write := true, create := true, exclusive := true }
      | .ok st =>
        match st.inode.node with
        | .file _ => Sh.error (openProblem true path .alreadyThere)
        | _ => openAs { write := true }

def pipeSize : Nat := 4096

/-- A pipe with a document in it. A long one is written by a process of its own. -/
def openDocument (text : String) : Sh Nat := do
  match ← Sh.ask .pipe with
  | .error _ => Sh.error "Pipe call failed"
  | .ok (input, output) => do
    if text.length ≤ pipeSize then Sh.put output text
    else
      let _ ← Sh.act (Act.fork (Act.behaviour (do
        Act.close input
        for g in [Signal.int, Signal.quit, Signal.hup, Signal.term] do
          Act.ask (.dispose g .ignored)
        Act.ask (.dispose .pipe .standard)
        Act.put output text
        pure 0)))
    Sh.act (Act.close output)
    pure input

/-- The descriptor that a redirection takes. -/
def openTarget (run : Substitute) : Target → Sh (Option (Option Nat))
  | .file _ kind path => do return some (some (← openPath kind path))
  | .duplicate fd source => pure (if source = some fd then none else some source)
  | .document _ body expands => do
    let text ← if expands then Expansion.text run { isQuoted := true } body
      else pure (String.ofList (Word.bareText body))
    return some (some (← openDocument text))

/-- Keeps a descriptor for later. -/
def save (fd : Nat) : Sh Unit := do
  match (← get).saved with
  | [] => pure ()
  | top :: rest =>
    if (top.any fun v => v.fd = fd) then pure ()
    else do
      match ← Sh.ask (.duplicate fd 10 false) with
      | .ok copy => do
        Sh.act (Act.close fd)
        modify fun s => { s with saved := (⟨fd, some copy⟩ :: top) :: rest }
      | .error _ => modify fun s => { s with saved := (⟨fd, none⟩ :: top) :: rest }

/-- Carries out a redirection. -/
def applyOne (run : Substitute) (keeps : Bool) (t : Target) : Sh Unit := do
  let fd := descriptor t
  let isDuplicate := match t with
    | .duplicate _ _ => true
    | _ => false
  match ← openTarget run t with
  | none => pure ()
  | some source => do
    match source with
    | some n => do
      if n = fd then
        if keeps then
          match (← get).saved with
          | [] => pure ()
          | top :: rest =>
            if !(top.any fun v => v.fd = fd) then modify fun s => { s with saved := (⟨fd, none⟩ :: top) :: rest }
      else do
        if keeps then save fd
        match ← Sh.ask (.redirect n fd) with
        | .ok _ => pure ()
        | .error e => Sh.error (toString n ++ ": " ++ e.notice)
        if !isDuplicate then Sh.act (Act.close n)
    | none => do
      if keeps then save fd
      Sh.act (Act.close fd)

def apply (run : Substitute) (keeps : Bool) (targets : List Target) : Sh Unit := do
  for t in targets do
    applyOne run keeps t

def push : Sh Unit := modify fun s => { s with saved := [] :: s.saved }

/-- Undoes redirections, unless they are to stay. -/
def restore (drops : Bool) : Sh Unit := do
  match (← get).saved with
  | [] => pure ()
  | top :: rest => do
    modify fun s => { s with saved := rest }
    for v in top do
      match v.copy with
      | none => if !drops then Sh.act (Act.close v.fd)
      | some copy => do
        if !drops then
          let _ ← Sh.ask (.redirect copy v.fd)
        Sh.act (Act.close copy)

/-- Undoes all but so many layers of redirections. -/
def unwind (n : Nat) : Nat → Sh Unit
  | 0 => pure ()
  | fuel + 1 => do
    if n < (← get).saved.length then do
      restore false
      unwind n fuel

end Redirect

end DataplaneVerdict.Shell
