import DataplaneVerdict.Shell.Control

/-!
# `Shell.Evaluation` — what commands do

Commands are evaluated one inside the other. Functions and texts can bring in commands from elsewhere, so the depth is
bounded by a number and not by the size of a command; every function here takes the evaluation of inner commands as an
argument.
-/

namespace DataplaneVerdict.Shell

open Host

/-- `exits`: nothing follows the command; `isTested`: its failure is no failure of the script. -/
structure Flags where
  exits : Bool := false
  isTested : Bool := false
deriving Inhabited

/-- How a command is evaluated. -/
abbrev Eval := Flags → Option Command → Sh Nat

namespace Evaluation

/-! ## Texts -/

/-- A text that is read command by command, and where more of it comes from. -/
structure Source where
  reading : Reading
  more : Option Nat := none
  isShown : Bool := false

def scriptBlock : Nat := 8192

def readBlock (fd : Nat) : Nat → Sh String
  | 0 => pure ""
  | fuel + 1 => do
    match ← Sh.ask (.read fd scriptBlock) with
    | .ok text => pure text
    | .error .interrupted => do
      Jobs.collect
      readBlock fd fuel
    | .error _ => pure ""

/-- The next command. If the text ends within it more is read, and it is read again. -/
def nextCommand : Nat → Source → Sh (Option (Option Command) × Source)
  | 0, src => pure (none, src)
  | fuel + 1, src => do
    let s ← get
    let start : Reading :=
      { src.reading with aliases := s.aliases, nextDocument := s.nextDocument, documents := [], isDry := false }
    let outcome := Read.next.run start
    let isComplete := match outcome with
      | .ok (_, r) => !r.isDry
      | .error _ => false
    match if isComplete then none else src.more with
    | some fd => do
      let text ← readBlock fd 1000
      let cs := text.toList.filter (· != '\x00')
      let reading := { src.reading with text := src.reading.text ++ cs }
      nextCommand fuel { src with reading := reading, more := if text.isEmpty then none else some fd }
    | none =>
      match outcome with
      | .error e => do
        modify fun s => { s with line := e.line }
        Sh.error e.message
      | .ok (c, r) => do
        modify fun s => { s with documents := s.documents ++ r.documents, nextDocument := r.nextDocument }
        if src.isShown && s.hasOption "verbose" then
          Sh.put 2 (String.ofList (start.text.take (start.text.length - r.text.length)))
        pure (c, { src with reading := r })

/-- Reads and evaluates commands to the end. -/
def commands (go : Eval) (flags : Flags) (isFile : Bool) : Nat → Nat → Source → Sh Nat
  | 0, status, _ => pure status
  | fuel + 1, status, src => do
    match ← nextCommand Act.fuel src with
    | (none, _) => pure status
    | (some c, src) => do
      let n ← go { flags with exits := flags.exits && Read.isAtEnd src.reading } c
      let status := if c.isSome then n else status
      let s ← get
      if s.skip.isSome then do
        if isFile && s.skip = some .returns then set { s with skip := none, returnsStatus := false }
        pure status
      else commands go flags isFile fuel status src

/-- Evaluates a text. -/
def text (go : Eval) (flags : Flags) (t : String) : Sh Nat :=
  commands go flags false Act.fuel 0 { reading := { text := t.toList.filter (· != '\x00') } }

def openScript (path : String) : Sh Nat := do
  match ← Sh.ask (.open path .forReading 0) with
  | .error e => Sh.error (Redirect.openProblem false path e)
  | .ok fd => do
    match ← Sh.ask (.duplicate fd 10 false) with
    | .error _ => pure fd
    | .ok copy => do
      Sh.act (Act.close fd)
      pure copy

/-- Evaluates a file. -/
def file (go : Eval) (path : String) : Sh Nat := do
  let fd ← openScript path
  modify fun s => { s with command := some path }
  Sh.finally_ (commands go {} true Act.fuel 0 ⟨{ text := [] }, some fd, true⟩) (Sh.act (Act.close fd))

/-! ## Traps and ends -/

/-- Runs what was set for signals. -/
def runActions (go : Eval) (status : Nat) : List Nat → Sh Unit
  | [] => pure ()
  | n :: rest => do
    let s ← get
    if s.skip.isSome then set { s with pending := n :: rest }
    else do
      match s.traps.lookup n with
      | none => pure ()
      | some action => do
        let _ ← text go {} action
        modify fun s => if s.returnsStatus then s else { s with status := status }
      runActions go status rest

/-- Runs what was set for the signals that have come. -/
def runTraps (go : Eval) : Sh Unit := do
  if (← get).traps.isEmpty then pure ()
  else do
    Jobs.collect
    let s ← get
    if s.pending.isEmpty then pure ()
    else do
      let before := s.savedStatus
      let status := before.getD s.status
      set { s with savedStatus := some status, pending := [] }
      runActions go status (s.pending.mergeSort fun a b => decide (a ≤ b))
      modify fun s => { s with savedStatus := before }

/-- Puts the shell in order after a jump. -/
def reset (jump : Option Jump) : Sh Unit := do
  let s ← get
  let status := match jump, s.savedStatus with
    | some .exit, some n => n
    | _, _ => s.status
  set { s with status := status, savedStatus := none, skip := none, returnsStatus := false, loops := 0 }
  Redirect.unwind 0 s.saved.length

/-- Runs what was set for the end. -/
def runLastAction (go : Eval) : Sh Unit := do
  let s ← get
  match s.traps.lookup 0 with
  | none => pure ()
  | some action => do
    let status := s.status
    set { s with traps := s.traps.filter fun t => t.1 ≠ 0, skip := none, savedStatus := some status }
    Sh.tryCatch (do
      let _ ← text go {} action
      modify fun s => { s with status := s.savedStatus.getD s.status, savedStatus := none }) fun j => reset (some j)

/-- A shell from its start to its exit code. -/
def finish (go : Eval) (m : Sh Unit) (s : State) : Act Nat := do
  let whole : Sh Unit := do
    Sh.tryCatch m fun j => reset (some j)
    runLastAction go
    Sh.flush
  let (_, s) ← whole s
  pure (s.status % 256)

/-! ## Substitutions -/

def readAll (fd : Nat) : Nat → List String → Sh String
  | 0, blocks => pure (String.join blocks.reverse)
  | fuel + 1, blocks => do
    match ← Sh.ask (.read fd Act.blockSize) with
    | .ok "" => pure (String.join blocks.reverse)
    | .ok text => readAll fd fuel (text :: blocks)
    | .error .interrupted => do
      Jobs.collect
      readAll fd fuel blocks
    | .error _ => pure (String.join blocks.reverse)

def move (fd target : Nat) : Sh Unit := do
  if fd ≠ target then do
    let _ ← Sh.ask (.redirect fd target)
    Sh.act (Act.close fd)

/-- The output of a command in a process of its own. -/
def substitute (go : Eval) : Substitute
  | none => pure ""
  | some c => do
    match ← Sh.ask .pipe with
    | .error _ => Sh.error "Pipe call failed"
    | .ok (input, output) => do
      let job ← Jobs.newJob
      let _ ← Jobs.start (finish go) (some job) .apart (do
        Sh.act (Act.close input)
        move output 1
        let _ ← go { exits := true } (some c))
      Sh.act (Act.close output)
      let text ← readAll input Act.fuel []
      Sh.act (Act.close input)
      let status ← Jobs.waitFor job
      modify fun s => { s with outputStatus := status }
      pure text

def services (exec : Exec) (go : Eval) : Services where
  exec := exec
  substitute := substitute go
  evaluate t isTested := text go { isTested := isTested } t
  evaluateFile := file go

/-! ## Simple commands -/

/-- The fields of the first word that has any. -/
def firstFields (run : Substitute) : List Word → Sh (List String × List Word)
  | [] => pure ([], [])
  | w :: ws => do
    match ← Expansion.fields run w with
    | [] => firstFields run ws
    | fields => pure (fields, ws)

/-- The start of a simple command, from which it is seen what kind it is. -/
structure Head where
  fields : List String
  skipped : List String := []
  words : List Word
  functions : Bool := true
  path : Option String := none
  isBuiltin : Bool := false
  isSpecial : Option Bool := none

/-- What follows `command` and its options. -/
def skipCommandOptions (run : Substitute) : Nat → Head → (taken : List String) → Sh (Except Head Head)
  | 0, h, taken => pure (.error { h with fields := taken ++ h.fields })
  | fuel + 1, h, taken => do
    let (fields, words) ← match h.fields with
      | [] => firstFields run h.words
      | fields => pure (fields, h.words)
    let h := { h with fields := fields, words := words }
    let leftOver : Head := { h with fields := taken ++ fields }
    match fields with
    | [] => pure (.error leftOver)
    | f :: rest =>
      match f.toList with
      | ['-', '-'] => do
        let (fields, words) ← if rest.isEmpty then firstFields run words else pure (rest, words)
        if fields.isEmpty then pure (.error leftOver)
        else
          pure (.ok { h with
            fields := fields, words := words, skipped := h.skipped ++ taken ++ [f], functions := false })
      | '-' :: c :: cs =>
        if (c :: cs).all (· == 'p') then
          skipCommandOptions run fuel { h with fields := rest, path := some Lookup.standardPath } (taken ++ [f])
        else pure (.error leftOver)
      | _ => pure (.ok { h with skipped := h.skipped ++ taken, functions := false })

/-- Looks whether a builtin command is meant, also behind `command`. -/
def classify (run : Substitute) : Nat → Head → Sh Head
  | 0, h => pure h
  | fuel + 1, h => do
    match h.fields with
    | [] => pure h
    | name :: rest =>
      let isFunction := h.functions && ((← get).functions.lookup name).isSome
      if isFunction || !Builtin.isBuiltin name then pure { h with isBuiltin := false }
      else do
        let h := { h with
          isBuiltin := true
          isSpecial := some (h.isSpecial.getD (Builtin.special.contains name)) }
        if name ≠ "command" then pure h
        else
          match ← skipCommandOptions run (rest.length + h.words.length + 2) { h with fields := rest } [name] with
          | .error h => pure h
          | .ok h => classify run fuel h

/-- The fields of the other words. -/
def otherFields (run : Substitute) (assigns : Bool) : List Word → Sh (List String)
  | [] => pure []
  | w :: ws => do
    let fields ← if assigns && (Word.assignment? w).isSome then do
        let t ← Expansion.text run { isAssignment := true } w
        pure [t]
      else Expansion.fields run w
    let rest ← otherFields run assigns ws
    pure (fields ++ rest)

def tracePrompt (run : Substitute) : Sh String := do
  let s ← get
  match Read.quotedText.run { text := (s.value "PS4").toList } with
  | .error _ => pure (s.value "PS4")
  | .ok (w, _) => do
    set { s with options := s.options.filter (· ≠ "xtrace") }
    let t ← Expansion.text run { isQuoted := true } w
    modify fun s => { s with options := "xtrace" :: s.options }
    pure t

/-- Shows a command before it is run. -/
def trace (run : Substitute) (words : List String) : Sh Unit := do
  let s ← get
  if s.hasOption "xtrace" then do
    let line := (← tracePrompt run) ++ " ".intercalate words ++ "\n"
    let fd := match s.saved with
      | top :: _ => ((top.find? fun v => v.fd = 2).bind Saved.copy).getD 2
      | [] => 2
    Sh.put fd line

/-- Runs a builtin command. An error in a special one ends the shell. -/
def runBuiltin (sv : Services) (flags : Flags) (isSpecial : Bool) (name : String) (args : List String) : Sh Nat := do
  let outer := (← get).command
  modify fun s => { s with command := some name }
  let leave : Sh Unit := modify fun s => { s with command := outer, out := [], outSize := 0, outFailed := false }
  Sh.tryCatch (do
      let status ← Builtin.run sv flags.isTested name args
      Sh.flush
      let failed := (← get).outFailed
      if failed then Sh.warn (name ++ ": I/O error")
      let status := if failed then status ||| 1 else status
      modify fun s => { s with status := status }
      leave
      pure status) fun j => do
    leave
    if j = .error && !isSpecial then pure (← get).status else throw j

/-- Runs a function with arguments of its own. -/
def runFunction (go : Eval) (flags : Flags) (f : Function) (args : List String) : Sh Nat := do
  let s ← get
  let leave : Sh Unit := modify fun t => { t with
    loops := s.loops, arguments := s.arguments, optionIndex := s.optionIndex, optionOffset := s.optionOffset
    functionDepth := s.functionDepth
    skip := if t.skip = some .returns then none else t.skip
    returnsStatus := false }
  set { s with
    loops := 0, arguments := args, optionIndex := 1, optionOffset := none
    functionDepth := s.functionDepth + 1 }
  Sh.finally_ (do
    let _ ← go { isTested := flags.isTested } (some f.body)) leave
  pure (← get).status

def hasTraps (s : State) : Bool := s.traps.any fun t => !t.2.isEmpty

/-- Runs a program, in this process if nothing follows. -/
def runProgram (exec : Exec) (go : Eval) (flags : Flags) (search : Option String) (found : String)
    (args : List String) :
    Sh Nat := do
  let s ← get
  let paths := (Lookup.candidates (search.getD (s.value "PATH")) (args.head?.getD "")).dropWhile (· ≠ found)
  if flags.exits && !hasTraps s then Control.become exec paths args
  else do
    let job ← Jobs.newJob
    let _ ← Jobs.start (finish go) (some job) .foreground (Control.become exec paths args)
    Jobs.waitFor job

/-- An assignment in front of a command. -/
def assign (run : Substitute) (isTemporary exports : Bool) (w : Word) : Sh String := do
  let t ← Expansion.text run { isAssignment := true } w
  if isTemporary then Variables.makeLocal true t
  else do
    let (name, value) := Variables.split t
    Sh.assign name (value.getD "")
    if exports then modify fun s => s.modifyVariable name fun v => { v with isExported := true }
  pure t

def redirect (run : Substitute) (targets : List Target) : Sh Nat :=
  Sh.tryCatch (do
    Redirect.apply run true targets
    pure 0) fun j => if j = .error then pure 2 else throw j

/-- How long the shell takes for a command. -/
def commandTime : Nat := 3

/-- Runs what a name stands for. -/
def runNamed (exec : Exec) (go : Eval) (flags : Flags) (h : Head) (args : List String) : Sh Nat := do
  let isSpecial := h.isSpecial.getD false
  match args with
  | [] => do
    let status := (← get).outputStatus
    pure status
  | name :: rest => do
    let meaning ← if h.isBuiltin then pure Meaning.builtin else Lookup.find h.functions h.path name
    match meaning with
    | .builtin => runBuiltin (services exec go) flags isSpecial name rest
    | .function f => runFunction go flags f rest
    | .program path => runProgram exec go flags h.path path args
    | .unknown e => do
      Sh.warn (name ++ ": " ++ Lookup.problemText e)
      modify fun s => { s with status := 127 }
      if isSpecial then throw .error
      pure 127

/-- Evaluates a simple command. -/
def simple (exec : Exec) (go : Eval) (flags : Flags) (line : Nat) (assigns words : List Word)
    (redirs : List Redirection) : Sh Nat := do
  Sh.ask (.work commandTime)
  modify fun s => { s with line := line, outputStatus := 0 }
  let run := substitute go
  let (fields, rest) ← firstFields run words
  let h ← classify run (words.length + fields.length + 1) { fields := fields, words := rest }
  let name := h.fields.head?.getD ""
  let others ← otherFields run (h.isBuiltin && Builtin.assigning.contains name) h.words
  let args := h.fields ++ others
  let isExec := h.isBuiltin && name = "exec"
  let isTemporary := !args.isEmpty && !(h.isSpecial.getD false)
  let depth := (← get).locals.length
  if isTemporary then modify fun s => { s with locals := [] :: s.locals }
  let savedDepth := (← get).saved.length
  let targets ← redirs.mapM (Redirect.expand run)
  if !redirs.isEmpty then Redirect.push
  let leave : Sh Unit := do
    if !redirs.isEmpty then Redirect.restore isExec
    Redirect.unwind savedDepth (← get).saved.length
    Variables.endScope depth (← get).locals.length
  let failed ← redirect run targets
  if failed ≠ 0 then do
    modify fun s => { s with status := failed }
    if h.isSpecial.getD false then throw .error
    leave
    pure failed
  else do
    let texts ← assigns.mapM (assign run isTemporary (isExec && 1 < args.length))
    trace run (texts ++ h.skipped ++ args)
    let status ← runNamed exec go flags h args
    leave
    pure status

/-! ## Other commands -/

/-- Whether a loop is to be left, after `break` or `continue`. -/
def loopEnds : Sh Bool := do
  let s ← get
  match s.skip with
  | none => pure false
  | some .returns => pure true
  | some kind =>
    if s.skipCount ≤ 1 then do
      set { s with skip := none, skipCount := 0 }
      pure (kind = .breaks)
    else do
      set { s with skipCount := s.skipCount - 1 }
      pure true

/-- Evaluates a loop with a test. -/
def loop (go : Eval) (flags : Flags) (isUntil : Bool) (test body : Command) : Nat → Nat → Sh Nat
  | 0, status => pure status
  | fuel + 1, status => do
    let n ← go { isTested := true } (some test)
    let skips := (← get).skip
    let returnsStatus := (← get).returnsStatus
    if skips.isSome then do
      if ← loopEnds then pure (if returnsStatus then n else status)
      else loop go flags isUntil test body fuel status
    else if (n ≠ 0) != isUntil then pure status
    else do
      let status ← go { isTested := flags.isTested } (some body)
      if ← loopEnds then pure status else loop go flags isUntil test body fuel status

/-- Evaluates a loop over words. -/
def each (go : Eval) (flags : Flags) (name : String) (body : Command) : List String → Nat → Sh Nat
  | [], status => pure status
  | f :: rest, _ => do
    Sh.assign name f
    let status ← go { isTested := flags.isTested } (some body)
    if ← loopEnds then pure status else each go flags name body rest status

def inLoop (m : Sh Nat) : Sh Nat := do
  modify fun s => { s with loops := s.loops + 1 }
  let status ← m
  modify fun s => { s with loops := s.loops - 1 }
  pure status

def anyAccepts (run : Substitute) (t : List Char) : List Word → Sh Bool
  | [] => pure false
  | w :: ws => do
    let p ← Expansion.pattern run w
    if p.accepts t then pure true else anyAccepts run t ws

/-- Evaluates the first case that accepts a text. -/
def choose (go : Eval) (flags : Flags) (t : List Char) : List (List Word × Option Command) → Sh Nat
  | [] => pure 0
  | (patterns, body) :: rest => do
    if ← anyAccepts (substitute go) t patterns then
      match body with
      | some c => go flags (some c)
      | none => pure 0
    else choose go flags t rest

/-- Evaluates a command in a process of its own. -/
def subshell (go : Eval) (flags : Flags) (background : Bool) (line : Nat) (c : Command) (redirs : List Redirection) :
    Sh Nat := do
  modify fun s => { s with line := if line = 0 then s.line else line }
  let run := substitute go
  let targets ← redirs.mapM (Redirect.expand run)
  let inside (isTested : Bool) : Sh Unit := do
    Redirect.apply run false targets
    let _ ← go { exits := true, isTested := isTested } (some c)
  if !background && flags.exits && !hasTraps (← get) then do
    inside flags.isTested
    throw .finish
  else do
    let job ← Jobs.newJob
    let mode : StartMode := if background then .background else .foreground
    let _ ← Jobs.start (finish go) (some job) mode (inside (flags.isTested && !background))
    if background then pure 0 else Jobs.waitFor job

def plainName : Command → Option String
  | .simple _ _ (w :: _) _ => (Word.plainText? w).map String.ofList
  | _ => none

/-- Starts the parts of a pipeline, each one reading from the one before. -/
def stages (go : Eval) (flags : Flags) (background : Bool) (job : Nat) : List Command → Option Nat → Sh Unit
  | [], _ => pure ()
  | c :: rest, input => do
    match plainName c with
    | some name => do
      if isName name && !Builtin.isBuiltin name && ((← get).functions.lookup name).isNone then
        let _ ← Lookup.findProgram none name
    | none => pure ()
    let pipe ← if rest.isEmpty then pure none else do
      match ← Sh.ask .pipe with
      | .ok p => pure (some p)
      | .error _ => Sh.error "Pipe call failed"
    let mode : StartMode := if background then .background else .foreground
    let _ ← Jobs.start (finish go) (some job) mode (do
      match pipe with
      | some (next, _) => Sh.act (Act.close next)
      | none => pure ()
      match input with
      | some fd => move fd 0
      | none => pure ()
      match pipe with
      | some (_, output) => move output 1
      | none => pure ()
      let _ ← go { flags with exits := true } (some c))
    match input with
    | some fd => Sh.act (Act.close fd)
    | none => pure ()
    match pipe with
    | some (next, output) => do
      Sh.act (Act.close output)
      stages go flags background job rest (some next)
    | none => pure ()

/-- Evaluates a pipeline; its status is that of the last part. -/
def pipeline (go : Eval) (flags : Flags) (cs : List Command) (background : Bool) : Sh Nat := do
  let job ← Jobs.newJob
  stages go flags background job cs none
  if background then pure 0 else Jobs.waitFor job

def redirected (go : Eval) (flags : Flags) (line : Nat) (c : Command) (redirs : List Redirection) : Sh Nat := do
  modify fun s => { s with line := line }
  let run := substitute go
  let targets ← redirs.mapM (Redirect.expand run)
  Redirect.push
  let failed ← redirect run targets
  let status ← if failed ≠ 0 then pure failed else go { isTested := flags.isTested } (some c)
  Redirect.restore false
  pure status

/-- Whether a failing command ends a script that is to end then. -/
def isChecked : Command → Bool
  | .simple .. => true
  | .pipeline .. => true
  | .background .. => true
  | .subshell .. => true
  | _ => false

/-- Evaluates a command. -/
def command (exec : Exec) (go : Eval) (flags : Flags) : Command → Sh Nat
  | .simple line assigns words redirs => simple exec go flags line assigns words redirs
  | .pipeline cs background => pipeline go flags cs background
  | .redirected line c redirs => redirected go flags line c redirs
  | .background line c redirs => subshell go flags true line c redirs
  | .subshell line c redirs => subshell go flags false line c redirs
  | .both a b => do
    let n ← go { isTested := true } (some a)
    if n ≠ 0 || (← get).skip.isSome then pure n else go flags (some b)
  | .either a b => do
    let n ← go { isTested := true } (some a)
    if n = 0 || (← get).skip.isSome then pure n else go flags (some b)
  | .sequence a b => do
    let n ← go { isTested := flags.isTested } (some a)
    if (← get).skip.isSome then pure n else go flags (some b)
  | .branch test yes no => do
    let n ← go { isTested := true } (some test)
    if (← get).skip.isSome then pure n
    else if n = 0 then go flags (some yes)
    else
      match no with
      | some c => go flags (some c)
      | none => pure 0
  | .loop isUntil test body => inLoop (loop go flags isUntil test body Act.fuel 0)
  | .each line name words body => do
    modify fun s => { s with line := line }
    let fields ← words.mapM (Expansion.fields (substitute go))
    inLoop (each go flags name body fields.flatten 0)
  | .choose line word cases => do
    modify fun s => { s with line := line }
    let t ← Expansion.text (substitute go) { tilde := true } word
    choose go flags t.toList cases
  | .define line name body => do
    modify fun s => { s with functions := (s.functions.filter fun f => f.1 ≠ name) ++ [(name, ⟨line, body⟩)] }
    pure 0
  | .negation c => do
    let n ← go { isTested := true } (some c)
    pure (if (← get).skip.isSome then n else if n = 0 then 1 else 0)

end Evaluation

/-- Evaluates a command and then what signals ask for. -/
def evaluate (exec : Exec) : (depth : Nat) → Eval
  | 0, _, _ => pure 1
  | depth + 1, flags, c => do
    let go := evaluate exec depth
    let checks ← match if (← get).hasOption "noexec" then none else c with
      | none => pure false
      | some c => do
        Evaluation.runTraps go
        let status ← Evaluation.command exec go flags c
        modify fun s => { s with status := status }
        pure (Evaluation.isChecked c && status ≠ 0)
    Evaluation.runTraps go
    if checks && !flags.isTested && (← get).hasOption "errexit" then throw .finish
    if flags.exits then throw .finish
    pure (← get).status

def mostNested : Nat := 1000000000

end DataplaneVerdict.Shell
