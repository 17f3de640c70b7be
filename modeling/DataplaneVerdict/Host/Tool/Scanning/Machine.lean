import DataplaneVerdict.Host.Tool.Basic
import DataplaneVerdict.Host.Tool.Scanning.Finding
import DataplaneVerdict.Host.Tool.Scanning.Token
import DataplaneVerdict.Host.Tool.Scanning.Value
import Std.Data.HashMap

/-!
# `Host.Tool.Scanning.Machine` — the state of a scanning program

A record is divided into fields when one of them is wanted, by the divider that was set when the record came.
-/

namespace DataplaneVerdict.Host.Tool.Scanning

/-! ## State -/

/-- The current record; its fields are found when they are needed. -/
structure Record where
  whole : Value := .unset
  fields : Option (Array Value) := some #[]
  divider : Divider := .blanks

/-- What a running program knows. -/
structure Machine where
  values : Std.HashMap String Value := {}
  elements : Std.HashMap (String × Octets) Value := {}
  record : Record := {}
  divider : Divider := .blanks
  patterns : Std.HashMap Octets Pattern := {}
  input : Option Lines := none
  argument : Nat := 1
  hasFiles : Bool := false
  isInputOver : Bool := false
  code : Nat := 0

/-- Ways to leave a statement early. -/
inductive Leave where
  | record
  | exit
  | stop (code : Nat)

abbrev Run := ExceptT Leave (StateT Machine Tool)

def tool {α : Type} (m : Tool α) : Run α := fun s => do
  let a ← m
  pure (.ok a, s)

/-! ## Faults -/

/-- Ends with a message. -/
def failure {α : Type} (text : Octets) : Run α := do
  tool (warn text)
  throw (.stop 2)

def rawVariable (name : String) : Run Value := do return ((← get).values[name]?).getD .unset

/-- Ends with a message about the place in the input. -/
def fault {α : Type} (text : Octets) : Run α := do
  let shown (name : String) : Run Octets := do return (← rawVariable name).toText
  failure ("run time error: " ++ text ++ "\n\tFILENAME=\"" ++ (← shown "FILENAME") ++ "\" FNR=" ++ (← shown "FNR") ++
    " NR=" ++ (← shown "NR"))

/-- A pattern that is written as text; those seen before are remembered. -/
def patternOf (source : Octets) : Run Pattern := do
  match (← get).patterns[source]? with
  | some p => pure p
  | none =>
    match Finding.compile source with
    | .ok p => do
      modify fun m => { m with patterns := m.patterns.insert source p }
      pure p
    | .error why => fault (Finding.refusal source why)

def dividerOf (source : Octets) : Run Divider := do
  if source.length ≤ 1 then
    match Divider.ofText source with
    | .ok d => pure d
    | .error _ => pure .blanks
  else return .pattern (← patternOf source).automaton

/-! ## Fields -/

/-- The fields of the record. -/
def fields : Run (Array Value) := do
  let r := (← get).record
  match r.fields with
  | some fs => pure fs
  | none => do
    let fs := ((r.divider.divide r.whole.toText).map Value.input).toArray
    modify fun m => { m with record := { m.record with fields := some fs } }
    pure fs

/-- Takes another record. -/
def setRecord (text : Octets) : Run Unit :=
  modify fun m => { m with record := { whole := .input text, fields := none, divider := m.divider } }

/-- The record that given fields make. -/
def joinFields (fs : Array Value) : Run Unit := do
  let text := (← rawVariable "OFS").toText.intercalate (fs.toList.map Value.toText)
  modify fun m => { m with record := { m.record with whole := .input text, fields := some fs } }

/-- Changes how many fields there are. -/
def setCount (n : Int) : Run Unit := do
  if n < 0 then fault "negative value assigned to NF"
  let fs ← fields
  let n := n.toNat
  joinFields (if n ≤ fs.size then fs.extract 0 n else fs ++ Array.replicate (n - fs.size) (.text ""))

def getField (n : Nat) : Run Value := do
  if n = 0 then return (← get).record.whole
  return ((← fields)[n - 1]?).getD .unset

/-- Changes a field, and with it the record. -/
def setField (n : Nat) (v : Value) : Run Unit := do
  if n = 0 then setRecord v.toText
  else do
    let fs ← fields
    let fs := if fs.size < n then fs ++ Array.replicate (n - fs.size) (.text "") else fs
    joinFields (fs.set! (n - 1) v)

def fieldNumber (v : Value) : Run Nat := do
  let n := whole v.toFloat
  if n < 0 then fault ("negative field index $" ++ toString n) else pure n.toNat

/-! ## Variables -/

/-- The value of a variable; the count of fields is found now. -/
def getVariable (name : String) : Run Value := do
  if name = "NF" then return .number (Float.ofNat (← fields).size) else rawVariable name

/-- Sets a variable, also one that the program uses itself. -/
def setVariable (name : String) (v : Value) : Run Unit := do
  if name = "NF" then setCount (whole v.toFloat)
  else do
    modify fun m => { m with values := m.values.insert name v }
    if name = "FS" then
      let d ← dividerOf v.toText
      modify fun m => { m with divider := d }

def countUp (name : String) : Run Unit := do
  let n := (← rawVariable name).toFloat
  modify fun m => { m with values := m.values.insert name (.number (n + 1)) }

/-! ## Input -/

/-- An argument that sets a variable. -/
def assignment? (text : Octets) : Option (String × Octets) :=
  let cs := text.toList
  let name := cs.takeWhile fun c => startsName c || c.isDigit
  match name, cs.drop name.length with
  | c :: _, '=' :: value => if startsName c then some (String.ofList name, String.ofList value) else none
  | _, _ => none

def openMain (name : Octets) (fd : Nat) : Run Unit := do
  modify fun m =>
    { m with
      input := some { fd := fd }, hasFiles := true
      values := (m.values.insert "FILENAME" (.text name)).insert "FNR" (.number 0) }

/-- Goes to the next input that an argument names. -/
def nextMainFile : Nat → Run Bool
  | 0 => pure false
  | fuel + 1 => do
    let m ← get
    let n := m.argument
    if (n : Int) < whole (← rawVariable "ARGC").toFloat then do
      set { m with argument := n + 1 }
      let text := (m.elements[("ARGV", toString n)]?.getD .unset).toText
      if text.isEmpty then nextMainFile fuel
      else
        match assignment? text with
        | some (name, value) => do
          setVariable name (.input (unescaped value))
          nextMainFile fuel
        | none =>
          if text = "-" then do
            openMain text 0
            pure true
          else
            match ← tool (ask (.open text .forReading 0)) with
            | .ok fd => do
              openMain text fd
              pure true
            | .error e => failure ("cannot open \"" ++ text ++ "\" (" ++ e.notice ++ ")")
    else if m.hasFiles then do
      modify fun m => { m with isInputOver := true }
      pure false
    else do
      openMain "-" 0
      pure true

def closeMain : Run Unit := do
  match (← get).input with
  | some i => tool (closeInput i.fd)
  | none => pure ()
  modify fun m => { m with input := none }

/-- The next record of all inputs. -/
def mainRecord : Nat → Run (Option Octets)
  | 0 => pure none
  | fuel + 1 => do
    let m ← get
    if m.isInputOver then pure none
    else
      match m.input with
      | none => if ← nextMainFile Act.fuel then mainRecord fuel else pure none
      | some i => do
        let (record, i) ← tool i.line
        modify fun m => { m with input := some i }
        match record, i.problem with
        | some (text, _), _ => pure (some (String.ofList text))
        | none, some e => failure ("read error (" ++ e.notice ++ ")")
        | none, none => do
          closeMain
          mainRecord fuel

/-! ## Output -/

def checkOutput : Run Unit := do
  match ← tool (do return (← get).outProblem) with
  | some e => failure ("write failure (" ++ e.notice ++ ")")
  | none => pure ()

/-- Closes what is open; the exit code. -/
def finish (code : Nat) : Tool Nat := do
  let isClosed := (← ask (.descriptor 1)).isNone
  Tool.flush
  let problem := (← get).outProblem
  let problem := if isClosed then some FileProblem.badDescriptor else problem
  match problem with
  | some e => do
    modify fun t => { t with outProblem := none, out := [], outSize := 0 }
    warn ("close failed on file \"/dev/stdout\" (" ++ e.notice ++ ")")
    pure 2
  | none => pure code

end DataplaneVerdict.Host.Tool.Scanning
