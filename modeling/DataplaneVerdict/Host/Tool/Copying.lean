import DataplaneVerdict.Host.Tool.Amount

/-!
# `Host.Tool.Copying` — tools that pass their input on
-/

namespace DataplaneVerdict.Host.Tool

namespace Copying

/-- Whether an input is the file that is being written. -/
def isOutput (fd : Nat) : Tool Bool := do
  match ← ask (.descriptor fd), ← ask (.descriptor 1) with
  | some i, some o =>
    if i ≠ o then pure false
    else do
      let regular ← act (Act.look fun d _ =>
        match d.node? i with
        | some (.file _) => true
        | _ => false)
      let place ← ask (.seek fd fun offset _ => offset)
      let size ← act (Act.look fun d _ => (d.content i).size)
      match place with
      | .ok n => pure (regular && decide (n < size))
      | .error _ => pure false
  | _, _ => pure false

def blockSize : Nat := 131072

/-- Passes an input on. -/
def copyFrom (fd : Nat) (label : Octets) : Nat → Tool Unit
  | 0 => pure ()
  | fuel + 1 => do
    match ← ask (.read fd blockSize) with
    | .error .interrupted => copyFrom fd label fuel
    | .error e => complain 1 (Quoted.forShell label ++ ": " ++ e.notice)
    | .ok "" => pure ()
    | .ok text => do
      emit text
      if (← get).outProblem.isNone then copyFrom fd label fuel

/-- `cat`: one input after the other. -/
def cat (_ : Runner) (words : List Octets) : Tool Unit := do
  let a ← arguments 1 [.onlyLetter 'u'] words
  for path in if a.operands.isEmpty then ["-"] else a.operands do
    match ← openInput path with
    | .error e => complain 1 (Quoted.forShell path ++ ": " ++ e.notice)
    | .ok fd => do
      if ← isOutput fd then complain 1 (Quoted.forShell path ++ ": input file is output file")
      else copyFrom fd path Act.fuel
      closeInput fd

/-! ## Several outputs -/

/-- Writes to all outputs; those that fail are left out from then on. -/
def writeOutputs (text : Octets) : List (Nat × Octets) → Tool (List (Nat × Octets))
  | [] => pure []
  | (fd, path) :: rest => do
    match ← act (Act.writeAll fd (text.length + 1) text) with
    | .ok _ => do
      let others ← writeOutputs text rest
      pure ((fd, path) :: others)
    | .error e => do
      complain 1 (Quoted.forShell path ++ ": " ++ e.notice)
      writeOutputs text rest

def copyToOutputs : Nat → List (Nat × Octets) → Tool Unit
  | 0, _ => pure ()
  | fuel + 1, outputs => do
    match ← ask (.read 0 8192) with
    | .error .interrupted => copyToOutputs fuel outputs
    | .error e => complain 1 ("read error: " ++ e.notice)
    | .ok "" => pure ()
    | .ok text => do
      let outputs ← writeOutputs text outputs
      if !outputs.isEmpty then copyToOutputs fuel outputs

/-- `tee`: passes the input on to files as well. -/
def tee (_ : Runner) (words : List Octets) : Tool Unit := do
  let a ← arguments 1
    [.plain 'a' "append", .plain 'i' "ignore-interrupts", .onlyLetter 'p', ⟨none, "output-error", .maybe⟩] words
  if a.has "ignore-interrupts" then ask (.dispose .int .ignored)
  let mut outputs : List (Nat × Octets) := [(1, "standard output")]
  for path in a.operands do
    match ← ask (.open path (if a.has "append" then .forAppending else .forWriting) 0o666) with
    | .ok fd => outputs := outputs ++ [(fd, path)]
    | .error e => complain 1 (Quoted.forShell path ++ ": " ++ e.notice)
  copyToOutputs Act.fuel outputs

/-- How much of an input is wanted, or how much of it is not. -/
structure Portion where
  count : Nat
  isRest : Bool := false

def markEnds (mark : Char) (cs : List Char) : List Nat :=
  (cs.zipIdx.filter fun p => p.1 = mark).map fun p => p.2 + 1

/-- The length of so many lines. -/
def firstLines (mark : Char) : Nat → List Char → Nat → Nat
  | 0, _, n => n
  | _, [], n => n
  | count + 1, c :: cs, n =>
    if c = mark then firstLines mark count cs (n + 1)
    else firstLines mark (count + 1) cs (n + 1)

/-- Gives back what was read beyond what was wanted. -/
def giveBack (fd unused : Nat) : Tool Unit := do
  if unused ≠ 0 then
    let _ ← ask (.seek fd fun offset _ => (offset : Int) - (unused : Int))

def headLines (fd : Nat) (mark : Char) : Nat → Nat → Tool (Option FileProblem)
  | 0, _ => pure none
  | _, 0 => pure none
  | fuel + 1, count => do
    match ← ask (.read fd 8192) with
    | .error .interrupted => headLines fd mark fuel count
    | .error e => pure (some e)
    | .ok "" => pure none
    | .ok text => do
      let cs := text.toList
      let n := firstLines mark count cs 0
      let found := (cs.take n).foldl (fun (k : Nat) c => if c = mark then k + 1 else k) 0
      print (String.ofList (cs.take n))
      if found = count then do
        giveBack fd (cs.length - n)
        pure none
      else headLines fd mark fuel (count - found)

def headBytes (fd : Nat) : Nat → Nat → Tool (Option FileProblem)
  | 0, _ => pure none
  | _, 0 => pure none
  | fuel + 1, count => do
    match ← ask (.read fd (min count 8192)) with
    | .error .interrupted => headBytes fd fuel count
    | .error e => pure (some e)
    | .ok "" => pure none
    | .ok text => do
      print text
      headBytes fd fuel (count - text.length)

/-- All but the last so many lines or bytes. -/
def headRest (fd : Nat) (mark : Option Char) (count : Nat) : Tool (Option FileProblem) := do
  let (text, problem) ← act (Act.readAll fd)
  let cs := text.toList
  let n := match mark with
    | none => cs.length - count
    | some m =>
      let ends := markEnds m cs
      let ends := if (cs.getLast?.map fun c => decide (c ≠ m)).getD false then ends ++ [cs.length] else ends
      if count = 0 then cs.length
      else if ends.length ≤ count then 0
      else ends[ends.length - count - 1]?.getD 0
  print (String.ofList (cs.take n))
  pure problem

def header (isFirst : Bool) (path : Octets) : Octets :=
  (if isFirst then "" else "\n") ++ "==> " ++ (if path = "-" then "standard input" else path) ++ " <==\n"

/-- Does the same for each file, with headers between them. -/
def eachFile (headers : Bool) (one : Nat → Tool (Option FileProblem)) : List Octets → (isFirst : Bool) → Tool Unit
  | [], _ => pure ()
  | path :: rest, isFirst => do
    let label := Quoted.always (if path = "-" then "standard input" else path)
    match ← openInput path with
    | .error e => do
      complain 1 ("cannot open " ++ label ++ " for reading: " ++ e.notice)
      eachFile headers one rest isFirst
    | .ok fd => do
      if headers then print (header isFirst path)
      match ← one fd with
      | some e => complain 1 ("error reading " ++ label ++ ": " ++ e.notice)
      | none => pure ()
      closeInput fd
      eachFile headers one rest false

/-- Reads a count with its sign. -/
def portion (sign : Char) (unit : String) (text : Octets) : Tool Portion := do
  let (isRest, digits) := match text.toList with
    | c :: cs => if c = sign then (true, String.ofList cs) else (false, text)
    | [] => (false, text)
  let digits := match digits.toList with
    | '-' :: cs => if sign = '+' then String.ofList cs else digits
    | _ => digits
  match Amount.ofText? digits with
  | some n => pure ⟨n, isRest⟩
  | none => fail 1 ("invalid number of " ++ unit ++ ": " ++ Quoted.plain text)

/-- A count that is an option by itself. -/
def oldOption (word : Octets) : Tool (Option (List Octets)) := do
  match word.toList with
  | '-' :: d :: cs =>
    if !d.isDigit then pure none
    else do
      let ds := (d :: cs).takeWhile Char.isDigit
      let rest := (d :: cs).drop ds.length
      let unit := (rest.filter fun c => "cbkm".toList.contains c).getLast?
      for c in rest do
        if !("cbkmlqvz".toList.contains c) then misuse 1 ("invalid trailing option -- " ++ String.singleton c)
      let amount := String.ofList (ds ++ match unit with
        | some 'b' => ['b']
        | some 'k' => ['K']
        | some 'm' => ['M']
        | _ => [])
      let flags := rest.filterMap fun c => if "qvz".toList.contains c then some ("-" ++ String.singleton c) else none
      pure (some ([if unit.isSome then "-c" else "-n", amount] ++ flags))
  | _ => pure none

/-- `head`: the first part of each input. -/
def head (_ : Runner) (words : List Octets) : Tool Unit := do
  let words ← match words with
    | w :: rest => do
      match ← oldOption w with
      | some ws => pure (ws ++ rest)
      | none => pure words
    | [] => pure words
  let a ← arguments 1
    [.withValue 'c' "bytes", .withValue 'n' "lines", .plain 'q' "quiet", .onlyName "silent", .plain 'v' "verbose",
     .plain 'z' "zero-terminated"] words
  let mut byBytes := false
  let mut p : Portion := ⟨10, false⟩
  for g in a.given do
    match g.key, g.value with
    | "bytes", some v => do
      p ← portion '-' "bytes" v
      byBytes := true
    | "lines", some v => do
      p ← portion '-' "lines" v
      byBytes := false
    | _, _ => pure ()
  let files := if a.operands.isEmpty then ["-"] else a.operands
  let mark := if a.has "zero-terminated" then '\x00' else '\n'
  let headers := match a.last? ["quiet", "silent", "verbose"] with
    | some "verbose" => true
    | some _ => false
    | none => 1 < files.length
  let count := p.count
  let isRest := p.isRest
  let isBytes := byBytes
  let one (fd : Nat) : Tool (Option FileProblem) :=
    if isRest then headRest fd (if isBytes then none else some mark) count
    else if isBytes then headBytes fd Act.fuel count
    else headLines fd mark Act.fuel count
  eachFile headers one files true

/-! ## The last part -/

def tailLines (mark : Char) (p : Portion) (cs : List Char) : List Char :=
  let ends := markEnds mark cs
  let ends := if (cs.getLast?.map fun c => decide (c ≠ mark)).getD false then ends ++ [cs.length] else ends
  if p.isRest then
    if p.count ≤ 1 then cs else cs.drop (ends[p.count - 2]?.getD cs.length)
  else if p.count = 0 then []
  else if ends.length ≤ p.count then cs
  else cs.drop (ends[ends.length - p.count - 1]?.getD 0)

def tailBytes (p : Portion) (cs : List Char) : List Char :=
  if p.isRest then cs.drop (p.count - 1) else cs.drop (cs.length - p.count)

def oldTailOption (word : Octets) (isOnly : Bool) : Option (List Octets) :=
  match word.toList with
  | sign :: d :: cs =>
    if (sign = '-' || (sign = '+' && isOnly)) && d.isDigit then
      let ds := (d :: cs).takeWhile Char.isDigit
      let rest := (d :: cs).drop ds.length
      let unit := match rest with
        | 'c' :: _ => "-c"
        | _ => "-n"
      if rest.all fun c => "cl".toList.contains c then
        some [unit, String.ofList ((if sign = '+' then ['+'] else []) ++ ds)]
      else none
    else none
  | _ => none

/-- `tail`: the last part of each input. -/
def tail (_ : Runner) (words : List Octets) : Tool Unit := do
  let words := match words with
    | w :: rest => ((oldTailOption w (rest.length ≤ 1)).map fun ws => ws ++ rest).getD words
    | [] => words
  let a ← arguments 1
    [.withValue 'c' "bytes", .withValue 'n' "lines", .plain 'q' "quiet", .onlyName "silent", .plain 'v' "verbose",
     .plain 'z' "zero-terminated"] words
  let mut byBytes := false
  let mut p : Portion := ⟨10, false⟩
  for g in a.given do
    match g.key, g.value with
    | "bytes", some v => do
      p ← portion '+' "bytes" v
      byBytes := true
    | "lines", some v => do
      p ← portion '+' "lines" v
      byBytes := false
    | _, _ => pure ()
  let files := if a.operands.isEmpty then ["-"] else a.operands
  let mark := if a.has "zero-terminated" then '\x00' else '\n'
  let headers := match a.last? ["quiet", "silent", "verbose"] with
    | some "verbose" => true
    | some _ => false
    | none => 1 < files.length
  let portion := p
  let isBytes := byBytes
  let one (fd : Nat) : Tool (Option FileProblem) := do
    let (text, problem) ← act (Act.readAll fd)
    print (String.ofList (if isBytes then tailBytes portion text.toList else tailLines mark portion text.toList))
    pure problem
  eachFile headers one files true

end Copying

end DataplaneVerdict.Host.Tool
