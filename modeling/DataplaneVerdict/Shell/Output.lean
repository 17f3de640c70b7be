import DataplaneVerdict.Host.Directive
import DataplaneVerdict.Shell.Builtin

/-!
# `Shell.Output` — builtins that put out texts
-/

namespace DataplaneVerdict.Shell

open Host

namespace Output

def echoWords (newline : Bool) : List String → Sh Unit
  | [] => if newline then Sh.print "\n" else pure ()
  | w :: rest => do
    let (text, ends) := Builtin.unescape w.toList
    Sh.print (String.ofList text)
    if ends then pure ()
    else if rest.isEmpty then Sh.print (if newline then "\n" else "")
    else do
      Sh.print " "
      echoWords newline rest

/-- `echo`: its words, with escapes. -/
def echo (args : List String) : Sh Nat := do
  match args with
  | "-n" :: rest => echoWords false rest
  | args => echoWords true args
  pure 0

structure Formatting where
  args : List String
  hasUsed : Bool := false
  status : Nat := 0

abbrev Format := StateT Formatting Sh

def next : Format (Option String) := do
  let s ← get
  match s.args with
  | [] => pure none
  | a :: rest => do
    set { s with args := rest, hasUsed := true }
    pure (some a)

def complain (message : String) : Format Unit := do
  (Sh.warn message : Sh Unit)
  modify fun s => { s with status := 1 }

/-- Tells of an argument that is not a number all over. -/
def checkNumber (a : String) (found : Bool) (rest : List Char) (outOfRange : Bool) : Format Unit := do
  if !rest.isEmpty then
    complain (a ++ if found then ": not completely converted" else ": expected numeric value")
  else if outOfRange then complain (a ++ ": Numerical result out of range")

/-- The number of a character behind a quote. -/
def quotedCode? (a : String) : Option Nat :=
  match a.toList with
  | '"' :: rest => some ((rest.head?.map Char.toNat).getD 0)
  | '\'' :: rest => some ((rest.head?.map Char.toNat).getD 0)
  | _ => none

def greatestUnsigned : Nat := 18446744073709551615

/-- The next argument as a number. -/
def nextInteger (signed : Bool) : Format Int := do
  match ← next with
  | none => pure 0
  | some a =>
    match quotedCode? a with
    | some n => pure n
    | none =>
      let (found, n, rest) := Arithmetic.scanNumber 0 a.toList
      if signed then do
        checkNumber a found rest (n < Arithmetic.least || Arithmetic.greatest < n)
        pure (Arithmetic.clamp n)
      else do
        let outOfRange := greatestUnsigned < n.natAbs
        checkNumber a found rest outOfRange
        pure (if outOfRange then greatestUnsigned else n % (greatestUnsigned + 1))

def nextReal : Format Float := do
  match ← next with
  | none => pure 0
  | some a =>
    match quotedCode? a with
    | some n => pure (Float.ofNat n)
    | none =>
      match Numeral.scan a.toList with
      | none => do
        checkNumber a false a.toList false
        pure 0
      | some s => do
        checkNumber a true s.rest s.outOfRange
        pure s.value

def nextMeasure : Measure → Format (Option Int)
  | .argument => do return some (← nextInteger true)
  | _ => pure none

def emit (cs : List Char) : Format Unit := (Sh.print (String.ofList cs) : Sh Unit)

/-- Writes one argument as a directive asks for. -/
def directive (cs : List Char) : Format (Option (List Char)) := do
  let w := Directive.scan "#-+ 0".toList cs
  let width ← nextMeasure w.width
  let precision ← nextMeasure w.precision
  let d := Directive.ofWritten w width precision
  match w.rest with
  | [] => (Sh.error "missing format character" : Sh _)
  | kind :: rest => do
    match kind with
    | 'b' => do
      let (text, ends) := Builtin.unescape ((← next).getD "").toList
      emit (d.text text)
      if ends then return none
    | 'c' => emit (d.pad [((← next).getD "").toList.head?.getD '\x00'])
    | 's' => emit (d.text ((← next).getD "").toList)
    | 'd' => emit (d.signed (← nextInteger true))
    | 'i' => emit (d.signed (← nextInteger true))
    | c =>
      if "ouxX".toList.contains c then emit (d.unsigned c (← nextInteger false).toNat)
      else if "eEfFgG".toList.contains c then emit (d.real c (← nextReal))
      else
        let written := String.ofList ('%' :: cs.take (cs.length - rest.length))
        (Sh.error (written ++ ": invalid directive") : Sh _)
    pure (some rest)

/-- Goes through the format once; whether the output goes on. -/
def once : Nat → List Char → Format Bool
  | 0, _ => pure false
  | _ + 1, [] => pure true
  | fuel + 1, '\\' :: cs => do
    let (c, rest) := Builtin.escape cs
    emit [c]
    once fuel rest
  | fuel + 1, '%' :: '%' :: cs => do
    emit ['%']
    once fuel cs
  | fuel + 1, '%' :: cs => do
    match ← directive cs with
    | some rest => once fuel rest
    | none => pure false
  | fuel + 1, c :: cs => do
    emit [c]
    once fuel cs

def repeatedly (format : List Char) : Nat → Format Unit
  | 0 => pure ()
  | fuel + 1 => do
    modify fun s => { s with hasUsed := false }
    let goesOn ← once (format.length + 1) format
    let s ← get
    if goesOn && s.hasUsed && !s.args.isEmpty then repeatedly format fuel

/-- `printf`: its arguments in a format. -/
def printf (args : List String) : Sh Nat := do
  let (_, args) ← Builtin.options "" args
  match args with
  | [] => Sh.error "usage: printf format [arg ...]"
  | format :: args => do
    let (_, s) ← (repeatedly format.toList (args.length + 1)).run { args := args }
    pure s.status

end Output

end DataplaneVerdict.Shell
