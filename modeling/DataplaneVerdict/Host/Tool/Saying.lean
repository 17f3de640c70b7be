import DataplaneVerdict.Host.Directive
import DataplaneVerdict.Host.Tool.Making

/-!
# `Host.Tool.Saying` — tools that put out their arguments
-/

namespace DataplaneVerdict.Host.Tool

namespace Saying

/-! ## Words -/

def isOctal (c : Char) : Bool := '0' ≤ c && c ≤ '7'

def numberOf (base : Nat) (cs : List Char) : Nat := cs.foldl (fun n c => n * base + (Numeral.hexValue c).getD 0) 0

def control? (c : Char) : Option Char :=
  match c with
  | 'a' => some '\x07'
  | 'b' => some '\x08'
  | 'e' => some '\x1b'
  | 'f' => some '\x0c'
  | 'n' => some '\n'
  | 'r' => some '\r'
  | 't' => some '\t'
  | 'v' => some '\x0b'
  | '\\' => some '\\'
  | _ => none

/-- What a backslash stands for with what follows; nothing if it ends the output. -/
def escape (leadingZero : Bool) (cs : List Char) : Option (List Char × List Char) :=
  match cs with
  | [] => some (['\\'], [])
  | 'c' :: _ => none
  | 'x' :: rest =>
    let ds := (rest.take 2).takeWhile fun c => (Numeral.hexValue c).isSome
    if ds.isEmpty then some (['\\', 'x'], rest) else some ([Char.ofNat (numberOf 16 ds)], rest.drop ds.length)
  | c :: rest =>
    match control? c with
    | some x => some ([x], rest)
    | none =>
      if isOctal c then
        let body := if leadingZero && c = '0' then rest else cs
        let ds := (body.take 3).takeWhile isOctal
        some ([Char.ofNat (numberOf 8 ds % 256)], body.drop ds.length)
      else some (['\\', c], rest)

/-- A text without escapes, and whether one has ended it. -/
def unescape (leadingZero : Bool) : Nat → List Char → List Char → List Char × Bool
  | 0, _, out => (out.reverse, false)
  | _ + 1, [], out => (out.reverse, false)
  | fuel + 1, '\\' :: cs, out =>
    match escape leadingZero cs with
    | none => (out.reverse, true)
    | some (text, rest) => unescape leadingZero fuel rest (text.reverse ++ out)
  | fuel + 1, c :: cs, out => unescape leadingZero fuel cs (c :: out)

def isEchoOption (w : Octets) : Bool :=
  match w.toList with
  | '-' :: c :: cs => (c :: cs).all fun c => c = 'n' || c = 'e' || c = 'E'
  | _ => false

/-- `echo`: its words. -/
def echo (_ : Runner) (words : List Octets) : Tool Unit := do
  let options := words.takeWhile isEchoOption
  let letters := options.flatMap fun w => w.toList.drop 1
  let escapes := (letters.filter fun c => c ≠ 'n').getLast? = some 'e'
  let line := " ".intercalate (words.drop options.length)
  let (text, ends) := if escapes then unescape true (line.length + 1) line.toList [] else (line.toList, false)
  print (String.ofList text)
  if !ends && !letters.contains 'n' then print "\n"

/-- The arguments that are left, and how many were used. -/
structure Formatting where
  args : List Octets
  used : Nat := 0

abbrev Format := StateT Formatting Tool

def next : Format (Option Octets) := do
  let s ← get
  match s.args with
  | [] => pure none
  | a :: rest => do
    set { s with args := rest, used := s.used + 1 }
    pure (some a)

def complainNumber (a text : Octets) : Format Unit := (complain 1 (Quoted.plain a ++ ": " ++ text) : Tool Unit)

/-- A whole number at the start of a text. -/
def scanWhole (cs : List Char) : Option (Int × List Char) :=
  let (negative, body) := match cs with
    | '-' :: rest => (true, rest)
    | '+' :: rest => (false, rest)
    | rest => (false, rest)
  let ds := body.takeWhile Char.isDigit
  let n : Int := Amount.digits ds
  if ds.isEmpty then none else some (if negative then -n else n, body.drop ds.length)

/-- The next argument as a number; a missing one is zero. -/
def nextInteger : Format Int := do
  match ← next with
  | none => pure 0
  | some a =>
    match scanWhole a.toList with
    | none => do
      if !a.isEmpty then complainNumber a "expected a numeric value"
      pure 0
    | some (n, rest) => do
      let least : Int := -9223372036854775808
      let greatest : Int := 9223372036854775807
      if n < least || greatest < n then complainNumber a "Numerical result out of range"
      else if !rest.isEmpty then complainNumber a "value not completely converted"
      pure (max least (min greatest n))

/-- A width or precision that is an argument. -/
def nextMeasure : Measure → Format (Option Int)
  | .argument => do return some (← nextInteger)
  | _ => pure none

def put (cs : List Char) : Format Unit := (print (String.ofList cs) : Tool Unit)

/-- Puts out an escape and gives the rest, if the output goes on. -/
def putEscape (leadingZero : Bool) (cs : List Char) : Format (Option (List Char)) := do
  let missing : Format (Option (List Char)) :=
    (fail 1 "missing hexadecimal number in escape" : Tool (Option (List Char)))
  match cs with
  | '"' :: rest => do
    put ['"']
    pure (some rest)
  | 'x' :: c :: rest =>
    if (Numeral.hexValue c).isNone then missing
    else
      match escape leadingZero ('x' :: c :: rest) with
      | some (text, rest) => do
        put text
        pure (some rest)
      | none => pure none
  | ['x'] => missing
  | _ =>
    match escape leadingZero cs with
    | some (text, rest) => do
      put text
      pure (some rest)
    | none => pure none

def putUnescaped : Nat → List Char → Format Bool
  | 0, _ => pure true
  | _ + 1, [] => pure true
  | fuel + 1, '\\' :: cs => do
    match ← putEscape true cs with
    | some rest => putUnescaped fuel rest
    | none => pure false
  | fuel + 1, c :: cs => do
    put [c]
    putUnescaped fuel cs

/-- Writes one argument as a directive asks for. -/
def directive (cs : List Char) : Format (Option (List Char)) := do
  match cs with
  | 'b' :: rest => do
    let a := (← next).getD ""
    let goesOn ← putUnescaped (a.length + 1) a.toList
    pure (if goesOn then some rest else none)
  | _ => do
    let w := Directive.scan "#-+ 0".toList cs
    let width ← nextMeasure w.width
    let precision ← nextMeasure w.precision
    let d := Directive.ofWritten w width precision
    let refuse (shown : List Char) : Format (Option (List Char)) :=
      (fail 1 ("%" ++ String.ofList shown ++ ": invalid conversion specification") : Tool (Option (List Char)))
    match w.rest with
    | [] => refuse cs
    | kind :: rest => do
      if kind = 's' then put (d.text ((← next).getD "").toList)
      else if kind = 'c' then put (d.pad [((← next).getD "").toList.head?.getD '\x00'])
      else if kind = 'd' || kind = 'i' then put (d.signed (← nextInteger))
      else return ← refuse (cs.take (cs.length - rest.length))
      pure (some rest)

/-- Goes through the format once; whether the output goes on. -/
def once : Nat → List Char → Format Bool
  | 0, _ => pure true
  | _ + 1, [] => pure true
  | fuel + 1, '%' :: '%' :: cs => do
    put ['%']
    once fuel cs
  | fuel + 1, '%' :: cs => do
    match ← directive cs with
    | some rest => once fuel rest
    | none => pure false
  | fuel + 1, '\\' :: cs => do
    match ← putEscape false cs with
    | some rest => once fuel rest
    | none => pure false
  | fuel + 1, c :: cs => do
    put [c]
    once fuel cs

/-- Goes through the format as long as there are arguments. -/
def again (format : List Char) : Nat → Format Unit
  | 0 => pure ()
  | fuel + 1 => do
    let before := (← get).used
    if ← once (format.length + 1) format then
      let s ← get
      match s.args with
      | [] => pure ()
      | a :: _ =>
        if s.used = before then
          (warn ("warning: ignoring excess arguments, starting with " ++ Quoted.plain a) : Tool Unit)
        else again format fuel

/-- `printf`: its arguments in a format. -/
def printf (_ : Runner) (words : List Octets) : Tool Unit := do
  let words := if words.head? = some "--" then words.drop 1 else words
  match words with
  | [] => misuse 1 "missing operand"
  | format :: args => do
    let _ ← (again format.toList (args.length + 1)) { args := args }

/-! ## Paths -/

def withoutSuffix (suffix name : Octets) : Octets :=
  let s := suffix.toList
  let n := name.toList
  if s.length < n.length && s.isSuffixOf n && !s.isEmpty then String.ofList (n.take (n.length - s.length)) else name

/-- `basename`: last names of paths. -/
def basename (_ : Runner) (words : List Octets) : Tool Unit := do
  let a ← leadingArguments 1 [.plain 'a' "multiple", .withValue 's' "suffix", .plain 'z' "zero"] words
  let ending := if a.has "zero" then "\x00" else "\n"
  let say (suffix path : Octets) : Tool Unit := print (withoutSuffix suffix (baseName path) ++ ending)
  if a.operands.isEmpty then misuse 1 "missing operand"
  if a.has "multiple" || a.has "suffix" then
    for p in a.operands do
      say ((a.value? "suffix").getD "") p
  else
    match a.operands with
    | [p] => say "" p
    | [p, suffix] => say suffix p
    | ops => misuse 1 ("extra operand " ++ Quoted.plain (ops[2]?.getD ""))

/-- `dirname`: paths without their last names. -/
def dirname (_ : Runner) (words : List Octets) : Tool Unit := do
  let a ← leadingArguments 1 [.plain 'z' "zero"] words
  if a.operands.isEmpty then misuse 1 "missing operand"
  for p in a.operands do
    print (directoryName p ++ if a.has "zero" then "\x00" else "\n")

/-- `pwd`: the current directory. -/
def pwd (_ : Runner) (words : List Octets) : Tool Unit := do
  let a ← leadingArguments 1 [.plain 'L' "logical", .plain 'P' "physical"] words
  if !a.operands.isEmpty then warn "ignoring non-option arguments"
  let here ← act (Act.look fun d v => d.pathOf v.cwd)
  let logical ← setting? "PWD"
  let isHere ← match logical with
    | some p => act (Act.look fun d v =>
        match d.find v .target p with
        | .ok i => i == v.cwd && p.startsWith "/" && !(p.splitOn "/").any fun n => n = "." || n = ".."
        | .error _ => false)
    | none => pure false
  if a.last? ["logical", "physical"] = some "logical" && isHere then print (logical.getD "" ++ "\n")
  else
    match here with
    | some p => print (p ++ "\n")
    | none => fail 1 ("couldn't find directory entry in '..' with matching i-node")

end Saying

/-! ## Numbers -/

/-- A decimal number as it is written. -/
structure Decimal where
  scaled : Int
  places : Nat

namespace Decimal

def ofText? (text : Octets) : Option Decimal :=
  let cs := text.toList.dropWhile fun c => c = ' ' || (9 ≤ c.toNat && c.toNat ≤ 13)
  let (negative, body) := match cs with
    | '-' :: rest => (true, rest)
    | '+' :: rest => (false, rest)
    | rest => (false, rest)
  let sign (n : Nat) : Int := if negative then -(n : Int) else n
  match body with
  | '0' :: x :: h :: hs =>
    if (x = 'x' || x = 'X') && (h :: hs).all (fun c => (Numeral.hexValue c).isSome) then
      some ⟨sign (Saying.numberOf 16 (h :: hs)), 0⟩
    else decimal sign body
  | _ => decimal sign body
where
  decimal (sign : Nat → Int) (body : List Char) : Option Decimal :=
    let whole := body.takeWhile Char.isDigit
    let (part, rest) := match body.drop whole.length with
      | '.' :: rest => (rest.takeWhile Char.isDigit, rest.dropWhile Char.isDigit)
      | rest => ([], rest)
    if whole.isEmpty && part.isEmpty then none
    else
      let power : Option Int := match rest with
        | [] => some 0
        | c :: rest =>
          if c = 'e' || c = 'E' then
            match Numeral.scanExponent rest with
            | some (k, []) => some k
            | _ => none
          else none
      power.map fun k =>
        let n := Amount.digits (whole ++ part)
        let places : Int := part.length - k
        if 0 ≤ places then ⟨sign n, places.toNat⟩ else ⟨sign (n * Nat.pow 10 (-places).toNat), 0⟩

/-- A number in units of the last place. -/
def toPlaces (d : Decimal) (places : Nat) : Int := d.scaled * (Nat.pow 10 (places - d.places) : Nat)

def text (scaled : Int) (places : Nat) : List Char :=
  (if scaled < 0 then ['-'] else []) ++ Numeral.withPoint places false (Numeral.digits scaled.natAbs)

end Decimal

namespace Saying

/-- How the numbers of a series are put out. -/
structure Series where
  separator : Octets
  write : Int → List Char

def count (s : Series) (step last : Int) : Nat → Int → Bool → Tool Unit
  | 0, _, _ => pure ()
  | fuel + 1, n, isFirst => do
    if if 0 < step then decide (last < n) else decide (n < last) then
      if !isFirst then print "\n"
    else if (← get).outProblem.isSome then pure ()
    else do
      if !isFirst then print s.separator
      print (String.ofList (s.write n))
      count s step last fuel (n + step) false

def withMark (isNumber : Octets → Bool) : List Octets → List Octets
  | [] => []
  | w :: ws =>
    if isNumber w then "--" :: w :: ws
    else if w = "--" || !w.startsWith "-" || w = "-" then w :: ws
    else if w = "-s" || w = "--separator" then
      match ws with
      | [] => [w]
      | v :: ws => w :: v :: withMark isNumber ws
    else w :: withMark isNumber ws

/-- `seq`: the numbers from one to another. -/
def seq (_ : Runner) (words : List Octets) : Tool Unit := do
  let isNumber (w : Octets) : Bool :=
    match w.toList with
    | '-' :: c :: _ => c.isDigit || c = '.'
    | _ => false
  let a ← leadingArguments 1 [.withValue 's' "separator", .plain 'w' "equal-width"] (withMark isNumber words)
  if a.operands.isEmpty then misuse 1 "missing operand"
  if 3 < a.operands.length then misuse 1 ("extra operand " ++ Quoted.plain (a.operands[3]?.getD ""))
  let number (w : Octets) : Tool Decimal := do
    match Decimal.ofText? w with
    | some d => pure d
    | none => misuse 1 ("invalid floating point argument: " ++ Quoted.plain w)
  let (firstText, stepText, lastText) : Octets × Octets × Octets := match a.operands with
    | [l] => ("1", "1", l)
    | [f, l] => (f, "1", l)
    | [f, s, l] => (f, s, l)
    | _ => ("1", "1", "1")
  let first ← number firstText
  let step ← number stepText
  let last ← number lastText
  if step.scaled = 0 then misuse 1 ("invalid Zero increment value: " ++ Quoted.plain stepText)
  let places := max first.places step.places
  let fine := max places last.places
  let scale : Int := (Nat.pow 10 (fine - places) : Nat)
  let start := first.toPlaces places
  let stride := step.toPlaces places
  let bound := last.toPlaces fine
  let limit := if 0 < stride then Int.fdiv bound scale else -(Int.fdiv (-bound) scale)
  let written (text : Octets) (d : Decimal) : Nat :=
    let own := (text.toList.dropWhile fun c => c = ' ' || c = '+').length
    own + places - d.places + (if d.places = 0 && places ≠ 0 then 1 else 0) -
      if d.places ≠ 0 && places = 0 then 1 else 0
  let width := if a.has "equal-width" then max (written firstText first) (written lastText last) else 0
  let write (n : Int) : List Char :=
    match Decimal.text n places with
    | '-' :: ds => '-' :: Numeral.padded (width - 1) ds
    | ds => Numeral.padded width ds
  count ⟨(a.value? "separator").getD "\n", write⟩ stride limit Act.fuel start true

end Saying

end DataplaneVerdict.Host.Tool
