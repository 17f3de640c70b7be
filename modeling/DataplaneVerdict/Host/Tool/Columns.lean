import DataplaneVerdict.Host.Tool.Arguments

/-!
# `Host.Tool.Columns` — tools that count and cut lines
-/

namespace DataplaneVerdict.Host.Tool

namespace Columns

/-! ## Counting -/

/-- What has been counted so far. -/
structure Counts where
  lines : Nat := 0
  words : Nat := 0
  bytes : Nat := 0
  longest : Nat := 0
  width : Nat := 0
  inWord : Bool := false

def isSpace (c : Char) : Bool := c = ' ' || (9 ≤ c.toNat && c.toNat ≤ 13)

def Counts.step (k : Counts) (c : Char) : Counts :=
  let space := isSpace c
  let k := { k with
    bytes := k.bytes + 1, words := if space || k.inWord then k.words else k.words + 1
    inWord := !space }
  if c = '\n' then { k with lines := k.lines + 1, longest := max k.longest k.width, width := 0 }
  else if c = '\r' || c = '\x0c' then { k with longest := max k.longest k.width, width := 0 }
  else if c = '\t' then { k with width := (k.width / 8 + 1) * 8 }
  else if c.toNat = 11 then k
  else if 32 ≤ c.toNat && c.toNat < 127 then { k with width := k.width + 1 }
  else k

/-- Counts an input up to its end. -/
def countFrom (fd : Nat) : Nat → Counts → Tool (Counts × Option FileProblem)
  | 0, k => pure (k, none)
  | fuel + 1, k => do
    match ← ask (.read fd 16384) with
    | .error .interrupted => countFrom fd fuel k
    | .error e => pure (k, some e)
    | .ok "" => pure ({ k with longest := max k.longest k.width, width := 0 }, none)
    | .ok text => countFrom fd fuel (text.foldl Counts.step k)

def isPlain (st : Disk.Stat) : Bool :=
  match st.inode.node with
  | .file _ => true
  | .program _ => true
  | .unreadable => true
  | _ => false

/-- The width of columns, from the sizes of the files. -/
def numberWidth (stats : List (Answer Disk.Stat)) : Nat :=
  let known := stats.filterMap fun r =>
    match r with
    | .ok st => some st
    | .error _ => none
  let total := (known.filter isPlain).foldl (fun n st => n + st.size) 0
  let least := if known.all isPlain then 1 else 7
  match stats.head? with
  | some (.ok _) => max least (toString total).length
  | _ => 1

def inColumn (width n : Nat) : Octets :=
  let ds := toString n
  "".pushn ' ' (width - ds.length) ++ ds

/-- `wc`: counts lines, words and bytes. -/
def wc (_ : Runner) (words : List Octets) : Tool Unit := do
  let a ← arguments 1
    [.plain 'c' "bytes", .plain 'm' "chars", .plain 'l' "lines", .plain 'w' "words", .plain 'L' "max-line-length",
     .onlyNameWithValue "files0-from", .onlyNameWithValue "total", .onlyName "debug"] words
  let chosen := ["lines", "words", "chars", "bytes", "max-line-length"].filter a.has
  let columns := if chosen.isEmpty then ["lines", "words", "bytes"] else chosen
  let total := (a.value? "total").getD "auto"
  if !(["auto", "always", "only", "never"].contains total) then do
    warn ("invalid argument " ++ Quoted.plain total ++ " for " ++ Quoted.plain "--total")
    message "Valid arguments are:\n  - 'auto'\n  - 'always'\n  - 'only'\n  - 'never'\n"
    seeHelp 1
  let files ← match a.value? "files0-from" with
    | none => pure (inputs a.operands)
    | some f => do
      if !a.operands.isEmpty then do
        warn ("extra operand " ++ Quoted.always (a.operands.head?.getD ""))
        message "file operands cannot be combined with --files0-from\n"
        seeHelp 1
      match ← readWhole f with
      | .ok text => pure ((text.splitOn "\x00").filter fun n => !n.isEmpty)
      | .error e => fail 1 ("cannot open " ++ Quoted.always f ++ " for reading: " ++ e.notice)
  let width ← if total = "only" then pure 1
    else if files.length ≤ 1 && columns.length = 1 then pure 1
    else do
      let isListed ← match a.value? "files0-from" with
        | none => pure true
        | some f => do
          let r ← statOfInput f
          pure (match r with
            | .ok st => isPlain st
            | .error _ => false)
      let stats ← files.mapM statOfInput
      pure (if isListed then numberWidth stats else 1)
  let number (k : Counts) (column : String) : Nat :=
    match column with
    | "lines" => k.lines
    | "words" => k.words
    | "max-line-length" => k.longest
    | _ => k.bytes
  let row (k : Counts) (label : Octets) : Octets :=
    " ".intercalate (columns.map fun c => inColumn width (number k c)) ++
      (if label.isEmpty then "" else " " ++ label) ++ "\n"
  let mut sum : Counts := {}
  for path in files do
    match ← openInput path with
    | .error e => complain 1 (Quoted.forShell path ++ ": " ++ e.notice)
    | .ok fd => do
      let (k, problem) ← countFrom fd Act.fuel {}
      closeInput fd
      match problem with
      | some e => complain 1 (Quoted.forShell path ++ ": " ++ e.notice)
      | none => pure ()
      if total ≠ "only" then
        print (row k (if a.operands.isEmpty && !a.has "files0-from" then "" else Quoted.forShell path))
      sum := { sum with lines := sum.lines + k.lines, words := sum.words + k.words, bytes := sum.bytes + k.bytes
                        longest := max sum.longest k.longest }
  if total = "always" || total = "only" || (total = "auto" && 1 < files.length) then
    print (row sum (if total = "only" then "" else "total"))

end Columns

/-! ## Parts of lines -/

/-- Numbers from one on, up to one if there is an end. -/
abbrev Ranges := List (Nat × Option Nat)

namespace Ranges

inductive Problem where
  | zero
  | twoDashes
  | noEndpoint
  | decreasing
  | notNumber (rest : List Char)
  | empty

/-- A range that is being read. -/
structure Draft where
  low : Option Nat := none
  high : Option Nat := none
  hasDash : Bool := false

def Draft.finish (d : Draft) : Except Problem (Nat × Option Nat) :=
  if d.hasDash then
    match d.low, d.high with
    | none, none => .error .noEndpoint
    | some l, none => .ok (l, none)
    | l, some h =>
      if h < l.getD 1 then .error .decreasing else .ok (l.getD 1, some h)
  else
    match d.low with
    | some 0 => .error .zero
    | some n => .ok (n, some n)
    | none => .error .zero

/-- Reads ranges, between which there are commas. -/
def readOn : List Char → Draft → Ranges → Except Problem Ranges
  | [], d, found =>
    match d.finish with
    | .ok r => .ok (found ++ [r])
    | .error e => .error e
  | c :: cs, d, found =>
    if c = '-' then
      if d.hasDash then .error .twoDashes
      else if d.low = some 0 then .error .zero
      else readOn cs { d with hasDash := true } found
    else if c = ',' || c = ' ' || c = '\t' then
      match d.finish with
      | .ok r => readOn cs {} (found ++ [r])
      | .error e => .error e
    else if c.isDigit then
      let n := c.toNat - 48
      if d.hasDash then readOn cs { d with high := some (d.high.getD 0 * 10 + n) } found
      else readOn cs { d with low := some (d.low.getD 0 * 10 + n) } found
    else .error (.notNumber (c :: cs))

def has (r : Ranges) (n : Nat) : Bool := r.any fun (low, high) => low ≤ n && (high.all fun h => n ≤ h)

def Problem.text (isFields : Bool) : Problem → Octets
  | zero => if isFields then "fields are numbered from 1" else "byte/character positions are numbered from 1"
  | twoDashes => if isFields then "invalid field range" else "invalid byte or character range"
  | noEndpoint => "invalid range with no endpoint: -"
  | decreasing => "invalid decreasing range"
  | notNumber rest =>
    (if isFields then "invalid field value " else "invalid byte/character position ") ++
      Quoted.plain (String.ofList rest)
  | empty => if isFields then "missing list of fields" else "missing list of byte/character positions"

end Ranges

namespace Columns

/-- The fields of a line. -/
def divide (delimiter : Char) (cs : List Char) : List (List Char) :=
  match cs.span (· != delimiter) with
  | (field, []) => [field]
  | (field, _ :: rest) => field :: divideOn rest.length rest
where
  divideOn : Nat → List Char → List (List Char)
    | 0, cs => [cs]
    | fuel + 1, cs =>
      match cs.span (· != delimiter) with
      | (field, []) => [field]
      | (field, _ :: rest) => field :: divideOn fuel rest

def joined (between : List Char) : List (List Char) → List Char
  | [] => []
  | [t] => t
  | t :: rest => t ++ between ++ joined between rest

/-- `cut`: parts of each line. -/
def cut (_ : Runner) (words : List Octets) : Tool Unit := do
  let a ← arguments 1
    [.withValue 'b' "bytes", .withValue 'c' "characters", .withValue 'f' "fields",
     .withValue 'd' "delimiter", .onlyLetter 'n',
     .plain 's' "only-delimited", .onlyName "complement", .onlyNameWithValue "output-delimiter",
     .plain 'z' "zero-terminated"]
    words
  let lists := a.given.filter fun g => ["bytes", "characters", "fields"].contains g.key
  if 1 < lists.length then misuse 1 "only one list may be specified"
  match a.value? "delimiter" with
  | some d => if 1 < d.length then misuse 1 "the delimiter must be a single character"
  | none => pure ()
  let (key, text) ← match lists.head? with
    | some ⟨k, some t⟩ => pure (k, t)
    | _ => misuse 1 "you must specify a list of bytes, characters, or fields"
  let isFields := key = "fields"
  if !isFields && a.has "delimiter" then
    misuse 1 "an input delimiter may be specified only when operating on fields"
  if !isFields && a.has "only-delimited" then
    misuse 1 "suppressing non-delimited lines makes sense\n\tonly when operating on fields"
  let ranges ← match Ranges.readOn text.toList {} [] with
    | .ok r => pure r
    | .error e => misuse 1 (e.text isFields)
  let chosen (n : Nat) : Bool := ranges.has n != a.has "complement"
  let delimiter := ((a.value? "delimiter").map fun d => d.toList.head?.getD '\x00').getD '\t'
  let mark := if a.has "zero-terminated" then '\x00' else '\n'
  let between := ((a.value? "output-delimiter").map String.toList)
  let fieldLine (line : List Char) : Option (List Char) :=
    if line.contains delimiter then
      let fields := (divide delimiter line).zipIdx.filter fun (_, n) => chosen (n + 1)
      some (joined (between.getD [delimiter]) (fields.map (·.1)))
    else if a.has "only-delimited" then none
    else some line
  let byteLine (line : List Char) : List Char :=
    match between with
    | none => (line.zipIdx.filter fun (_, n) => chosen (n + 1)).map (·.1)
    | some sep =>
      let marks := line.zipIdx.map fun (c, n) => (c, chosen (n + 1), ranges.any (fun r => r.1 = n + 1) || !chosen n)
      let (out, _) := marks.foldl (fun (out, any) (c, isIn, starts) =>
        if !isIn then (out, any)
        else if any && starts then (c :: sep.reverse ++ out, true) else (c :: out, true)) (([] : List Char), false)
      out.reverse
  foldFiles mark (fun _ line _ => do
    if isFields then
      match fieldLine line with
      | some text => print (marked mark text)
      | none => pure ()
    else print (marked mark (byteLine line))) (inputs a.operands) ()

end Columns

end DataplaneVerdict.Host.Tool
