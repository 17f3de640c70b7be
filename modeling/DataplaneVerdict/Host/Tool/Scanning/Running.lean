import DataplaneVerdict.Host.Tool.Scanning.Grammar
import DataplaneVerdict.Host.Tool.Scanning.Machine

/-!
# `Host.Tool.Scanning.Running` — scanning programs at work
-/

namespace DataplaneVerdict.Host.Tool.Scanning

/-! ## Numbers -/

def Arithmetic.apply : Arithmetic → Float → Float → Float
  | add, x, y => x + y
  | sub, x, y => x - y
  | mul, x, y => x * y
  | div, x, y => x / y

def ofBool (b : Bool) : Value := .number (if b then 1 else 0)

def ofInt (n : Int) : Value := .number (Float.ofInt n)

def Relation.holds (r : Relation) (a b : Value) : Bool :=
  match r with
  | less => a.related b (· < ·) (· == .lt)
  | lessEq => a.related b (· ≤ ·) (· != .gt)
  | equal => a.related b (· == ·) (· == .eq)
  | notEqual => a.related b (· != ·) (· != .eq)
  | greaterEq => a.related b (· ≥ ·) (· != .lt)
  | greater => a.related b (· > ·) (· == .gt)

/-! ## References -/

/-- What can be assigned to. -/
inductive Reference where
  | place (name : String)
  | element (table : String) (key : Octets)
  | field (n : Nat)

def fetch : Reference → Run Value
  | .place name => getVariable name
  | .element t k => do return ((← get).elements[(t, k)]?).getD .unset
  | .field n => getField n

def store : Reference → Value → Run Unit
  | .place name, v => setVariable name v
  | .element t k, v => modify fun m => { m with elements := m.elements.insert (t, k) v }
  | .field n, v => setField n v

/-- What an expression refers to. -/
def resolve (eval : Expr → Run Value) : Expr → Run Reference
  | .var p => pure (.place p)
  | .element p key => do return .element p (← eval key).toText
  | .field e => do return .field (← fieldNumber (← eval e))
  | e => do
    let _ ← eval e
    failure "assignment to something that is no variable"

/-- The pattern that an expression stands for. -/
def patternFrom (eval : Expr → Run Value) : Expr → Run Pattern
  | .found p => pure p
  | e => do patternOf (← eval e).toText

/-! ## Evaluation -/

/-- Prints to the output, or to a file that stays open. -/
def putOut (text : Octets) (out : Option Octets) : Run Unit := do
  match out with
  | some "/dev/stderr" => tool (act (Act.put 2 text))
  | none => do
    tool (print text)
    checkOutput
  | some "/dev/stdout" => tool (print text)
  | some name => failure ("cannot open \"" ++ name ++ "\" for output")

/-- The value of an expression. -/
def evaluate : Nat → Expr → Run Value
  | 0, _ => fault "program is nested too deeply"
  | fuel + 1, e => do
    let eval := evaluate fuel
    match e with
    | .number x => pure (.number x)
    | .text s => pure (.text s)
    | .found p => do return ofBool (p.automaton.occursIn (← getField 0).toText.toList.toArray)
    | .assign place op value => do
      let r ← resolve eval place
      match op with
      | none => do
        let v ← eval value
        store r v
        pure v
      | some op => do
        let b := (← eval value).toFloat
        let a := (← fetch r).toFloat
        let v := Value.number (op.apply a b)
        store r v
        pure v
    | .either a b => do if (← eval a).isTrue then pure (ofBool true) else return ofBool (← eval b).isTrue
    | .both a b => do if (← eval a).isTrue then return ofBool (← eval b).isTrue else pure (ofBool false)
    | .negation a => do return ofBool !(← eval a).isTrue
    | .isMatch a b negated => do
      let s := (← eval a).toText
      let p ← patternFrom eval b
      pure (ofBool (p.automaton.occursIn s.toList.toArray != negated))
    | .compare r a b => do
      let x ← eval a
      let y ← eval b
      pure (ofBool (r.holds x y))
    | .join a b => do
      let x ← eval a
      let y ← eval b
      pure (.text (x.toText ++ y.toText))
    | .arithmetic op a b => do
      let x := (← eval a).toFloat
      let y := (← eval b).toFloat
      pure (.number (op.apply x y))
    | .minus a => do return .number (-(← eval a).toFloat)
    | .step place isUp isBefore => do
      let r ← resolve eval place
      let x := (← fetch r).toFloat
      let y := if isUp then x + 1 else x - 1
      store r (.number y)
      pure (.number (if isBefore then y else x))
    | place => do fetch (← resolve eval place)

/-- Carries out a statement. -/
def execute : Nat → Statement → Run Unit
  | 0, _ => fault "program is nested too deeply"
  | fuel + 1, s => do
    let eval := evaluate fuel
    let exec := execute fuel
    match s with
    | .value e => do let _ ← eval e
    | .print args out => do
      let values ← if args.isEmpty then pure [← getField 0] else args.mapM eval
      let between := (← rawVariable "OFS").toText
      let behind := (← rawVariable "ORS").toText
      putOut (between.intercalate (values.map Value.toText) ++ behind) (← out.mapM fun e => do return (← eval e).toText)
    | .choose c yes no => do
      if (← eval c).isTrue then exec yes
      else
        match no with
        | some s => exec s
        | none => pure ()
    | .block body => body.forM exec
    | .nextRecord => throw .record
    | .exit code => do
      match code with
      | some e => do
        let n := whole (← eval e).toFloat
        modify fun m => { m with code := (n % 256).toNat }
      | none => pure ()
      throw .exit

/-! ## Rules -/

def deepest : Nat := 1000000

/-- Carries out the rules that are for the record. -/
def applyRules : List Rule → Run Unit
  | [] => pure ()
  | r :: rest => do
    let isFor ← match r.condition with
      | none => pure true
      | some e => Value.isTrue <$> evaluate deepest e
    if isFor then execute deepest (r.body.getD (.print [] none))
    applyRules rest

/-- One record after the other. -/
def records (rules : List Rule) : Nat → Run Unit
  | 0 => pure ()
  | fuel + 1 => do
    match ← mainRecord Act.fuel with
    | none => pure ()
    | some text => do
      countUp "NR"
      countUp "FNR"
      setRecord text
      (applyRules rules).tryCatch fun leave =>
        match leave with
        | .record => pure ()
        | other => throw other
      records rules fuel

/-- Runs a part of a program; whether the next one follows. -/
def part (m : Run Unit) : Run Bool :=
  (do
    m
    pure false : Run Bool).tryCatch fun (leave : Leave) =>
      match leave with
      | .stop code => throw (Leave.stop code)
      | _ => pure true

def statements (body : List Statement) : Run Unit := body.forM (execute deepest)

/-- The parts of a program in their order. -/
def runProgram (p : Program) : Run Unit := do
  let isLeft ← part (statements p.before)
  if !(p.rules.isEmpty && p.after.isEmpty) then
    if !isLeft then
      let _ ← part (records p.rules Act.fuel)
    let _ ← part (statements p.after)

/-! ## The tool -/

structure Options where
  divider : Option Octets := none
  assignments : List Octets := []
  files : List Octets := []
  operands : List Octets := []

def usage : Octets :=
  "Usage: mawk [Options] [Program] [file ...]\n\nProgram:\n" ++
  "    The -f option value is the name of a file containing program text.\n" ++
  "    If no -f option is given, a \"--\" ends option processing; the following\n" ++
  "    parameters are the program text.\n\nOptions:\n" ++
  "    -f program-file  Program  text is read from file instead of from the\n" ++
  "                     command-line.  Multiple -f options are accepted.\n" ++
  "    -F value         sets the field separator, FS, to value.\n" ++
  "    -v var=value     assigns value to program variable var.\n" ++
  "    --               unambiguous end of options.\n"

/-- Reads options up to the first operand. -/
def readOptions : Nat → List Octets → Options → Tool Options
  | 0, _, o => pure o
  | _ + 1, [], o => pure o
  | fuel + 1, w :: rest, o => do
    match w.toList with
    | '-' :: letter :: value => do
      if w = "--" then pure { o with operands := rest }
      else if letter = 'F' || letter = 'v' || letter = 'f' then do
        let lacks : Tool Options := fail 2 ("option -" ++ String.singleton letter ++ " lacks argument")
        let use (value : Octets) (rest : List Octets) : Tool Options :=
          if letter = 'F' then readOptions fuel rest { o with divider := some value }
          else if letter = 'v' then readOptions fuel rest { o with assignments := o.assignments ++ [value] }
          else readOptions fuel rest { o with files := o.files ++ [value] }
        if !value.isEmpty then use (String.ofList value) rest
        else
          match rest with
          | [] => lacks
          | v :: rest => use v rest
      else fail 2 ("not an option: " ++ w)
    | _ => pure { o with operands := w :: rest }

def programFiles : List Octets → Tool (List (Option Octets × Octets))
  | [] => pure []
  | path :: rest => do
    match ← openInput path with
    | .error e => fail 2 ("cannot open \"" ++ path ++ "\" (" ++ e.notice ++ ")")
    | .ok fd => do
      let (text, problem) ← act (Act.readAll fd)
      closeInput fd
      match problem with
      | some e => fail 2 ("read error (" ++ e.notice ++ ")")
      | none => return (some path, text) :: (← programFiles rest)

def assignFirst (text : Octets) : Run Unit := do
  match assignment? text with
  | some (name, value) => setVariable name (.input (unescaped value))
  | none => failure ("improper assignment: -v " ++ text)

/-- A machine before anything has run. -/
def freshMachine (arguments : List Octets) (environment : List (Octets × Octets)) : Machine :=
  let texts : List (String × Octets) :=
    [("FS", " "), ("OFS", " "), ("ORS", "\n"), ("SUBSEP", "\x1c"), ("CONVFMT", "%.6g"), ("OFMT", "%.6g")]
  let values := texts.foldl (fun m (n, s) => m.insert n (Value.text s)) ({} : Std.HashMap String Value)
  let values := ((values.insert "NR" (.number 0)).insert "FNR" (.number 0)).insert "ARGC" (ofInt arguments.length)
  let elements := arguments.zipIdx.map (fun (a, i) => (("ARGV", toString i), Value.input a)) ++
    environment.map fun (n, v) => (("ENVIRON", n), Value.input v)
  { values := values, elements := .ofList elements }

/-- `awk`: runs a program on records. -/
def awk (_ : Runner) (words : List Octets) : Tool Unit := do
  let o ← readOptions (words.length + 1) words {}
  let called ← name
  let (texts, operands) ← if o.files.isEmpty then
      match o.operands with
      | [] => do
        message usage
        exit 0
      | text :: rest => pure ([(none, text)], rest)
    else do pure (← programFiles o.files, o.operands)
  let divider := o.divider.map unescaped
  match divider.map Divider.ofText with
  | some (.error why) => fail 2 ("line 0: " ++ Finding.refusal (divider.getD "") why)
  | _ => pure ()
  match Program.read texts with
  | .error text => fail 2 text
  | .ok p => do
    let start := freshMachine (called :: operands) (← get).environment
    let work : Run Unit := do
      match divider with
      | some d => setVariable "FS" (.text d)
      | none => pure ()
      for a in o.assignments do
        assignFirst a
      runProgram p
    let (r, m) ← work.run start
    let code := match r with
      | .error (.stop code) => code
      | _ => m.code
    exit (← finish code)

end DataplaneVerdict.Host.Tool.Scanning
