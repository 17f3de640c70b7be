import DataplaneVerdict.Host.Image
import DataplaneVerdict.Shell.Redirect

/-!
# `Shell.Builtin` — what builtin commands have in common
-/

namespace DataplaneVerdict.Shell

open Host

/-- What builtin commands need of the shell around them. -/
structure Services where
  exec : Exec
  substitute : Substitute
  evaluate : (text : String) → (isTested : Bool) → Sh Nat
  evaluateFile : (path : String) → Sh Nat

namespace Builtin

/-- Options by their letters; a colon behind a letter wants a value. -/
def readOptions (spec : List Char) :
    Nat → (letters : List Char) → (args : List String) → List (Char × String) → Sh (List (Char × String) × List String)
  | 0, _, args, found => pure (found.reverse, args)
  | fuel + 1, [], args, found =>
    match args with
    | [] => pure (found.reverse, [])
    | a :: rest =>
      match a.toList with
      | ['-', '-'] => pure (found.reverse, rest)
      | '-' :: c :: cs => readOptions spec fuel (c :: cs) rest found
      | _ => pure (found.reverse, args)
  | fuel + 1, c :: cs, args, found =>
    if c = ':' || !spec.contains c then Sh.error ("Illegal option -" ++ String.singleton c)
    else if ((spec.dropWhile (· != c)).drop 1).head? = some ':' then
      if !cs.isEmpty then readOptions spec fuel [] args ((c, String.ofList cs) :: found)
      else
        match args with
        | a :: rest => readOptions spec fuel [] rest ((c, a) :: found)
        | [] => Sh.error ("No arg for -" ++ String.singleton c ++ " option")
    else readOptions spec fuel cs args ((c, "") :: found)

def options (spec : String) (args : List String) : Sh (List (Char × String) × List String) :=
  readOptions spec.toList (args.foldl (fun (n : Nat) a => n + a.length + 2) 2) [] args []

/-- A text as it can be read back. -/
def singleQuoted (s : String) : String :=
  let rec go : Nat → List Char → List Char
    | 0, _ => []
    | fuel + 1, cs =>
      let plain := cs.takeWhile (· != '\'')
      let rest := cs.drop plain.length
      let quotes := rest.takeWhile (· == '\'')
      let head := '\'' :: plain ++ ['\'']
      if quotes.isEmpty then head
      else
        let rest := rest.drop quotes.length
        let head := head ++ '"' :: quotes ++ ['"']
        if rest.isEmpty then head else head ++ go fuel rest
  String.ofList (go (s.length + 1) s.toList)

/-- A number that is an argument. -/
def number (s : String) : Sh Int :=
  match Arithmetic.number? 10 s with
  | some n => if n < 0 || 2147483647 < n then Sh.error ("Illegal number: " ++ s) else pure n
  | none => Sh.error ("Illegal number: " ++ s)

def isOctal (c : Char) : Bool := '0' ≤ c && c ≤ '7'

def scanOctal (cs : List Char) : Char × List Char :=
  let ds := (cs.take 3).takeWhile isOctal
  (Char.ofNat (ds.foldl (fun n c => n * 8 + (c.toNat - 48)) 0 % 256), cs.drop ds.length)

def escape (cs : List Char) : Char × List Char :=
  match cs with
  | [] => ('\\', [])
  | c :: rest =>
    if isOctal c then scanOctal cs
    else
      match c with
      | '\\' => ('\\', rest)
      | 'a' => ('\x07', rest)
      | 'b' => ('\x08', rest)
      | 'e' => ('\x1b', rest)
      | 'f' => ('\x0c', rest)
      | 'n' => ('\n', rest)
      | 'r' => ('\r', rest)
      | 't' => ('\t', rest)
      | 'v' => ('\x0b', rest)
      | _ => ('\\', cs)

/-- A text without escapes, and whether one has ended it. -/
def unescape (cs : List Char) : List Char × Bool :=
  let rec go : Nat → List Char → List Char → List Char × Bool
    | 0, _, acc => (acc.reverse, false)
    | _ + 1, [], acc => (acc.reverse, false)
    | fuel + 1, '\\' :: cs, acc =>
      match cs with
      | 'c' :: _ => (acc.reverse, true)
      | '0' :: d :: rest =>
        if isOctal d then
          let (c, rest) := scanOctal (d :: rest)
          go fuel rest (c :: acc)
        else
          let (c, rest) := escape cs
          go fuel rest (c :: acc)
      | _ =>
        let (c, rest) := escape cs
        go fuel rest (c :: acc)
    | fuel + 1, c :: cs, acc => go fuel cs (c :: acc)
  go (cs.length + 1) cs []

end Builtin

end DataplaneVerdict.Shell
