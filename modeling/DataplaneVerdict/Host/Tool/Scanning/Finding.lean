import DataplaneVerdict.Host.Tool.Scanning.Program

/-!
# `Host.Tool.Scanning.Finding` — patterns of scanning programs
-/

namespace DataplaneVerdict.Host.Tool.Scanning

namespace Finding

/-! ## Reading -/

/-- How a problem with an expression is worded. -/
def complaint : Regex.Problem → Octets
  | .unmatchedParen => "missing ')'"
  | .badRepetition => "missing operand"
  | _ => "bad class -- [], [^] or ["

/-- Whether something in an expression is left empty. -/
def hasGap : Regex → Bool
  | .alt a b => isNothing a || isNothing b || hasGap a || hasGap b
  | .group _ r => isNothing r || hasGap r
  | .cat a b => hasGap a || hasGap b
  | .times r _ _ => hasGap r
  | _ => false
where
  isNothing : Regex → Bool
    | .empty => true
    | _ => false

def compile (source : Octets) : Except Octets Pattern :=
  let cs := source.toList
  let backslashes := (cs.reverse.takeWhile (· == '\\')).length
  let text := if backslashes % 2 = 1 then cs ++ ['\\'] else cs
  if text.take 2 = ['^', '*'] || text.take 2 = ['^', '+'] then .error "syntax error ^* or ^+"
  else
    match Regex.parse Regex.scanning text with
    | .error e => .error (complaint e)
    | .ok p =>
      if hasGap p.regex then .error "missing operand"
      else .ok ⟨source, Automaton.ofRegex p.regex p.groups⟩

def refusal (source why : Octets) : Octets := "regular expression compile failed (" ++ why ++ ")\n" ++ source

end Finding

/-! ## Dividing -/

/-- What stands between fields. -/
inductive Divider where
  | blanks
  | chars
  | char (c : Char)
  | pattern (m : Automaton)

namespace Divider

def ofText (s : Octets) : Except Octets Divider :=
  match s.toList with
  | [] => .ok .chars
  | [' '] => .ok .blanks
  | [c] => .ok (.char c)
  | _ => (Finding.compile s).map fun p => .pattern p.automaton

/-- The texts between the matches of an expression. -/
def between (m : Automaton) (text : Array Char) : Nat → (start at_ : Nat) → List Octets
  | 0, _, _ => []
  | fuel + 1, start, at_ =>
    let part (upto : Nat) : Octets := String.ofList (text.extract start upto).toList
    match m.span? text at_ with
    | none => [part text.size]
    | some (s, e) =>
      if s = e then (if s < text.size then between m text fuel start (s + 1) else [part text.size])
      else part s :: between m text fuel e e

def atChar (c : Char) : List Char → List Char → List Octets
  | [], part => [String.ofList part.reverse]
  | x :: rest, part => if x = c then String.ofList part.reverse :: atChar c rest [] else atChar c rest (x :: part)

/-- The words between blanks. -/
def words (isBlank : Char → Bool) : List Char → List Char → List Octets
  | [], word => if word.isEmpty then [] else [String.ofList word.reverse]
  | x :: rest, word =>
    if isBlank x then (if word.isEmpty then words isBlank rest []
      else String.ofList word.reverse :: words isBlank rest [])
    else words isBlank rest (x :: word)

/-- The fields of a text. -/
def divide (d : Divider) (s : Octets) : List Octets :=
  if s.isEmpty then []
  else
    match d with
    | .blanks => words (fun c => c = ' ' || c = '\t' || c = '\n') s.toList []
    | .chars => s.toList.map String.singleton
    | .char c => atChar c s.toList []
    | .pattern m =>
      let text := s.toList.toArray
      between m text (2 * text.size + 2) 0 0

end Divider

end DataplaneVerdict.Host.Tool.Scanning
