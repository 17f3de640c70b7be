import DataplaneVerdict.Yaml.Schema

/-!
# `Yaml.Node` — the nodes of a document
-/

namespace DataplaneVerdict.Yaml

inductive Style where
  | plain | single | double | literal | folded
deriving DecidableEq, Inhabited

/-- An anchor; its number tells two of one name apart. -/
structure Anchor where
  name : String
  number : Nat := 0
deriving DecidableEq

/-- What a node carries besides its content. -/
structure Marks where
  anchor : Option Anchor := none
  tag : Option String := none
  spaceBefore : Bool := false
  commentBefore : String := ""
  comment : String := ""
deriving Inhabited

def joinComments (a b : String) : String :=
  if a.isEmpty then b else if b.isEmpty then a else a ++ "\n" ++ b

/-- The nodes of a document. -/
inductive Node where
  | scalar (value : ScalarValue) (style : Style) (source : Option String) (marks : Marks)
  | aliasOf (name : String) (target : Option Nat) (marks : Marks)
  | map (isSet : Bool) (pairs : List (Node × Option Node)) (marks : Marks)
  | sequence (items : List Node) (marks : Marks)
  | pairs (ordered : Bool) (items : List (Node × Option Node)) (marks : Marks)

instance : Inhabited Node := ⟨.aliasOf "" none {}⟩

namespace Node

def marks : Node → Marks
  | scalar _ _ _ m => m
  | aliasOf _ _ m => m
  | map _ _ m => m
  | sequence _ m => m
  | pairs _ _ m => m

def withMarks (m : Marks) : Node → Node
  | scalar v st s _ => scalar v st s m
  | aliasOf n t _ => aliasOf n t m
  | map b ps _ => map b ps m
  | sequence xs _ => sequence xs m
  | pairs b ps _ => pairs b ps m

def addComment (c : String) (n : Node) : Node :=
  n.withMarks { n.marks with comment := joinComments n.marks.comment c }

def isScalar : Node → Bool
  | scalar _ _ _ _ => true
  | _ => false

def isCollection : Node → Bool
  | map _ _ _ => true
  | sequence _ _ => true
  | pairs _ _ _ => true
  | _ => false

def sameKey : Node → Node → Bool
  | scalar v _ _ _, scalar w _ _ _ => v.sameKey w
  | _, _ => false

def isNothing : Option Node → Bool
  | none => true
  | some (scalar .null _ _ m) => m.tag.isNone && m.commentBefore.isEmpty && m.comment.isEmpty
  | some _ => false

/-! ## Anchors -/

/-- The anchors of a document, numbered in order. -/
structure Anchors where
  count : Nat := 0
  named : List (String × Nat) := []
  nodes : List (Nat × Node) := []

mutual

def number : Nat → Node → StateM Anchors Node
  | 0, n => pure n
  | fuel + 1, n => do
    let marks ← match n.marks.anchor with
      | none => pure n.marks
      | some a => do
        let s ← get
        set { s with count := s.count + 1, named := (a.name, s.count) :: s.named }
        pure { n.marks with anchor := some ⟨a.name, s.count⟩ }
    let result ← match n with
      | scalar v st s _ => pure (scalar v st s marks)
      | aliasOf name _ _ => do
        let s ← get
        pure (aliasOf name (s.named.lookup name) marks)
      | map b ps _ => do
        let ps ← numberPairs fuel ps
        pure (map b ps marks)
      | sequence xs _ => do
        let xs ← numberItems fuel xs
        pure (sequence xs marks)
      | pairs b ps _ => do
        let ps ← numberPairs fuel ps
        pure (pairs b ps marks)
    match marks.anchor with
    | none => pure ()
    | some a => modify fun s => { s with nodes := (a.number, result) :: s.nodes }
    pure result

def numberItems : Nat → List Node → StateM Anchors (List Node)
  | 0, xs => pure xs
  | _ + 1, [] => pure []
  | fuel + 1, n :: rest => do
    let n ← number fuel n
    let rest ← numberItems fuel rest
    pure (n :: rest)

def numberPairs : Nat → List (Node × Option Node) → StateM Anchors (List (Node × Option Node))
  | 0, ps => pure ps
  | _ + 1, [] => pure []
  | fuel + 1, (k, v) :: rest => do
    let k ← number fuel k
    let v ← match v with
      | none => pure none
      | some v => do
        let v ← number fuel v
        pure (some v)
    let rest ← numberPairs fuel rest
    pure ((k, v) :: rest)

end

/-- Gives each anchor a number and each mention the number it means. -/
def numbered (fuel : Nat) (n : Node) : Node × List (Nat × Node) :=
  let (n, s) := (number fuel n).run {}
  (n, s.nodes)

end Node

end DataplaneVerdict.Yaml
