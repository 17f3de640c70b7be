import DataplaneVerdict.Yaml.FlowText

/-!
# `Yaml.Data` — the data of a document

Nodes become data: aliases stand for what their anchor names, merge keys add the fields that are not there yet, and the
keys of a map become texts.
-/

namespace DataplaneVerdict.Yaml

/-- A value as read: what can be mentioned twice carries an identity. -/
inductive Datum where
  | undefined
  | null
  | bool (b : Bool)
  | number (n : Number)
  | text (s : String)
  | bytes (identity : Nat) (b : Bytes)
  | time (identity : Nat) (ms : Int)
  | mergeMark (identity : Nat)
  | list (identity : Nat) (items : List Datum)
  | record (identity : Nat) (fields : List (String × Datum))
  | set (identity : Nat) (members : List Datum)
  | orderedMap (identity : Nat) (entries : List (Datum × Datum))
deriving Inhabited

namespace Datum

def identity? : Datum → Option Nat
  | bytes i _ => some i
  | time i _ => some i
  | mergeMark i => some i
  | list i _ => some i
  | record i _ => some i
  | set i _ => some i
  | orderedMap i _ => some i
  | _ => none

/-- Equality of map keys: by value for scalars, by identity otherwise. -/
def same : Datum → Datum → Bool
  | undefined, undefined => true
  | null, null => true
  | bool a, bool b => a == b
  | number a, number b => Number.eq a b || (a = .nan && b = .nan)
  | text a, text b => a == b
  | a, b =>
    match a.identity?, b.identity? with
    | some i, some j => i == j
    | _, _ => false

/-- A datum as it stands so far, for one that is still being built. -/
def present (building : List (Nat × Datum)) (d : Datum) : Datum := (d.identity?.bind fun i => building.lookup i).getD d

/-- The text of a datum used as a field name. -/
def fieldText (building : List (Nat × Datum)) : Nat → (around : List Nat) → Datum → Except String String
  | 0, _, _ => .error "The document is nested too deeply"
  | fuel + 1, around, d =>
    match d.present building with
    | undefined => .ok "undefined"
    | null => .ok "null"
    | bool b => .ok (if b then "true" else "false")
    | number n => .ok n.text
    | text s => .ok s
    | bytes _ b => .ok (Utf8.decode b)
    | time _ ms => .ok (Timestamp.longText ms)
    | mergeMark _ => .error "A merge mark has no text"
    | list i items =>
      if around.contains i then .ok ""
      else do
        let texts ← items.mapM fun
          | null => pure ""
          | undefined => pure ""
          | d => fieldText building fuel (i :: around) d
        pure (Text.join "," texts)
    | record _ fields =>
      if (fields.lookup "toString").isSome then .error "The record has no text" else .ok "[object Object]"
    | set _ _ => .ok "[object Set]"
    | orderedMap _ _ => .ok "[object Map]"

def fieldName (building : List (Nat × Datum)) (fuel : Nat) : Datum → Except String (Option String)
  | mergeMark _ => .ok none
  | d => (d.fieldText building fuel []).map some

def elements? : Datum → Option (List Datum)
  | text s => some (s.toList.map fun c => .text (String.ofList [c]))
  | bytes _ b => some (b.map fun x => .number (Number.ofNat x.toNat))
  | list _ items => some items
  | set _ members => some members
  | orderedMap i entries => some (entries.map fun (k, v) => .list i [k, v])
  | _ => none

/-- Replaces the entry of a key, or adds one at the end. -/
def setEntry (key value : Datum) : List (Datum × Datum) → List (Datum × Datum)
  | [] => [(key, value)]
  | (k, v) :: rest => if k.same key then (k, value) :: rest else (k, v) :: setEntry key value rest

def bytesMembers : List String :=
  let reads := ["UIntLE", "UInt32LE", "UInt16LE", "UInt8", "UIntBE", "UInt32BE", "UInt16BE",
    "UintLE", "Uint32LE", "Uint16LE",
    "Uint8", "UintBE", "Uint32BE", "Uint16BE", "IntLE", "Int32LE", "Int16LE", "Int8", "IntBE", "Int32BE", "Int16BE"]
  let wide := ["BigUInt64LE", "BigUInt64BE", "BigUint64LE", "BigUint64BE", "BigInt64LE", "BigInt64BE"]
  let fractions := ["FloatLE", "FloatBE", "DoubleLE", "DoubleBE"]
  let encodings := ["ascii", "base64", "base64url", "latin1", "hex", "ucs2", "utf8"]
  wide.map ("read" ++ ·) ++ wide.map ("write" ++ ·) ++ reads.map ("read" ++ ·) ++ reads.map ("write" ++ ·) ++
    fractions.map ("read" ++ ·) ++ fractions.map ("write" ++ ·) ++ encodings.map (· ++ "Slice") ++
      encodings.map (· ++ "Write") ++
    ["parent", "offset", "copy", "toString", "equals", "inspect", "compare", "lastIndexOf",
     "indexOf", "includes", "fill",
      "write", "toJSON", "subarray", "slice", "swap16", "swap32", "swap64", "toLocaleString"]

def bytesFields (b : Bytes) : List (String × Value) :=
  ((List.range b.length).map Number.natText ++ bytesMembers).map fun name => (name, .num 0)

mutual

/-- What the caller of the reader receives. -/
def toValue : Datum → Value
  | undefined => .undefined
  | null => .null
  | bool b => .bool b
  | number n => .num n
  | text s => .str s
  | bytes _ b => .object (bytesFields b)
  | time _ _ => .special .date
  | mergeMark _ => .special .symbol
  | list _ items => .list (itemValues items)
  | record _ fields => .object (fieldValues fields)
  | set _ _ => .special .set
  | orderedMap _ _ => .special .map

def itemValues : List Datum → List Value
  | [] => []
  | d :: rest => toValue d :: itemValues rest

def fieldValues : List (String × Datum) → List (String × Value)
  | [] => []
  | (k, d) :: rest => (k, toValue d) :: fieldValues rest

end

end Datum

/-! ## Reading -/

structure Source where
  writer : Writer
  nodes : List (Nat × Node)

/-- An anchored node's value and how often it is mentioned. -/
structure Anchored where
  value : Datum
  uses : Nat := 1
  weight : Nat := 0

/-- The values of anchors so far, and the collections still open. -/
structure Readings where
  seen : List (Nat × Anchored) := []
  identity : Nat := 0
  building : List (Nat × Datum) := []

abbrev Reading := StateT Readings (Except String)

def freshIdentity : Reading Nat := do
  let s ← get
  set { s with identity := s.identity + 1 }
  pure s.identity

/-- Lets a collection be mentioned inside itself. -/
def noteSoFar (d : Datum) : Reading Unit :=
  match d.identity? with
  | some i => modify fun s => { s with building := (i, d) :: s.building.filter fun e => e.1 ≠ i }
  | none => pure ()

def complete (d : Datum) : Reading Datum := do
  match d.identity? with
  | some i => modify fun s => { s with building := s.building.filter fun e => e.1 ≠ i }
  | none => pure ()
  pure d

/-- Above this the mentions of anchors count as an attack. -/
def mostAliases : Nat := 100

def Readings.put (s : Readings) (number : Nat) (a : Anchored) : Readings :=
  { s with seen := (number, a) :: s.seen.filter fun e => e.1 ≠ number }

/-- Whether a node mentions an anchor inside itself. -/
def Node.mentions (number : Nat) : Nat → Node → Bool
  | 0, _ => false
  | _ + 1, .scalar _ _ _ _ => false
  | _ + 1, .aliasOf _ target _ => target = some number
  | fuel + 1, .sequence items _ => items.any (mentions number fuel)
  | fuel + 1, .map _ ps _ => ps.any fun (k, v) => mentions number fuel k || v.any (mentions number fuel)
  | fuel + 1, .pairs _ ps _ => ps.any fun (k, v) => mentions number fuel k || v.any (mentions number fuel)

/-- How often the most repeated node inside is written out. -/
def Node.weight (seen : List (Nat × Anchored)) : Nat → Node → Nat
  | 0, _ => 1
  | _ + 1, .scalar _ _ _ _ => 1
  | _ + 1, .aliasOf _ target _ =>
    match target.bind fun t => seen.lookup t with
    | some a => a.uses * a.weight
    | none => 0
  | fuel + 1, .sequence items _ => items.foldl (fun m n => max m (weight seen fuel n)) 0
  | fuel + 1, .map _ ps _ => pairsWeight fuel ps
  | fuel + 1, .pairs _ ps _ => pairsWeight fuel ps
where
  pairsWeight (fuel : Nat) (ps : List (Node × Option Node)) : Nat :=
    ps.foldl (fun m (k, v) => max m (max (Node.weight seen fuel k) ((v.map (Node.weight seen fuel)).getD 1))) 0

def isMergeKey (schema : Schema) : Node → Bool
  | .scalar .merge _ _ _ => true
  | .scalar (.text s) style _ _ => schema = .legacy && style = .plain && s = "<<"
  | _ => false

def scalarDatum (v : ScalarValue) : Reading Datum := do
  match v with
  | .null => pure .null
  | .bool b => pure (.bool b)
  | .number n _ _ => pure (.number n)
  | .text s => pure (.text s)
  | .bytes b => do
    let i ← freshIdentity
    pure (.bytes i b)
  | .time ms => do
    let i ← freshIdentity
    pure (.time i ms)
  | .merge => do
    let i ← freshIdentity
    pure (.mergeMark i)

/-- Adds the merged fields that a record does not have yet. -/
def addMissing (building : List (Nat × Datum)) (fuel : Nat) (fields : List (String × Datum)) :
    List (Datum × Datum) → Except String (List (String × Datum))
  | [] => .ok fields
  | (k, v) :: rest => do
    match ← k.fieldName building fuel with
    | some name => addMissing building fuel (if (fields.lookup name).isSome then fields else fields ++ [(name, v)]) rest
    | none => addMissing building fuel fields rest

def addMissingEntries (entries : List (Datum × Datum)) : List (Datum × Datum) → List (Datum × Datum)
  | [] => entries
  | (k, v) :: rest => addMissingEntries (if entries.any fun e => e.1.same k then entries else entries ++ [(k, v)]) rest

def memberEntries (building : List (Nat × Datum)) : List Datum → Except String (List (Datum × Datum))
  | [] => .ok []
  | d :: rest =>
    match (d.present building).elements? with
    | none => .error "Members of a merged set must be sequences"
    | some es => (memberEntries building rest).map fun entries =>
      (es[0]?.getD .undefined, es[1]?.getD .undefined) :: entries

def keyName (src : Source) (fuel : Nat) (node : Node) (key : Datum) : Except String String :=
  match key with
  | .undefined => .ok "undefined"
  | .null => .ok ""
  | .bool b => .ok (if b then "true" else "false")
  | .number n => .ok n.text
  | .text s => .ok s
  | .mergeMark _ => .ok "Symbol(<<)"
  | _ => src.writer.keyText fuel node

mutual

def readNode (src : Source) : Nat → Node → Reading Datum
  | 0, _ => throw "The document is nested too deeply"
  | fuel + 1, node => do
    match node.marks.anchor with
    | none => readBare src fuel node
    | some a =>
      let before ← get
      let hollow : Datum := match node with
        | .map false _ _ => .record before.identity []
        | .map true _ _ => .set before.identity []
        | .sequence _ _ => .list before.identity []
        | .pairs false _ _ => .list before.identity []
        | .pairs true _ _ => .orderedMap before.identity []
        | _ => .null
      let once (v : Datum) : Reading Datum := do
        set (before.put a.number { value := v })
        readBare src fuel node
      let value ← if node.mentions a.number fuel then do
          let a ← once hollow
          let b ← once a
          let c ← once b
          once c
        else once hollow
      modify fun s =>
        let entry : Anchored := (s.seen.lookup a.number).getD { value := value }
        s.put a.number { entry with value := value }
      pure value

/-- The value an anchor has, once it has been counted. -/
def readAlias (src : Source) : Nat → Option Nat → Reading Datum
  | 0, _ => throw "The document is nested too deeply"
  | fuel + 1, target => do
    match target.bind fun t => (src.nodes.lookup t).map fun n => (t, n) with
    | none => throw "Unresolved alias (the anchor must be set before the alias)"
    | some (t, node) =>
      let s ← get
      if (s.seen.lookup t).isNone then
        let _ ← readNode src fuel node
      let s ← get
      match s.seen.lookup t with
      | none => throw "Unresolved alias (the anchor must be set before the alias)"
      | some a =>
        let a := { a with uses := a.uses + 1 }
        let s := s.put t a
        let a := { a with weight := if a.weight = 0 then Node.weight s.seen fuel node else a.weight }
        set (s.put t a)
        if mostAliases < a.uses * a.weight then throw "Excessive alias count indicates a resource exhaustion attack"
        else pure a.value

def readBare (src : Source) : Nat → Node → Reading Datum
  | 0, _ => throw "The document is nested too deeply"
  | fuel + 1, node => do
    match node with
    | .scalar v _ _ _ => scalarDatum v
    | .aliasOf _ target _ => readAlias src fuel target
    | .sequence items _ =>
      let i ← freshIdentity
      let values ← readItems src fuel i items []
      complete (.list i values)
    | .pairs false ps _ =>
      let i ← freshIdentity
      let values ← readRecords src fuel i ps []
      complete (.list i values)
    | .pairs true ps _ =>
      let i ← freshIdentity
      let entries ← readOrdered src fuel (.orderedMap i) ps []
      complete (.orderedMap i entries)
    | .map true ps _ =>
      let i ← freshIdentity
      let members ← readMembers src fuel (.set i) ps []
      complete (.set i members)
    | .map false ps _ =>
      let i ← freshIdentity
      let fields ← readFields src fuel i ps []
      complete (.record i fields)

def readItems (src : Source) : Nat → (identity : Nat) → List Node → List Datum → Reading (List Datum)
  | 0, _, _, _ => throw "The document is nested too deeply"
  | fuel + 1, i, nodes, values => do
    noteSoFar (.list i values)
    match nodes with
    | [] => pure values
    | n :: rest => do
      let v ← readNode src fuel n
      readItems src fuel i rest (values ++ [v])

def readValue (src : Source) : Nat → Option Node → Reading Datum
  | 0, _ => throw "The document is nested too deeply"
  | _ + 1, none => pure .null
  | fuel + 1, some v => readNode src fuel v

def readFields (src : Source) : Nat → (identity : Nat) → List (Node × Option Node) → List (String × Datum) →
    Reading (List (String × Datum))
  | 0, _, _, _ => throw "The document is nested too deeply"
  | fuel + 1, i, ps, fields => do
    noteSoFar (.record i fields)
    match ps with
    | [] => pure fields
    | (k, v) :: rest =>
      if isMergeKey src.writer.schema k then do
        let entries ← mergedEntries src fuel v
        let fields ← addMissing (← get).building fuel fields entries
        readFields src fuel i rest fields
      else do
        let key ← readNode src fuel k
        let name ← keyName src fuel k key
        let value ← readValue src fuel v
        readFields src fuel i rest (Value.setField name value fields)

def readRecords (src : Source) : Nat → (identity : Nat) → List (Node × Option Node) → List Datum → Reading (List Datum)
  | 0, _, _, _ => throw "The document is nested too deeply"
  | fuel + 1, i, ps, values => do
    noteSoFar (.list i values)
    match ps with
    | [] => pure values
    | p :: rest => do
      let j ← freshIdentity
      let fields ← readFields src fuel j [p] []
      let v ← complete (.record j fields)
      readRecords src fuel i rest (values ++ [v])

def readOrdered (src : Source) : Nat → (soFar : List (Datum × Datum) → Datum) → List (Node × Option Node) →
    List (Datum × Datum) → Reading (List (Datum × Datum))
  | 0, _, _, _ => throw "The document is nested too deeply"
  | fuel + 1, soFar, ps, entries => do
    noteSoFar (soFar entries)
    match ps with
    | [] => pure entries
    | (k, v) :: rest => do
      let key ← readNode src fuel k
      let value ← readValue src fuel v
      if entries.any fun e => e.1.same key then throw "Ordered maps must not include duplicate keys"
      else readOrdered src fuel soFar rest (entries ++ [(key, value)])

def readMembers (src : Source) : Nat → (soFar : List Datum → Datum) → List (Node × Option Node) → List Datum →
    Reading (List Datum)
  | 0, _, _, _ => throw "The document is nested too deeply"
  | fuel + 1, soFar, ps, members => do
    noteSoFar (soFar members)
    match ps with
    | [] => pure members
    | (k, _) :: rest =>
      if isMergeKey src.writer.schema k then throw "Merge sources must be maps or map aliases"
      else do
        let key ← readNode src fuel k
        readMembers src fuel soFar rest (if members.any fun m => m.same key then members else members ++ [key])

def readEntries (src : Source) : Nat → List (Node × Option Node) → List (Datum × Datum) → Reading (List (Datum × Datum))
  | 0, _, _ => throw "The document is nested too deeply"
  | _ + 1, [], entries => pure entries
  | fuel + 1, (k, v) :: rest, entries => do
    if isMergeKey src.writer.schema k then
      let merged ← mergedEntries src fuel v
      readEntries src fuel rest (addMissingEntries entries merged)
    else
      let key ← readNode src fuel k
      let value ← readValue src fuel v
      readEntries src fuel rest (Datum.setEntry key value entries)

/-- The node a merge key points at. -/
def sourceNode (src : Source) : Nat → Node → Reading (Option Node)
  | 0, _ => throw "The document is nested too deeply"
  | fuel + 1, node => do
    match node with
    | .aliasOf _ target _ =>
      let _ ← readAlias src fuel target
      pure (target.bind fun t => src.nodes.lookup t)
    | n => pure (some n)

/-- The entries a merge key brings in. -/
def mergedEntries (src : Source) : Nat → Option Node → Reading (List (Datum × Datum))
  | 0, _ => throw "The document is nested too deeply"
  | _ + 1, none => throw "Merge sources must be maps or map aliases"
  | fuel + 1, some v => do
    match ← sourceNode src fuel v with
    | some (.sequence items _) => mergedAll src fuel items
    | some (.pairs _ [] _) => pure []
    | some n => mergedAll src fuel [n]
    | none => throw "Merge sources must be maps or map aliases"

def mergedAll (src : Source) : Nat → List Node → Reading (List (Datum × Datum))
  | 0, _ => throw "The document is nested too deeply"
  | _ + 1, [] => pure []
  | fuel + 1, n :: rest => do
    let entries ← match ← sourceNode src fuel n with
      | some (.map false ps _) => readEntries src fuel ps []
      | some (.map true ps _) => do
        let i ← freshIdentity
        let members ← readMembers src fuel (.set i) ps []
        let building := (← get).building
        let _ ← complete (.set i members)
        memberEntries building members
      | _ => throw "Merge sources must be maps or map aliases"
    let more ← mergedAll src fuel rest
    pure (entries ++ more)

end

def Node.toDatum (fuel : Nat) (writer : Writer) (node : Node) : Except String Datum :=
  let (node, nodes) := node.numbered fuel
  ((readNode ⟨writer, nodes⟩ fuel node).run {}).map (·.1)

end DataplaneVerdict.Yaml
