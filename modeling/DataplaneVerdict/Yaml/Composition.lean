import DataplaneVerdict.Yaml.Node
import DataplaneVerdict.Yaml.Properties
import DataplaneVerdict.Yaml.Scalar
import DataplaneVerdict.Yaml.Tag

/-!
# `Yaml.Composition` — from outlines to nodes

Composing checks the outline of a document against the rules of the language and turns it into nodes. Everything that
breaks a rule is a complaint; a document with a complaint is not well-formed.

A comment belongs to the node on its line, else to the node below it, else to the collection that it closes.
-/

namespace DataplaneVerdict.Yaml

/-- What composing a document gathers on its way. -/
structure Composer where
  schema : Schema
  handles : TagHandles
  atRoot : Bool := true
  atKey : Bool := false
  extraTags : List String := []
  complaints : List String := []

abbrev Compose := StateM Composer

/-- Records an error; composing goes on. -/
def complain (m : String) : Compose Unit := modify fun c => { c with complaints := m :: c.complaints }

def complainAll (ms : List String) : Compose Unit := modify fun c => { c with complaints := ms ++ c.complaints }

def complainIf (b : Bool) (m : String) : Compose Unit := if b then complain m else pure ()

/-- The properties before a node, their complaints recorded. -/
def readProps (lexemes : List Lexeme) (flow : Bool) (indicator : LexKind) (next : Next) (offset parentIndent : Nat)
    (startOnNewline : Bool) : Compose Props := do
  let (p, complaints) := Props.of lexemes flow indicator next offset parentIndent startOnNewline
  complainAll complaints
  pure p

def readRest (lexemes : List Lexeme) (offset : Nat) (needsSpace : Bool) : Compose Rest := do
  let r := Rest.of lexemes offset needsSpace
  complainAll r.complaints
  pure r

/-- The full name of a node's tag, if it has one. -/
def tagName (props : Props) : Compose (Option String) := do
  match props.tag with
  | none => pure none
  | some l =>
    let c ← get
    let (name, complaints) := c.handles.resolve l.text
    complainAll complaints
    pure name

def anchorOf (props : Props) : Option Anchor := props.anchor.map fun l => ⟨String.ofList (l.text.drop 1), 0⟩

/-- The tags a document may use beyond those of its schema. -/
def extraStandardTags : List String := ["binary", "merge", "omap", "pairs", "set", "timestamp"].map standardTag

def useTag (tag : String) : Compose Unit :=
  modify fun c => if extraStandardTags.contains tag then { c with extraTags := tag :: c.extraTags } else c

/-- A node with its anchor and its comment. -/
def withProps (props : Props) (written : Bool) (n : Node) : Node :=
  let m := n.marks
  let m := { m with
    anchor := (anchorOf props).orElse fun _ => m.anchor
    spaceBefore := props.spaceBefore || m.spaceBefore }
  let m := if props.comment.isEmpty then m
    else if written then { m with commentBefore := props.comment }
    else { m with comment := props.comment }
  n.withMarks m

/-- A scalar under its tag, or read by the schema when it has none. -/
def scalarNode (text : String) (style : Style) (comment : String) (props : Props) : Compose Node := do
  let name ← tagName props
  let c ← get
  let value ← match name with
    | some "!" => pure (ScalarValue.text text)
    | some t =>
      useTag t
      match c.schema.tagged t text with
      | .ok v => pure v
      | .error m => do
        complain m
        pure (ScalarValue.text text)
    | none => pure (if style = .plain then c.schema.plain c.atKey text else ScalarValue.text text)
  complainIf ((anchorOf props).map (·.name) = some "") "Anchor cannot be an empty string"
  pure (.scalar value style (some text) { tag := name, comment := comment })

def emptyPosition (offset : Nat) (before : List Lexeme) : Nat :=
  let units (ls : List Lexeme) : Nat := ls.foldl (fun n l => n + Text.unitCount l.text) 0
  let filler := (before.reverse.takeWhile isFiller).reverse
  let blanks := if filler.length = before.length then [] else filler.takeWhile fun l => l.kind = .space
  offset - units filler + units blanks

/-- The null that stands where nothing is written. -/
def emptyNode (before : List Lexeme) (props : Props) : Compose (Node × Nat) := do
  let n ← scalarNode "" .plain "" props
  pure (withProps props false n, if props.comment.isEmpty then emptyPosition props.stop before else props.stop)

def composeScalar (kind : LexKind) (offset : Nat) (text : List Char) (trailing : List Lexeme) (props : Props) :
    Compose (Node × Nat) := do
  let (written, style) := match kind with
    | .singleQuoted => (singleQuotedText text, Style.single)
    | .doubleQuoted => (doubleQuotedText text, Style.double)
    | _ => (plainText text, Style.plain)
  complainAll written.complaints
  let rest ← readRest trailing (offset + Text.unitCount text) true
  let node ← scalarNode (String.ofList written.text) style rest.comment props
  pure (withProps props (kind ≠ .plain || !text.isEmpty) node, rest.stop)

/-- A mention of an anchor: it may not carry properties of its own. -/
def composeAlias (offset : Nat) (text : List Char) (trailing : List Lexeme) (props : Props) : Compose (Node × Nat) := do
  complainIf (text.length ≤ 1) "Alias cannot be an empty string"
  let rest ← readRest trailing (offset + Text.unitCount text) true
  complainIf (props.anchor.isSome || props.tag.isSome) "An alias node must not specify any properties"
  let node := Node.aliasOf (String.ofList (text.drop 1)) none { comment := rest.comment }
  pure (withProps props true node, rest.stop)

def composeBlockScalar (offset indent : Nat) (lexemes : List Lexeme) (broken : Bool)
    (text : List Char) (props : Props) :
    Compose (Node × Nat) := do
  let c ← get
  let header := blockHeader lexemes broken
  let written := blockText c.atRoot indent header text
  complainAll written.complaints
  let node ← scalarNode (String.ofList written.text) (if header.folded then .folded else .literal) header.comment props
  pure (withProps props true node, offset + header.length + Text.unitCount text)

/-! ## Collections with a tag -/

/-- Whether two keys of a map are the same. -/
def hasRepeatedKey : List Node → Bool
  | [] => false
  | .scalar (.number .nan _ _) _ _ _ :: rest =>
    (rest.any fun
      | .scalar (.number .nan _ _) _ _ _ => true
      | _ => false) || hasRepeatedKey rest
  | k :: rest => rest.any (Node.sameKey k) || hasRepeatedKey rest

/-- An entry of an ordered map, written as a map of one pair. -/
def pairOf (item : Node) : Node × Option Node :=
  match item with
  | .map _ ps m =>
    let (k, v) := ps.head?.getD (.scalar .null .plain none {}, none)
    let k := k.withMarks { k.marks with commentBefore := joinComments m.commentBefore k.marks.commentBefore }
    match v with
    | some v => (k, some (v.withMarks { v.marks with comment := joinComments m.comment v.marks.comment }))
    | none => (k.withMarks { k.marks with comment := joinComments m.comment k.marks.comment }, none)
  | n => (n, none)

def hasSeveralPairs : Node → Bool
  | .map _ (_ :: _ :: _) _ => true
  | _ => false

/-- The tag `!` asks for the collection's own kind. -/
def collectionTag (kind : String) (tag : Option String) : Option String :=
  if tag = some "!" then some (standardTag kind) else tag

def typedMap (ps : List (Node × Option Node)) (tag : Option String) (comment : String) : Compose Node := do
  let marks : Marks := { tag := collectionTag "map" tag, comment := comment }
  if tag = some (standardTag "set") then
    useTag (standardTag "set")
    complainIf (!ps.all fun p => Node.isNothing p.2) "Set items must all have null values"
    pure (.map true ps marks)
  else pure (.map false ps marks)

/-- A sequence as its tag has it: pairs, an ordered map, or a plain one. -/
def typedSequence (items : List Node) (tag : Option String) (comment : String) : Compose Node := do
  let marks : Marks := { tag := collectionTag "seq" tag, comment := comment }
  let ordered := tag = some (standardTag "omap")
  if ordered || tag = some (standardTag "pairs") then
    useTag (tag.getD "")
    complainIf (items.any hasSeveralPairs) "Each pair must have its own sequence indicator"
    let ps := items.map pairOf
    complainIf (ordered && hasRepeatedKey (ps.map (·.1))) "Ordered maps must not include duplicate keys"
    pure (.pairs ordered ps marks)
  else pure (.sequence items marks)

def finishCollection (props : Props) (n : Node) : Compose Node := do
  complainIf ((anchorOf props).map (·.name) = some "") "Anchor cannot be an empty string"
  pure (withProps props true n)

/-! ## Composing -/

/-- A key without a mark may be no longer than this. -/
def longestKey : Nat := 1024

structure BlockEnd where
  offset : Nat
  commentStop : Option Nat := none
  comment : String := ""

structure FlowItems where
  pairs : List (Node × Option Node) := []
  nodes : List Node := []
  comment : String := ""
  stop : Nat

namespace FlowItems

def commentLast (isMap : Bool) (c : String) (f : FlowItems) : FlowItems :=
  if isMap then
    { f with pairs := match f.pairs.getLast? with
      | some (k, some v) => f.pairs.dropLast ++ [(k, some (v.addComment c))]
      | some (k, none) => f.pairs.dropLast ++ [(k.addComment c, none)]
      | none => f.pairs }
  else
    { f with nodes := match f.nodes.getLast? with
      | some n => f.nodes.dropLast ++ [n.addComment c]
      | none => f.nodes }

end FlowItems

def commaComment (start : List Lexeme) : String :=
  match start.dropWhile fun l => l.kind = .comma || l.kind = .space with
  | l :: _ => if l.kind = .comment then String.ofList (l.text.drop 1) else ""
  | [] => ""

def Props.dropComment (p : Props) (c : String) : Props :=
  { p with comment := String.ofList (p.comment.toList.drop (c.toList.length + 1)) }

mutual

/-- The node of a piece, and the offset at which it ends. -/
def composeNode : Nat → Piece → Props → Compose (Node × Nat)
  | 0, _, props => do
    complain "The document is nested too deeply"
    pure (default, props.stop)
  | fuel + 1, piece, props => do
    match piece with
    | .scalar .aliasMark offset _ text trailing => composeAlias offset text (trailing.getD []) props
    | .scalar kind offset _ text trailing => composeScalar kind offset text (trailing.getD []) props
    | .blockScalar offset indent header broken text => composeBlockScalar offset indent header broken text props
    | .misplaced m =>
      complain m
      emptyNode [] props
    | .blockMap offset indent items =>
      let tag ← tagName props
      modify fun c => { c with atRoot := false }
      let (pairs, comment, stop) ← composeMapItems fuel indent items { offset := offset } []
      let node ← typedMap pairs tag comment
      let node ← finishCollection props node
      pure (node, stop)
    | .blockSequence offset indent items =>
      let tag ← tagName props
      -- the line must end after the last anchor or tag
      let last := match props.anchor, props.tag with
        | some a, some t => if t.offset < a.offset then some a else some t
        | some a, none => some a
        | none, t => t
      match last, props.newlineAfterProp with
      | some l, some nl => complainIf (nl.offset < l.offset) "Missing newline after block sequence props"
      | some _, none => complain "Missing newline after block sequence props"
      | none, _ => pure ()
      modify fun c => { c with atRoot := false, atKey := false }
      let (nodes, comment, stop) ← composeSequenceItems fuel indent items { offset := offset } []
      let node ← typedSequence nodes tag comment
      let node ← finishCollection props node
      pure (node, stop)
    | .flow offset indent start items trailing =>
      let tag ← tagName props
      let isMap := start.kind = .flowMapStart
      modify fun c => { c with atRoot := false, atKey := false }
      let inside ← composeFlowItems fuel isMap indent items 0 items.length { stop := offset + 1 }
      let closer := if isMap then LexKind.flowMapEnd else LexKind.flowSequenceEnd
      let (stop, rest) ← match trailing with
        | [] => do
          complain "Flow collection must be closed"
          pure (inside.stop, [])
        | c :: rest =>
          if c.kind = closer then pure (c.offset + Text.unitCount c.text, rest)
          else do
            complain "Flow collection must be closed"
            pure (inside.stop, rest)
      let rest ← readRest rest stop true
      let comment := joinComments inside.comment rest.comment
      let node ← if isMap then typedMap inside.pairs tag comment else typedSequence inside.nodes tag comment
      let node ← finishCollection props node
      pure (node, rest.stop)

def composeMapItems : Nat → Nat → List (Item Piece) → BlockEnd → List (Node × Option Node) →
    Compose (List (Node × Option Node) × String × Nat)
  | 0, _, _, e, acc => do
    complain "The document is nested too deeply"
    pure (acc, e.comment, e.offset)
  | _ + 1, _, [], e, acc => do
    complainIf (match e.commentStop with
      | some c => c < e.offset
      | none => false) "Map comment with trailing content"
    pure (acc, e.comment, e.commentStop.getD e.offset)
  | fuel + 1, indent, it :: rest, e, acc => do
    let keyProps ← readProps it.start false .explicitKey (Next.of it.key it.sep) e.offset indent true
    let implicitKey := keyProps.found.isNone
    if implicitKey then
      match it.key with
      | some (.blockSequence _ _ _) => complain "A block sequence may not be used as an implicit map key"
      | some k => complainIf (match k.indent? with
          | some i => i ≠ indent
          | none => false) "All mapping items must start at the same column"
      | none => pure ()
    if implicitKey && keyProps.anchor.isNone && keyProps.tag.isNone && it.sep.isNone then
      composeMapItems fuel indent rest
        { e with commentStop := some keyProps.stop, comment := joinComments e.comment keyProps.comment } acc
    else
      if implicitKey then
        let broken := match it.key with
          | some k => containsNewline fuel k
          | none => false
        complainIf (keyProps.newlineAfterProp.isSome || broken) "Implicit keys need to be on a single line"
      else
        complainIf ((keyProps.found.map (·.indent)) ≠ some indent) "All mapping items must start at the same column"
      modify fun c => { c with atKey := true }
      let (key, keyStop) ← match it.key with
        | some k => composeNode fuel k keyProps
        | none => emptyNode it.start keyProps
      modify fun c => { c with atKey := false }
      complainIf (acc.any fun p => Node.sameKey p.1 key) "Map keys must be unique"
      let valueOnNewline := match it.key with
        | none => true
        | some (.blockScalar _ _ _ _ _) => true
        | some _ => false
      let valueProps ← readProps (it.sep.getD []) false .mapValue (Next.of it.value none) keyStop indent valueOnNewline
      match valueProps.found with
      | some found =>
        if implicitKey then
          complainIf ((Next.of it.value none).isBlock && (match it.value with
            | some (.blockMap _ _ _) => true
            | _ => false) && !valueProps.hasNewline) "Nested mappings are not allowed in compact mappings"
          complainIf (keyProps.start + longestKey < found.offset)
            "The : indicator must be at most 1024 chars after the key"
        let (value, stop) ← match it.value with
          | some v => composeNode fuel v valueProps
          | none => emptyNode (it.sep.getD []) valueProps
        composeMapItems fuel indent rest { e with offset := stop } (acc ++ [(key, some value)])
      | none =>
        complainIf implicitKey "Implicit map keys need to be followed by map values"
        composeMapItems fuel indent rest { e with offset := valueProps.stop }
          (acc ++ [(key.addComment valueProps.comment, none)])

def composeSequenceItems : Nat → Nat → List (Item Piece) → BlockEnd → List Node → Compose (List Node × String × Nat)
  | 0, _, _, e, acc => do
    complain "The document is nested too deeply"
    pure (acc, e.comment, e.offset)
  | _ + 1, _, [], e, acc => pure (acc, e.comment, e.commentStop.getD e.offset)
  | fuel + 1, indent, it :: rest, e, acc => do
    let props ← readProps it.start false .sequenceItem (Next.of it.value none) e.offset indent true
    let blank := props.found.isNone && props.anchor.isNone && props.tag.isNone && it.value.isNone
    if blank then
      composeSequenceItems fuel indent rest
        { e with
          commentStop := some props.stop
          comment := if props.comment.isEmpty then e.comment else props.comment } acc
    else
      complainIf props.found.isNone "Sequence item without - indicator"
      let (node, stop) ← match it.value with
        | some v => composeNode fuel v props
        | none => emptyNode it.start props
      composeSequenceItems fuel indent rest { e with offset := stop } (acc ++ [node])

def composeFlowItems : Nat → Bool → Nat → List (Item Piece) → Nat → Nat → FlowItems → Compose FlowItems
  | 0, _, _, _, _, _, acc => do
    complain "The document is nested too deeply"
    pure acc
  | _ + 1, _, _, [], _, _, acc => pure acc
  | fuel + 1, isMap, indent, it :: rest, index, count, acc => do
    let props ← readProps it.start true .explicitKey (Next.of it.key it.sep) acc.stop indent false
    let explicitKey := props.found.isSome
    if !explicitKey && props.anchor.isNone && props.tag.isNone && it.sep.isNone && it.value.isNone then
      if index = 0 && props.comma then complain "Unexpected , in flow collection"
      else complainIf (index + 1 < count) "Unexpected empty item in flow collection"
      composeFlowItems fuel isMap indent rest (index + 1) count
        { acc with stop := props.stop, comment := joinComments acc.comment props.comment }
    else
      if !explicitKey && !isMap then
        complainIf (match it.key with
          | some k => containsNewline fuel k
          | none => false) "Implicit keys of flow sequence pairs need to be on a single line"
      if index = 0 then complainIf props.comma "Unexpected , in flow collection"
      else complainIf (!props.comma) "Missing , between flow collection items"
      let moved := if index = 0 || props.comment.isEmpty then "" else commaComment it.start
      let acc := if moved.isEmpty then acc else acc.commentLast isMap moved
      let props := if moved.isEmpty then props else props.dropComment moved
      if !isMap && it.sep.isNone && !explicitKey then
        let (node, stop) ← match it.value with
          | some v => composeNode fuel v props
          | none => emptyNode [] props
        complainIf (Next.of it.value none).isBlock "Block collections are not allowed within flow collections"
        composeFlowItems fuel isMap indent rest (index + 1) count
          { acc with stop := stop, nodes := acc.nodes ++ [node] }
      else
        modify fun c => { c with atKey := true }
        let (key, keyStop) ← match it.key with
          | some k => composeNode fuel k props
          | none => emptyNode it.start props
        complainIf (Next.of it.key none).isBlock "Block collections are not allowed within flow collections"
        modify fun c => { c with atKey := false }
        let valueProps ← readProps (it.sep.getD []) true .mapValue (Next.of it.value none) keyStop indent false
        match valueProps.found with
        | some found =>
          if !isMap && !explicitKey then
            let before := (it.sep.getD []).takeWhile fun l => l.offset ≠ found.offset
            complainIf (includes .newline before) "Implicit keys of flow sequence pairs need to be on a single line"
            complainIf (props.start + longestKey < found.offset)
              "The : indicator must be at most 1024 chars after the key"
        | none => complainIf it.value.isSome "Missing , or : between flow collection items"
        let (pair, stop) ← match it.value with
          | some v => do
            let (n, stop) ← composeNode fuel v valueProps
            pure ((key, some n), stop)
          | none =>
            if valueProps.found.isSome then do
              let (n, stop) ← emptyNode (it.sep.getD []) valueProps
              pure ((key, some n), stop)
            else pure ((key.addComment valueProps.comment, none), valueProps.stop)
        complainIf (Next.of it.value none).isBlock "Block collections are not allowed within flow collections"
        if isMap then
          complainIf (acc.pairs.any fun p => Node.sameKey p.1 key) "Map keys must be unique"
          composeFlowItems fuel isMap indent rest (index + 1) count
            { acc with stop := stop, pairs := acc.pairs ++ [pair] }
        else
          composeFlowItems fuel isMap indent rest (index + 1) count
            { acc with stop := stop, nodes := acc.nodes ++ [.map false [pair] {}] }

end

/-- The content of a document, and whether a marker opens it. -/
def composeDocument (fuel : Nat) (d : DocumentOutline) : Compose (Node × Bool) := do
  let props ← readProps d.start false .documentStart (Next.of d.value d.trailing) d.offset 0 true
  complainIf (props.found.isSome && (Next.of d.value none).isBlock && !props.hasNewline)
    "Block collection cannot start on same line with directives-end marker"
  let (node, stop) ← match d.value with
    | some v => composeNode fuel v props
    | none => emptyNode d.start props
  let _ ← readRest (d.trailing.getD []) stop false
  pure (node, props.found.isSome)

end DataplaneVerdict.Yaml
