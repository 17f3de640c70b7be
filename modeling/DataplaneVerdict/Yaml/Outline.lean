import DataplaneVerdict.Text.Order
import DataplaneVerdict.Yaml.Lexeme

/-!
# `Yaml.Outline` — the nesting of a YAML stream

The outline of a stream groups its lexemes into documents, collections and scalars by their indentation and their
indicators, without yet asking whether the grouping is allowed. Lexemes that cannot belong anywhere are kept where they
were met, so that the next step can complain about them.
-/

namespace DataplaneVerdict.Yaml

structure Lexeme where
  kind : LexKind
  offset : Nat
  indent : Nat
  text : List Char
deriving Inhabited

/-- An entry of a collection, with the lexemes around its key and its value. -/
structure Item (π : Type) where
  start : List Lexeme := []
  explicitKey : Bool := false
  key : Option π := none
  sep : Option (List Lexeme) := none
  value : Option π := none

/-- The shape of a node, before its properties are read. -/
inductive Piece where
  | scalar (kind : LexKind) (offset indent : Nat) (text : List Char) (trailing : Option (List Lexeme))
  | blockScalar (offset indent : Nat) (header : List Lexeme) (broken : Bool) (text : List Char)
  | blockMap (offset indent : Nat) (items : List (Item Piece))
  | blockSequence (offset indent : Nat) (items : List (Item Piece))
  | flow (offset indent : Nat) (start : Lexeme) (items : List (Item Piece)) (trailing : List Lexeme)
  | misplaced (message : String)

instance : Inhabited Piece := ⟨.misplaced ""⟩

namespace Piece

def isFlow : Piece → Bool
  | scalar _ _ _ _ _ => true
  | flow _ _ _ _ _ => true
  | _ => false

def indent? : Piece → Option Nat
  | scalar _ _ i _ _ => some i
  | blockScalar _ i _ _ _ => some i
  | blockMap _ i _ => some i
  | blockSequence _ i _ => some i
  | flow _ i _ _ _ => some i
  | misplaced _ => none

def trailing? : Piece → Option (List Lexeme)
  | scalar _ _ _ _ t => t
  | flow _ _ _ _ t => some t
  | _ => none

def setTrailing (t : List Lexeme) : Piece → Piece
  | scalar k o i x _ => scalar k o i x (some t)
  | flow o i s items _ => flow o i s items t
  | p => p

end Piece

structure DocumentOutline where
  offset : Nat
  start : List Lexeme := []
  value : Option Piece := none
  trailing : Option (List Lexeme) := none

inductive StreamPart where
  | directive (text : List Char)
  | document (d : DocumentOutline)
  | documentEnd (trailing : List Lexeme)
  | filler
  | misplaced (message : String)

/-- What may be open while a stream is read. -/
inductive Frame where
  | document (d : DocumentOutline)
  | documentEnd (trailing : List Lexeme)
  | piece (p : Piece)

/-! ## Lists of lexemes -/

def includes (kind : LexKind) (ls : List Lexeme) : Bool := ls.any fun l => l.kind = kind

def isFiller (l : Lexeme) : Bool := l.kind = .space || l.kind = .comment || l.kind = .newline

def separatesKey (l : Lexeme) : Bool :=
  l.kind = .documentStart || l.kind = .explicitKey || l.kind = .mapValue || l.kind = .sequenceItem || l.kind = .newline

/-- Splits off the properties that belong to the next key. -/
def splitKeyProps (ls : List Lexeme) : List Lexeme × List Lexeme :=
  let tail := (ls.reverse.takeWhile fun l => !separatesKey l).reverse
  let props := tail.dropWhile fun l => l.kind = .space
  (ls.take (ls.length - props.length), props)

def lastItem (items : List (Item Piece)) : Item Piece := items.getLast?.getD {}

def setLast (items : List (Item Piece)) (it : Item Piece) : List (Item Piece) := items.dropLast ++ [it]

/-- In a flow sequence, what no `:` follows is a value. -/
def settleFlowItem (it : Item Piece) : Item Piece :=
  match it.sep with
  | some sep =>
    if it.value.isNone && !includes .explicitKey it.start && !includes .mapValue sep then
      match it.key with
      | some k =>
        if k.isFlow then
          { it with key := none, sep := none, value := some (k.setTrailing ((k.trailing?.getD []) ++ sep)) }
        else { it with key := none, sep := none, value := some k, start := it.start ++ sep }
      | none => { it with key := none, sep := none, start := it.start ++ sep }
    else it
  | none => it

def settleFlow : Piece → Piece
  | .flow o i s items t =>
    if s.kind = .flowSequenceStart then .flow o i s (items.map settleFlowItem) t else .flow o i s items t
  | p => p

/-! ## The builder -/

/-- The open frames, innermost first, and where the builder stands. -/
structure Builder where
  stack : List Frame := []
  done : List StreamPart := []
  atNewLine : Bool := true
  indent : Nat := 0
  offset : Nat := 0
  onKeyLine : Bool := false
  awaitsScalar : Bool := false
  token : Token := ⟨.newline, []⟩

namespace Builder

def lexeme (b : Builder) : Lexeme := ⟨b.token.kind, b.offset, b.indent, b.token.text⟩

def emit (b : Builder) (p : StreamPart) : Builder := { b with done := p :: b.done }

def setTop (b : Builder) (f : Frame) : Builder := { b with stack := f :: b.stack.tail }

def enter (b : Builder) (p : Piece) : Builder := { b with stack := .piece p :: b.stack }

def scalarHere (b : Builder) : Piece := .scalar b.token.kind b.offset b.indent b.token.text none

def isScalarKind (k : LexKind) : Bool := k = .aliasMark || k = .plain || k = .singleQuoted || k = .doubleQuoted

/-- Whether an item is only filler that belongs to what follows its collection. -/
def isLoose (indent : Nat) (it : Item Piece) : Bool :=
  it.sep.isNone && it.value.isNone && !it.start.isEmpty && it.start.all isFiller &&
    (indent = 0 || it.start.all fun l => l.kind ≠ .comment || l.indent < indent)

/-- Splits loose filler off the end of a collection. -/
def loosen (p : Piece) : Piece × Option (List Lexeme) :=
  match p with
  | .blockMap o i items =>
    let it := lastItem items
    if !items.isEmpty && isLoose i it then (.blockMap o i items.dropLast, some it.start) else (p, none)
  | .blockSequence o i items =>
    let it := lastItem items
    if !items.isEmpty && isLoose i it then (.blockSequence o i items.dropLast, some it.start) else (p, none)
  | _ => (p, none)

/-- A finished piece, as it goes into its parent. -/
def settle (parent : Frame) (p : Piece) : Piece :=
  match p, parent with
  | .blockScalar o _ h b t, .piece q => .blockScalar o (q.indent?.getD 0) h b t
  | .blockScalar o _ h b t, _ => .blockScalar o 0 h b t
  | .flow o _ s items t, .document _ => settleFlow (.flow o 0 s items t)
  | .flow o i s items t, _ => settleFlow (.flow o i s items t)
  | p, _ => p

/-- Puts a finished piece into the frame around it. -/
def attach : Nat → Piece → Builder → Builder
  | 0, _, b => b
  | fuel + 1, p, b =>
    match b.stack with
    | [] =>
      match p with
      | .misplaced m => b.emit (.misplaced m)
      | _ => b.emit (.misplaced "Unexpected content")
    | parent :: rest =>
      let p := settle parent p
      match parent with
      | .document d =>
        let (p, moved) := loosen p
        let trailing := match moved with
          | some ls => some ls
          | none => d.trailing
        b.setTop (.document { d with value := some p, trailing := trailing })
      | .documentEnd _ => b.emit (.misplaced "Unexpected content")
      | .piece (.blockScalar o i h _ t) => b.setTop (.piece (.blockScalar o i h true t))
      | .piece (.blockMap o i items) =>
        let it := lastItem items
        if it.value.isSome then
          { b.setTop (.piece (.blockMap o i (items ++ [{ key := some p, sep := some [] }]))) with onKeyLine := true }
        else if it.sep.isSome then
          let (p, moved) := loosen p
          let items := setLast items { it with value := some p }
          let items := match moved with
            | some ls => items ++ [{ start := ls }]
            | none => items
          b.setTop (.piece (.blockMap o i items))
        else
          { b.setTop (.piece (.blockMap o i (setLast items { it with key := some p, sep := some [] }))) with
            onKeyLine := !it.explicitKey }
      | .piece (.blockSequence o i items) =>
        let it := lastItem items
        let (p, moved) := loosen p
        let items :=
          if it.value.isSome then items ++ [{ value := some p }] else setLast items { it with value := some p }
        let items := match moved with
          | some ls => items ++ [{ start := ls }]
          | none => items
        b.setTop (.piece (.blockSequence o i items))
      | .piece (.flow o i s items t) =>
        let it := lastItem items
        let items :=
          if items.isEmpty || it.value.isSome then items ++ [{ key := some p, sep := some [] }]
          else if it.sep.isSome then setLast items { it with value := some p }
          else setLast items { it with key := some p, sep := some [] }
        b.setTop (.piece (.flow o i s items t))
      | .piece q => attach fuel p (attach fuel q { b with stack := rest })

def pop (b : Builder) : Builder :=
  match b.stack with
  | [] => b.emit (.misplaced "Unexpected content")
  | .document d :: rest => { b with stack := rest }.emit (.document d)
  | .documentEnd ls :: rest => { b with stack := rest }.emit (.documentEnd ls)
  | .piece p :: rest => attach (b.stack.length + 2) p { b with stack := rest }

def popAll : Nat → Builder → Builder
  | 0, b => b
  | fuel + 1, b => if b.stack.isEmpty then b else popAll fuel b.pop

/-- Takes back the properties before a scalar that turns out to be a key. -/
def takeKeyProps : Frame → Frame × List Lexeme
  | .document d =>
    let (kept, props) := splitKeyProps d.start
    (.document { d with start := kept }, props)
  | .piece (.blockMap o i items) =>
    let it := lastItem items
    match it.sep with
    | some sep =>
      let (kept, props) := splitKeyProps sep
      (.piece (.blockMap o i (setLast items { it with sep := some kept })), props)
    | none =>
      let (kept, props) := splitKeyProps it.start
      (.piece (.blockMap o i (setLast items { it with start := kept })), props)
  | .piece (.blockSequence o i items) =>
    let it := lastItem items
    let (kept, props) := splitKeyProps it.start
    (.piece (.blockSequence o i (setLast items { it with start := kept })), props)
  | f => (f, [])

def startValue (b : Builder) : Option (Piece × Builder) :=
  let here := b.lexeme
  if isScalarKind here.kind then some (b.scalarHere, b)
  else
    match here.kind with
    | .blockHeader => some (.blockScalar b.offset b.indent [here] false [], b)
    | .flowMapStart => some (.flow b.offset b.indent here [] [], b)
    | .flowSequenceStart => some (.flow b.offset b.indent here [] [], b)
    | .sequenceItem => some (.blockSequence b.offset b.indent [{ start := [here] }], b)
    | .explicitKey =>
      match b.stack with
      | [] => none
      | parent :: rest =>
        let (parent, props) := takeKeyProps parent
        some (.blockMap b.offset b.indent [{ start := props ++ [here], explicitKey := true }],
          { b with stack := parent :: rest, onKeyLine := true })
    | .mapValue =>
      match b.stack with
      | [] => none
      | parent :: rest =>
        let (parent, props) := takeKeyProps parent
        some (.blockMap b.offset b.indent [{ start := props, sep := some [here] }],
          { b with stack := parent :: rest, onKeyLine := true })
    | _ => none

def atIndentedComment (b : Builder) (start : List Lexeme) (indent : Nat) : Bool :=
  b.token.kind = .comment && indent < b.indent && start.all fun l => l.kind = .newline || l.kind = .space

def takeStream (b : Builder) : Builder :=
  match b.token.kind with
  | .directive => b.emit (.directive b.token.text)
  | .byteOrderMark => b.emit .filler
  | .space => b.emit .filler
  | .comment => b.emit .filler
  | .newline => b.emit .filler
  | .documentMode => { b with stack := .document { offset := b.offset } :: b.stack }
  | .documentStart => { b with stack := .document { offset := b.offset, start := [b.lexeme] } :: b.stack }
  | _ => b.emit (.misplaced "Unexpected token in the stream")

def takeDocumentEnd (trailing : List Lexeme) (b : Builder) : Builder :=
  if b.token.kind = .documentMode then b
  else
    let b := b.setTop (.documentEnd (trailing ++ [b.lexeme]))
    if b.token.kind = .newline then b.pop else b

def takeBlockScalar (o i : Nat) (header : List Lexeme) (broken : Bool) (text : List Char) (b : Builder) :
    Builder × Bool :=
  match b.token.kind with
  | .space => (b.setTop (.piece (.blockScalar o i (header ++ [b.lexeme]) broken text)), false)
  | .comment => (b.setTop (.piece (.blockScalar o i (header ++ [b.lexeme]) broken text)), false)
  | .newline => (b.setTop (.piece (.blockScalar o i (header ++ [b.lexeme]) broken text)), false)
  | .plain =>
    let b := b.setTop (.piece (.blockScalar o i header broken b.token.text))
    ({ b with atNewLine := true, indent := 0 }.pop, false)
  | _ => (b.pop, true)

def nextItemStart (mapIndent : Nat) (sep : List Lexeme) : Option Nat :=
  let marks := (List.range sep.length).foldl (fun acc i =>
    match sep[i]? with
    | none => acc
    | some l =>
      match l.kind with
      | .newline => acc ++ [i]
      | .space => acc
      | .comment => if mapIndent < l.indent then [] else acc
      | _ => []) []
  marks[1]?

/-- Adds the lexeme to the last item of a map. -/
def fillMap (o i : Nat) (items : List (Item Piece)) (b : Builder) : Builder :=
  let it := lastItem items
  let here := b.lexeme
  let isBreak := here.kind = .newline
  let b := if isBreak then { b with onKeyLine := false } else b
  let put (items : List (Item Piece)) : Builder := b.setTop (.piece (.blockMap o i items))
  match it.value with
  | some v =>
    let afterComment := match v.trailing? with
      | some t => (t.getLast?.map (·.kind)) = some .comment
      | none => false
    if isBreak && afterComment then
      put (setLast items { it with value := some (v.setTrailing ((v.trailing?.getD []) ++ [here])) })
    else put (items ++ [{ start := [here] }])
  | none =>
    match it.sep with
    | some sep => put (setLast items { it with sep := some (sep ++ [here]) })
    | none =>
      let previous := items.dropLast.getLast?
      let holder := previous.bind fun p => p.value.bind fun v => v.trailing?.map fun t => (p, v, t)
      match b.atIndentedComment it.start i, holder with
      | true, some (p, v, t) =>
        put (setLast items.dropLast { p with value := some (v.setTrailing (t ++ it.start ++ [here])) })
      | _, _ => put (setLast items { it with start := it.start ++ [here] })

def takeMapValue (o i : Nat) (items : List (Item Piece)) (start : List Lexeme) (atNextItem : Bool) (b : Builder) :
    Builder :=
  let it := lastItem items
  let here := b.lexeme
  let put (items : List (Item Piece)) : Builder := b.setTop (.piece (.blockMap o i items))
  let nested (it : Item Piece) : Piece := .blockMap b.offset b.indent [it]
  let b : Builder :=
    match it.explicitKey, it.sep with
    | true, none =>
      if includes .newline it.start then put (setLast items { it with key := none, sep := some [here] })
      else
        let (kept, props) := splitKeyProps it.start
        (put (setLast items { it with start := kept })).enter (nested { start := props, sep := some [here] })
    | true, some sep =>
      if it.value.isSome then put (items ++ [{ sep := some [here] }])
      else if includes .mapValue sep then b.enter (nested { start := start, sep := some [here] })
      else
        match it.key with
        | some k =>
          if k.isFlow && !includes .newline sep then
            let (kept, props) := splitKeyProps it.start
            (put (setLast items { it with start := kept, key := none, sep := none })).enter
              (nested { start := props, key := some k, sep := some (sep ++ [here]) })
          else put (setLast items { it with sep := some (sep ++ start ++ [here]) })
        | none => put (setLast items { it with sep := some (sep ++ start ++ [here]) })
    | false, none => put (setLast items { it with key := none, sep := some [here] })
    | false, some sep =>
      if it.value.isSome || atNextItem then put (items ++ [{ start := start, sep := some [here] }])
      else if includes .mapValue sep then b.enter (nested { sep := some [here] })
      else put (setLast items { it with sep := some (sep ++ [here]) })
  { b with onKeyLine := true }

/-- One lexeme inside a block map. -/
def takeBlockMap (o i : Nat) (items : List (Item Piece)) (b : Builder) : Builder × Bool :=
  let here := b.lexeme
  if isFiller here then (fillMap o i items b, false)
  else if b.indent < i then (b.pop, true)
  else
    let it := lastItem items
    let atMapIndent := !b.onKeyLine && b.indent = i
    let atNextItem := atMapIndent && (it.sep.isSome || it.explicitKey) && here.kind ≠ .sequenceItem
    -- line breaks after an empty value go to the next item
    let cut := match it.sep with
      | some sep =>
        if atNextItem && it.value.isNone then (nextItemStart i sep).map fun n => (sep.take n, sep.drop n) else none
      | none => none
    let (items, start) := match cut with
      | some (kept, start) => (setLast items { it with sep := some kept }, start)
      | none => (items, [])
    let it := lastItem items
    let b := b.setTop (.piece (.blockMap o i items))
    let put (items : List (Item Piece)) : Builder := b.setTop (.piece (.blockMap o i items))
    if here.kind = .anchor || here.kind = .tag then
      if atNextItem || it.value.isSome then
        ({ put (items ++ [{ start := start ++ [here] }]) with onKeyLine := true }, false)
      else
        match it.sep with
        | some sep => (put (setLast items { it with sep := some (sep ++ [here]) }), false)
        | none => (put (setLast items { it with start := it.start ++ [here] }), false)
    else if here.kind = .explicitKey then
      let b :=
        if it.sep.isNone && !it.explicitKey then
          put (setLast items { it with start := it.start ++ [here], explicitKey := true })
        else if atNextItem || it.value.isSome then put (items ++ [{ start := start ++ [here], explicitKey := true }])
        else b.enter (.blockMap b.offset b.indent [{ start := [here], explicitKey := true }])
      ({ b with onKeyLine := true }, false)
    else if here.kind = .mapValue then (takeMapValue o i items start atNextItem b, false)
    else if isScalarKind here.kind then
      if atNextItem || it.value.isSome then
        let items := items ++ [{ start := start, key := some b.scalarHere, sep := some [] }]
        ({ put items with onKeyLine := true }, false)
      else if it.sep.isSome then (b.enter b.scalarHere, false)
      else
        ({ put (setLast items { it with key := some b.scalarHere, sep := some [] }) with onKeyLine := true }, false)
    else
      match b.startValue with
      | none => (b.pop, true)
      | some (.blockSequence so si sitems, b) =>
        let sameLine := match it.sep with
          | some sep => !it.explicitKey && !includes .newline sep
          | none => false
        if sameLine then
          (attach (b.stack.length + 2) (.misplaced "Unexpected block-seq-ind on same line with key") b, false)
        else (b.enter (.blockSequence so si sitems), false)
      | some (p, b) =>
        let b := if atMapIndent then b.setTop (.piece (.blockMap o i (items ++ [{ start := start }]))) else b
        (b.enter p, false)

def takeBlockSequence (o i : Nat) (items : List (Item Piece)) (b : Builder) : Builder × Bool :=
  let it := lastItem items
  let here := b.lexeme
  let put (items : List (Item Piece)) : Builder := b.setTop (.piece (.blockSequence o i items))
  let openOrPop : Builder × Bool :=
    if i < b.indent then
      match b.startValue with
      | some (p, b) => (b.enter p, false)
      | none => (b.pop, true)
    else (b.pop, true)
  if isFiller here then
    match it.value with
    | some v =>
      let afterComment := match v.trailing? with
        | some t => (t.getLast?.map (·.kind)) = some .comment
        | none => false
      if here.kind = .newline && afterComment then
        (put (setLast items { it with value := some (v.setTrailing ((v.trailing?.getD []) ++ [here])) }), false)
      else (put (items ++ [{ start := [here] }]), false)
    | none =>
      let previous := items.dropLast.getLast?
      let holder := previous.bind fun p => p.value.bind fun v => v.trailing?.map fun t => (p, v, t)
      match b.atIndentedComment it.start i, holder with
      | true, some (p, v, t) =>
        (put (setLast items.dropLast { p with value := some (v.setTrailing (t ++ it.start ++ [here])) }), false)
      | _, _ => (put (setLast items { it with start := it.start ++ [here] }), false)
  else if here.kind = .anchor || here.kind = .tag then
    if it.value.isSome || b.indent ≤ i then openOrPop
    else (put (setLast items { it with start := it.start ++ [here] }), false)
  else if here.kind = .sequenceItem then
    if b.indent ≠ i then openOrPop
    else if it.value.isSome || includes .sequenceItem it.start then (put (items ++ [{ start := [here] }]), false)
    else (put (setLast items { it with start := it.start ++ [here] }), false)
  else openOrPop

def takeLineEnd (put : List Lexeme → Frame) (trailing : List Lexeme) (b : Builder) : Builder × Bool :=
  match b.token.kind with
  | .comma => (b.pop, true)
  | .documentStart => (b.pop, true)
  | .documentEnd => (b.pop, true)
  | .flowSequenceEnd => (b.pop, true)
  | .flowMapEnd => (b.pop, true)
  | .mapValue => (b.pop, true)
  | .newline =>
    let b := { b with onKeyLine := false }.setTop (put (trailing ++ [b.lexeme]))
    (b.pop, false)
  | _ => (b.setTop (put (trailing ++ [b.lexeme])), false)

/-- Turns a finished scalar into the first key of a map. -/
def makeKey (key : Piece) (offset indent : Nat) (sep : List Lexeme) (b : Builder) : Builder :=
  match b.stack with
  | _ :: parent :: rest =>
    let (parent, props) := takeKeyProps parent
    { b with
      stack := .piece (.blockMap offset indent [{ start := props, key := some key, sep := some sep }]) :: parent :: rest
      onKeyLine := true }
  | _ => b

def closeFlows : Nat → Builder → Builder
  | 0, b => b
  | fuel + 1, b =>
    let b := b.pop
    match b.stack with
    | .piece (.flow _ _ _ _ _) :: _ => closeFlows fuel b
    | _ => b

/-- One lexeme inside a flow collection. -/
def takeFlow (o i : Nat) (s : Lexeme) (items : List (Item Piece)) (trailing : List Lexeme) (b : Builder) :
    Builder × Bool :=
  let it := lastItem items
  let fresh := items.isEmpty
  let here := b.lexeme
  let put (items : List (Item Piece)) : Builder := b.setTop (.piece (.flow o i s items trailing))
  if here.kind = .flowErrorEnd then
    (closeFlows b.stack.length b, false)
  else if trailing.isEmpty then
    match here.kind with
    | .comma =>
      if fresh || it.sep.isSome then (put (items ++ [{ start := [here] }]), false)
      else (put (setLast items { it with start := it.start ++ [here] }), false)
    | .explicitKey =>
      if fresh || it.sep.isSome then (put (items ++ [{ start := [here] }]), false)
      else (put (setLast items { it with start := it.start ++ [here] }), false)
    | .mapValue =>
      if fresh || it.value.isSome then (put (items ++ [{ sep := some [here] }]), false)
      else
        match it.sep with
        | some sep => (put (setLast items { it with sep := some (sep ++ [here]) }), false)
        | none => (put (setLast items { it with key := none, sep := some [here] }), false)
    | .flowMapEnd => (b.setTop (.piece (.flow o i s items (trailing ++ [here]))), false)
    | .flowSequenceEnd => (b.setTop (.piece (.flow o i s items (trailing ++ [here]))), false)
    | _ =>
      if isFiller here || here.kind = .anchor || here.kind = .tag then
        if fresh || it.value.isSome then (put (items ++ [{ start := [here] }]), false)
        else
          match it.sep with
          | some sep => (put (setLast items { it with sep := some (sep ++ [here]) }), false)
          | none => (put (setLast items { it with start := it.start ++ [here] }), false)
      else if isScalarKind here.kind then
        if fresh || it.value.isSome then (put (items ++ [{ key := some b.scalarHere, sep := some [] }]), false)
        else if it.sep.isSome then (b.enter b.scalarHere, false)
        else (put (setLast items { it with key := some b.scalarHere, sep := some [] }), false)
      else
        match b.startValue with
        | some (p, b) => (b.enter p, false)
        | none => (b.pop, true)
  else
    let parent := (b.stack.tail.head?).getD (.documentEnd [])
    let closesKey : Bool :=
      match parent with
      | .piece (.blockMap _ pi pitems) =>
        (here.kind = .mapValue && pi = i) || (here.kind = .newline && (lastItem pitems).sep.isNone)
      | _ => false
    let inFlow : Bool :=
      match parent with
      | .piece (.flow _ _ _ _ _) => true
      | _ => false
    if closesKey then (b.pop, true)
    else if here.kind = .mapValue && !inFlow then
      let key := settleFlow (.flow o i s items (trailing.take 1))
      (makeKey key o i (trailing.drop 1 ++ [here]) b, false)
    else takeLineEnd (fun ls => .piece (.flow o i s items ls)) trailing b

def takeDocument (d : DocumentOutline) (b : Builder) : Builder × Bool :=
  let here := b.lexeme
  if d.value.isSome then
    takeLineEnd (fun ls => .document { d with trailing := some ls }) (d.trailing.getD []) b
  else if here.kind = .documentStart then
    if d.start.all isFiller then (b.setTop (.document { d with start := d.start ++ [here] }), false) else (b.pop, true)
  else if isFiller here || here.kind = .anchor || here.kind = .tag then
    (b.setTop (.document { d with start := d.start ++ [here] }), false)
  else
    match b.startValue with
    | some (p, b) => (b.enter p, false)
    | none => (b.emit (.misplaced "Unexpected token in the document"), false)

/-- Hands the lexeme to the innermost frame, closing those that do not take it. -/
def place : Nat → Builder → Builder
  | 0, b => b
  | fuel + 1, b =>
    let again (r : Builder × Bool) : Builder := if r.2 then place fuel r.1 else r.1
    let ended : Bool := match b.stack with
      | .documentEnd _ :: _ => false
      | _ => b.token.kind = .documentEnd
    if ended then
      let b := popAll (b.stack.length + 1) b
      { b with stack := [.documentEnd []] }
    else
      match b.stack with
      | [] => takeStream b
      | .document d :: _ => again (takeDocument d b)
      | .documentEnd ls :: _ => takeDocumentEnd ls b
      | .piece (.scalar k o i t trailing) :: _ =>
        if b.token.kind = LexKind.mapValue then
          makeKey (.scalar k o i t none) o i ((trailing.getD []) ++ [b.lexeme]) b
        else again (takeLineEnd (fun ls => .piece (.scalar k o i t (some ls))) (trailing.getD []) b)
      | .piece (.blockScalar o i h broken t) :: _ => again (takeBlockScalar o i h broken t b)
      | .piece (.blockMap o i items) :: _ => again (takeBlockMap o i items b)
      | .piece (.blockSequence o i items) :: _ => again (takeBlockSequence o i items b)
      | .piece (.flow o i s items t) :: _ => again (takeFlow o i s items t b)
      | .piece (.misplaced _) :: _ => b.pop

def takeOne (b : Builder) (t : Token) : Builder :=
  let n := Text.unitCount t.text
  if t.kind = .scalarMark then { b with awaitsScalar := true, atNewLine := false }
  else if t.kind = .stray then
    let b := attach (b.stack.length + 2) (.misplaced "Not a YAML token") b
    { b with offset := b.offset + n }
  else
    let b := { b with token := t, atNewLine := b.atNewLine && t.kind ≠ .plain }
    let b := place (2 * b.stack.length + 4) b
    match t.kind with
    | .newline => { b with atNewLine := true, indent := 0, offset := b.offset + n }
    | .space =>
      let indented := b.atNewLine && t.text.head? = some ' '
      { b with indent := if indented then b.indent + n else b.indent, offset := b.offset + n }
    | .explicitKey => { b with indent := if b.atNewLine then b.indent + n else b.indent, offset := b.offset + n }
    | .mapValue => { b with indent := if b.atNewLine then b.indent + n else b.indent, offset := b.offset + n }
    | .sequenceItem => { b with indent := if b.atNewLine then b.indent + n else b.indent, offset := b.offset + n }
    | .documentMode => b
    | .flowErrorEnd => b
    | .plain => { b with offset := b.offset + n }
    | _ => { b with atNewLine := false, offset := b.offset + n }

/-- One token of the stream. -/
def take (b : Builder) (t : Token) : Builder :=
  if b.awaitsScalar then
    let b := { b with awaitsScalar := false }
    match t.kind with
    | .plain => (b.takeOne ⟨.plain, ['\x1f']⟩).takeOne ⟨kindOf t.text, t.text⟩
    | .documentMode => b.takeOne ⟨.plain, ['\x02']⟩
    | .flowErrorEnd => b.takeOne ⟨.plain, ['\x18']⟩
    | _ => b.takeOne ⟨.plain, t.text⟩
  else b.takeOne t

end Builder

/-- The shape of a whole stream. -/
def outline (text : String) : List StreamPart :=
  let b := (scan text).foldl Builder.take {}
  (Builder.popAll (b.stack.length + 1) b).done.reverse

end DataplaneVerdict.Yaml
