import DataplaneVerdict.Yaml.Composition
import DataplaneVerdict.Yaml.Data

/-!
# `Yaml.Document` — the data of a YAML text

A text holds at most one document.
-/

namespace DataplaneVerdict.Yaml

/-- What the lines before a document declare. -/
structure Directives where
  legacy : Bool := false
  handles : TagHandles := standardHandles
  complaints : List String := []

def Directives.add (d : Directives) (line : List Char) : Directives :=
  let spaced := (Text.trimList line).map fun c => if c = '\t' then ' ' else c
  let words := ((Text.pieces ' ' spaced).filter fun w => !w.isEmpty).map String.ofList
  let isVersion (s : String) : Bool :=
    match Text.pieces '.' s.toList with
    | [a, b] => Schema.someAll Number.isDigit a && Schema.someAll Number.isDigit b
    | _ => false
  match words with
  | "%TAG" :: parts =>
    match parts with
    | [handle, start] => { d with handles := Value.setField handle start d.handles }
    | handle :: start :: _ =>
      { d with
        handles := Value.setField handle start d.handles
        complaints := "%TAG directive should contain exactly two parts" :: d.complaints }
    | _ => { d with complaints := "%TAG directive should contain exactly two parts" :: d.complaints }
  | "%YAML" :: parts =>
    match parts with
    | ["1.1"] => { d with legacy := true }
    | ["1.2"] => { d with legacy := false }
    | [v] => if isVersion v then d else { d with complaints := "Unsupported YAML version" :: d.complaints }
    | _ => { d with complaints := "%YAML directive should contain exactly one part" :: d.complaints }
  | _ => d

structure Stream where
  directives : Directives := {}
  atDirectives : Bool := false
  document : Option (Writer × Node) := none
  complaints : List String := []

def Stream.take (fuel : Nat) (s : Stream) (part : StreamPart) : Stream :=
  match part with
  | .filler => s
  | .misplaced m => { s with complaints := m :: s.complaints }
  | .directive line =>
    let d := s.directives.add line
    { s with
      directives := { d with complaints := [] }, complaints := d.complaints ++ s.complaints
      atDirectives := true }
  | .documentEnd trailing =>
    { s with complaints := (Rest.of trailing 0 true).complaints ++ s.complaints }
  | .document d =>
    if s.document.isSome then { s with complaints := "Source contains multiple documents" :: s.complaints }
    else
      let schema := if s.directives.legacy then Schema.legacy else Schema.core
      let ((node, marked), c) := (composeDocument fuel d).run { schema := schema, handles := s.directives.handles }
      let missing := if s.atDirectives && !marked then ["Missing directives-end/doc-start indicator line"] else []
      { s with
        document := some (⟨schema, s.directives.handles, c.extraTags⟩, node)
        complaints := missing ++ c.complaints ++ s.complaints
        atDirectives := false
        directives := {} }

/-- The value of the only document of a text, or the first complaint. -/
def parse (text : String) : Except String Value :=
  let fuel := 4 * text.length + 64
  let s := (outline text).foldl (Stream.take fuel) {}
  let complaints := if s.document.isNone && s.atDirectives then
      "Missing directives-end indicator line" :: s.complaints else s.complaints
  match complaints.getLast? with
  | some m => .error m
  | none =>
    match s.document with
    | none => .ok .null
    | some (writer, node) => (node.toDatum fuel writer).map Datum.toValue

end DataplaneVerdict.Yaml
