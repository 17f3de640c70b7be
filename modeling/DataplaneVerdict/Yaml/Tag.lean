import DataplaneVerdict.Value.Basic
import DataplaneVerdict.Yaml.Schema

/-!
# `Yaml.Tag` — tags and their handles

A tag is written with a handle and a suffix; the handle stands for the start of the tag's full name.
-/

namespace DataplaneVerdict.Yaml

/-- Handles, with what each stands for. -/
abbrev TagHandles := List (String × String)

def standardHandles : TagHandles := [("!!", "tag:yaml.org,2002:")]

def percentDecode : Nat → List Char → Bytes → Option Bytes
  | 0, _, _ => none
  | _ + 1, [], acc => some acc.reverse
  | fuel + 1, '%' :: a :: b :: rest, acc =>
    match Number.digitValue a, Number.digitValue b with
    | some x, some y => percentDecode fuel rest (UInt8.ofNat (x * 16 + y) :: acc)
    | _, _ => none
  | fuel + 1, c :: rest, acc => percentDecode fuel rest ((String.utf8EncodeChar c).reverse ++ acc)

namespace TagHandles

/-- The full name of a tag, or a complaint. -/
def resolve (handles : TagHandles) (source : List Char) : Option String × List String :=
  match source with
  | ['!'] => (some "!", [])
  | '!' :: '<' :: rest =>
    let name := String.ofList rest.dropLast
    if name = "!" ∨ name = "!!" then (none, ["Verbatim tags aren't resolved"])
    else
      (if name.isEmpty then none else some name,
        if source.getLast? = some '>' then [] else ["Verbatim tags must end with a >"])
  | _ =>
    let suffix := (source.reverse.takeWhile (· != '!')).reverse
    let handle := String.ofList (source.take (source.length - suffix.length))
    let complaints := if suffix.isEmpty then ["The tag has no suffix"] else []
    match handles.lookup handle with
    | some start =>
      if start.isEmpty then (none, "Could not resolve tag" :: complaints)
      else
        match percentDecode (suffix.length + 1) suffix [] with
        | some bytes =>
          let text := Utf8.decode bytes
          if Utf8.encode text = bytes then (some (start ++ text), complaints)
          else (none, "URI malformed" :: complaints)
        | none => (none, "URI malformed" :: complaints)
    | none =>
      if handle = "!" then (some (String.ofList source), complaints)
      else (none, "Could not resolve tag" :: complaints)

def escapeSuffix (cs : List Char) : String :=
  String.ofList (cs.flatMap fun c =>
    if c = '!' then "%21".toList
    else if c = ',' then "%2C".toList
    else if c = '[' then "%5B".toList
    else if c = ']' then "%5D".toList
    else if c = '{' then "%7B".toList
    else if c = '}' then "%7D".toList
    else [c])

/-- A tag under the first handle that fits it. -/
def written (handles : TagHandles) (name : String) : String :=
  match (Value.orderFields handles).find? fun h => Text.startsWith name h.2 with
  | some (handle, start) => handle ++ escapeSuffix (name.toList.drop start.toList.length)
  | none => if name.toList.head? = some '!' then name else "!<" ++ name ++ ">"

end TagHandles

end DataplaneVerdict.Yaml
