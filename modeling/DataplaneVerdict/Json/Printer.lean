import DataplaneVerdict.Value.Basic

/-!
# `Json.Printer` — values as JSON text

## Contents
- **Strings.** `Json.quote` escapes the quotation mark, the backslash and every control character.
- **One line.** `Json.line` writes a value without any white space, so a document is one line of output.
- **Indented.** `Json.indented` writes one item a line, two spaces a level.

Numbers that JSON cannot hold are written `null`; absent fields are left out and absent list items are `null`.
-/

namespace DataplaneVerdict.Json

def hexDigit (n : Nat) : Char :=
  if n < 10 then Char.ofNat ('0'.toNat + n) else Char.ofNat ('a'.toNat + (n - 10))

/-- One character of a quoted text. -/
def quoteChar (c : Char) : List Char :=
  if c = '"' then ['\\', '"']
  else if c = '\\' then ['\\', '\\']
  else if c = '\x08' then ['\\', 'b']
  else if c = '\x0c' then ['\\', 'f']
  else if c = '\n' then ['\\', 'n']
  else if c = '\r' then ['\\', 'r']
  else if c = '\t' then ['\\', 't']
  else if c.toNat < 0x20 then ['\\', 'u', '0', '0', hexDigit (c.toNat / 16), hexDigit (c.toNat % 16)]
  else [c]

def quote (s : String) : List Char := '"' :: (s.toList.flatMap quoteChar ++ ['"'])

/-- A number, `null` if it is not finite. -/
def writeNumber : Number → List Char
  | .nan => "null".toList
  | .infinity _ => "null".toList
  | n => n.text.toList

def isAbsent : Value → Bool
  | .undefined => true
  | _ => false

/-! ## One line -/

mutual

/-- A value without any white space. -/
def write : Value → List Char
  | .undefined => "null".toList
  | .null => "null".toList
  | .bool true => "true".toList
  | .bool false => "false".toList
  | .num n => writeNumber n
  | .str s => quote s
  | .list items => '[' :: (writeItems true items ++ [']'])
  | .object fields => '{' :: (writeFields true fields ++ ['}'])
  | .special _ => ['{', '}']

/-- The items of a list, a comma before all but the first. -/
def writeItems (first : Bool) : List Value → List Char
  | [] => []
  | v :: rest => (if first then [] else [',']) ++ write v ++ writeItems false rest

/-- The fields of an object, a comma before all but the first. -/
def writeFields (first : Bool) : List (String × Value) → List Char
  | [] => []
  | (k, v) :: rest =>
    if isAbsent v then writeFields first rest
    else (if first then [] else [',']) ++ quote k ++ ':' :: write v ++ writeFields false rest

end

/-- A value as one line of text. -/
def line (v : Value) : String := String.ofList (write v)

/-! ## Indented -/

/-- A line break and the indentation of a level. -/
def newline (level : Nat) : List Char := '\n' :: List.replicate (2 * level) ' '

mutual

/-- A value whose inner lines are indented for a level. -/
def writeIndented (level : Nat) : Value → List Char
  | .list [] => ['[', ']']
  | .list items => '[' :: (indentItems (level + 1) true items ++ newline level ++ [']'])
  | .object fields =>
    if fields.all fun f => isAbsent f.2 then ['{', '}']
    else '{' :: (indentFields (level + 1) true fields ++ newline level ++ ['}'])
  | v => write v

/-- The items of a list, each on its own line. -/
def indentItems (level : Nat) (first : Bool) : List Value → List Char
  | [] => []
  | v :: rest =>
    (if first then [] else [',']) ++ newline level ++ writeIndented level v ++ indentItems level false rest

/-- The fields of an object, each on its own line. -/
def indentFields (level : Nat) (first : Bool) : List (String × Value) → List Char
  | [] => []
  | (k, v) :: rest =>
    if isAbsent v then indentFields level first rest
    else
      (if first then [] else [',']) ++ newline level ++ quote k ++ ':' :: ' ' :: writeIndented level v ++
        indentFields level false rest

end

/-- A value as indented text. -/
def indented (v : Value) : String := String.ofList (writeIndented 0 v)

end DataplaneVerdict.Json
