import DataplaneVerdict.Text.Utf8

/-!
# `Host.Octets` — texts of bytes

Inside a host a text has one character for each byte, so every sequence of bytes is a text and lengths count bytes.
-/

namespace DataplaneVerdict.Host

/-- A text of bytes: each character stands for one. -/
abbrev Octets := String

namespace Octets

def ofBytes (bytes : Bytes) : Octets := String.ofList (bytes.map fun b => Char.ofNat b.toNat)

def toBytes (s : Octets) : Bytes := s.toList.map fun c => UInt8.ofNat c.toNat

def ofArray (bytes : ByteArray) : Octets := bytes.foldl (fun s b => s.push (Char.ofNat b.toNat)) ""

def pushTo (bytes : ByteArray) (s : Octets) : ByteArray :=
  s.foldl (fun bytes c => bytes.push (UInt8.ofNat c.toNat)) bytes

def toArray (s : Octets) : ByteArray := pushTo ByteArray.empty s

/-- The bytes of a text. -/
def ofText (s : String) : Octets := ofBytes (Utf8.encode s)

/-- The text that bytes spell. -/
def toText (s : Octets) : String := Utf8.decode (toBytes s)

end Octets

end DataplaneVerdict.Host
