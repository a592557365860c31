import Courier.Text.Utf8
import Courier.Text.Quoted
import Courier.Json.Value
import Courier.Json.Error

/-! Compact JSON text: no blanks, and only those characters escaped that a string cannot hold. -/

namespace Courier.Json

/-- The bytes of an ASCII word of the grammar, or of any other string. -/
def ascii (s : String) : Bytes := Utf8.ofString s

def escapeChar (c : Char) : List Char :=
  if c = '"' then ['\\', '"']
  else if c = '\\' then ['\\', '\\']
  else if c = '\x08' then ['\\', 'b']
  else if c = '\t' then ['\\', 't']
  else if c = '\n' then ['\\', 'n']
  else if c = '\x0c' then ['\\', 'f']
  else if c = '\r' then ['\\', 'r']
  else if c.toNat < 0x20 then '\\' :: 'u' :: Text.paddedHex 4 c.toNat
  else [c]

def writeString (s : String) : Bytes :=
  0x22 :: (Utf8.encode (s.toList.flatMap escapeChar) ++ [0x22])

def writeNat (n : Nat) : Bytes := Utf8.encode (Nat.toDigits 10 n)

def writeInt (i : Int) : Bytes := if i < 0 then 0x2D :: writeNat i.natAbs else writeNat i.toNat

/-- A double; what is no finite number becomes a null. -/
def writeDouble (x : Binary64) : Bytes :=
  if x.isFinite then ascii (numberStyle.write x) else ascii "null"

def commaSeparated : List Bytes → Bytes
  | [] => []
  | [last] => last
  | first :: rest => first ++ 0x2C :: commaSeparated rest

def writeList (items : List Bytes) : Bytes := 0x5B :: (commaSeparated items ++ [0x5D])

def writeMember (name : String) (value : Bytes) : Bytes := writeString name ++ 0x3A :: value

def writeObject (members : List Bytes) : Bytes := 0x7B :: (commaSeparated members ++ [0x7D])

mutual

def Value.write : Value → Bytes
  | .null => ascii "null"
  | .boolean true => ascii "true"
  | .boolean false => ascii "false"
  | .integer i => writeInt i
  | .double x => writeDouble x
  | .text s => writeString s
  | .array items => writeList (writeItems items)
  | .object members => writeObject (writeMembers members)

def writeItems : List Value → List Bytes
  | [] => []
  | item :: rest => item.write :: writeItems rest

def writeMembers : List (String × Value) → List Bytes
  | [] => []
  | (name, value) :: rest => writeMember name value.write :: writeMembers rest

end

end Courier.Json
