import Courier.Message
import Courier.Text.Blank

/-! Checking a text that should hold one message a line. -/

namespace Courier

/-- What was found: how many lines hold a message, and what is wrong with which of the others. -/
structure Validation where
  valid : Nat := 0
  faults : List (Nat × ProtocolError) := []
deriving Repr, Inhabited

namespace Validation

def invalid (v : Validation) : Nat := v.faults.length

/-- The lines of a text without their terminators; a carriage return belongs to the terminator. A tail
without a terminator is a line unless it is empty. -/
def linesOf (text : Bytes) : List Bytes := go text [] []
where
  /-- The line that is read and the lines before it are held in reverse. -/
  go : Bytes → Bytes → List Bytes → List Bytes
    | [], [], lines => lines.reverse
    | [], line, lines => (line.reverse :: lines).reverse
    | b :: rest, line, lines =>
      if b = 0x0A then
        match line with
        | 0x0D :: line => go rest [] (line.reverse :: lines)
        | line => go rest [] (line.reverse :: lines)
      else go rest (b :: line) lines

/-- Checks one line more; its fault comes first. -/
def add (v : Validation) (number : Nat) (line : Bytes) (text : String) : Validation :=
  if (Text.trim text).isEmpty then v
  else
    match Message.unmarshal line with
    | .ok _ => { v with valid := v.valid + 1 }
    | .error why => { v with faults := (number, why) :: v.faults }

/-- Checks lines up to the first that is no text, if there is one; tells whether there was none. -/
def checkLines (v : Validation) (number : Nat) : List Bytes → Validation × Bool
  | [] => (v, true)
  | line :: rest =>
    match Utf8.toString? line with
    | none => (v, false)
    | some text => checkLines (v.add number line text) (number + 1) rest

/-- Checks a text. The flag tells whether all of it could be read. -/
def check (text : Bytes) : Validation × Bool :=
  let (found, readable) := checkLines {} 1 (linesOf text)
  ({ found with faults := found.faults.reverse }, readable)

end Validation
end Courier
