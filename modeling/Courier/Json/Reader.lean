import Courier.Json.Value
import Courier.Json.Scan

/-! Reading JSON values, and the steps that readers of lists and objects share. Where a value is
built, brackets nest at most `depthLimit` deep. -/

namespace Courier.Json

def depthLimit : Nat := 127

/-- Whether another item follows in an open list. `none` stands before the closing bracket. -/
def nextItem (first : Bool) (bytes : Bytes) : Except Error (Option Bytes) :=
  match skipBlanks bytes with
  | [] => .error .truncated
  | b :: rest =>
    if b = 0x5D then .ok none
    else if first then .ok (some (b :: rest))
    else if b = 0x2C then
      match skipBlanks rest with
      | [] => .error .truncated
      | c :: rest => if c = 0x5D then .error .malformed else .ok (some (c :: rest))
    else .error .malformed

/-- Whether another member follows in an open object, and its name. `none` stands before the closing
bracket. -/
def nextName (first : Bool) (bytes : Bytes) : Except Error (Option (String × Bytes)) :=
  let name (bytes : Bytes) : Except Error (Option (String × Bytes)) :=
    match bytes with
    | [] => .error .truncated
    | b :: rest => if b = 0x22 then (readString rest).map some else .error .unnamedMember
  match skipBlanks bytes with
  | [] => .error .truncated
  | b :: rest =>
    if b = 0x7D then .ok none
    else if first then name (b :: rest)
    else if b = 0x2C then
      match skipBlanks rest with
      | c :: rest => if c = 0x7D then .error .malformed else name (c :: rest)
      | [] => .error .truncated
    else .error .malformed

def readColon (bytes : Bytes) : Except Error Bytes :=
  match skipBlanks bytes with
  | [] => .error .truncated
  | b :: rest => if b = 0x3A then .ok rest else .error .malformed

/-- The end of a list or an object of which nothing more is wanted. -/
def readEnd (bracket : UInt8) (bytes : Bytes) : Except Error Bytes :=
  match skipBlanks bytes with
  | [] => .error .truncated
  | b :: rest => if b = bracket then .ok rest else .error .malformed

/-- The items of an open list and its closing bracket. Every item takes a byte, so the text from the
opening bracket on, as `fuel`, bounds their number. -/
def readItems {α : Type} (item : Bytes → Except Error (α × Bytes)) :
    (fuel : Bytes) → Bool → Bytes → List α → Except Error (List α × Bytes)
  | [], _, _, _ => .error .truncated
  | _ :: fuel, first, bytes, done => do
    match ← nextItem first bytes with
    | none => return (done.reverse, ← readEnd 0x5D bytes)
    | some bytes =>
      let (a, rest) ← item bytes
      readItems item fuel false rest (a :: done)

/-- The members of an open object and its closing bracket, in the order of the text. -/
def readMembers {α : Type} (value : Bytes → Except Error (α × Bytes)) :
    (fuel : Bytes) → Bool → Bytes → List (String × α) → Except Error (List (String × α) × Bytes)
  | [], _, _, _ => .error .truncated
  | _ :: fuel, first, bytes, done => do
    match ← nextName first bytes with
    | none => return (done.reverse, ← readEnd 0x7D bytes)
    | some (name, bytes) =>
      let (a, rest) ← value (← readColon bytes)
      readMembers value fuel false rest ((name, a) :: done)

def Number.toValue : Number → Value
  | .integer i => .integer i
  | .double x => .double x

def Number.found : Number → Found
  | .integer i => .integer i
  | .double x => .double x

/-- The refusal of a value that starts here and is of another type. A scalar is read first, and a
problem inside it comes before its type. -/
def refuse (expected : String) (b : UInt8) (rest : Bytes) : Error :=
  let mismatch (found : Found) : Error := .mismatch (.invalidType found expected)
  let word (letters : List UInt8) (found : Found) : Error :=
    match readWord letters rest with
    | .error e => e
    | .ok _ => mismatch found
  let number (negative : Bool) (bytes : Bytes) : Error :=
    match readNumber negative bytes with
    | .error e => e
    | .ok (n, _) => mismatch n.found
  if b = 0x6E then word [0x75, 0x6C, 0x6C] .null
  else if b = 0x74 then word [0x72, 0x75, 0x65] (.boolean true)
  else if b = 0x66 then word [0x61, 0x6C, 0x73, 0x65] (.boolean false)
  else if b = 0x2D then number true rest
  else if isDigit b then number false (b :: rest)
  else if b = 0x22 then
    match readString rest with
    | .error e => e
    | .ok (s, _) => mismatch (.text s)
  else if b = 0x5B then mismatch .sequence
  else if b = 0x7B then mismatch .map
  else .malformed

/-- Reads the first byte of a value and hands it on, or refuses a text that has none. -/
def atValue {α : Type} (bytes : Bytes) (next : UInt8 → Bytes → Except Error α) : Except Error α :=
  match skipBlanks bytes with
  | [] => .error .truncated
  | b :: rest => next b rest

/-- The name of the first member of an object that is no object: it stands for the value that the text of
this member spells. -/
def embeddedName : String := "$serde_json::private::RawValue"

def Error.inText : Error → Error
  | .unnamedMember => .mismatch .unnamed
  | .mismatch why => .mismatch why
  | .malformed | .truncated => .mismatch .unwritable

/-- The rest of an object that stands for another value, after the name of its only member. `spelled`
reads the text of the member. -/
def readEmbedded (spelled : Bytes → Except Error Value) (bytes : Bytes) : Except Error (Value × Bytes) := do
  let (text, rest) ← atValue (← readColon bytes) fun b rest =>
    if b = 0x22 then readString rest else .error (refuse "raw value" b rest)
  let v ← (spelled (Utf8.ofString text)).mapError Error.inText
  return (v, ← readEnd 0x7D rest)

/-- Whether an open object has a first member, and this has the name that stands for another value; then
gives what follows the name. -/
def embedded? (bytes : Bytes) : Option Bytes :=
  match nextName true bytes with
  | .ok (some (name, rest)) => if name = embeddedName then some rest else none
  | _ => none

/-- Reads one value in which at most `depth` further brackets open inside each other. `spelled` reads the
texts that stand for values. -/
def readValueWith (spelled : Bytes → Except Error Value) (depth : Nat) (bytes : Bytes) :
    Except Error (Value × Bytes) :=
  match skipBlanks bytes with
  | [] => .error .truncated
  | b :: rest =>
    if b = 0x6E then (readWord [0x75, 0x6C, 0x6C] rest).map fun rest => (.null, rest)
    else if b = 0x74 then (readWord [0x72, 0x75, 0x65] rest).map fun rest => (.boolean true, rest)
    else if b = 0x66 then
      (readWord [0x61, 0x6C, 0x73, 0x65] rest).map fun rest => (.boolean false, rest)
    else if b = 0x22 then (readString rest).map fun (s, rest) => (.text s, rest)
    else if b = 0x2D then (readNumber true rest).map fun (n, rest) => (n.toValue, rest)
    else if isDigit b then (readNumber false (b :: rest)).map fun (n, rest) => (n.toValue, rest)
    else if b = 0x5B then
      match depth with
      | 0 => .error .malformed
      | depth + 1 =>
        (readItems (readValueWith spelled depth) (b :: rest) true rest []).map fun (items, rest) =>
          (.array items, rest)
    else if b = 0x7B then
      match depth with
      | 0 => .error .malformed
      | depth + 1 =>
        match embedded? rest with
        | some rest => readEmbedded spelled rest
        | none =>
          (readMembers (readValueWith spelled depth) (b :: rest) true rest []).map fun (members, rest) =>
            (.ofMembers members, rest)
    else .error .malformed
termination_by structural depth

def readText {α : Type} (read : Nat → Bytes → Except Error (α × Bytes)) (bytes : Bytes) :
    Except Error α := do
  let (a, rest) ← read depthLimit bytes
  expectEnd rest
  return a

/-- The value that a text spells. A text inside it is shorter, so the text itself, as `fuel`, bounds how many
there are inside each other. -/
def readSpelled : (fuel : Bytes) → Bytes → Except Error Value
  | [], _ => .error .truncated
  | _ :: fuel, text => readText (readValueWith (readSpelled fuel)) text

def readValue (depth : Nat) (bytes : Bytes) : Except Error (Value × Bytes) :=
  readValueWith (fun text => readSpelled text text) depth bytes

def parse (bytes : Bytes) : Except Error Value := readText readValue bytes

end Courier.Json
