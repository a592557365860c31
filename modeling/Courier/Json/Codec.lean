import Courier.Json.Reader
import Courier.Json.Printer

/-! Typed JSON. A codec reads and writes the values of one type; records are codecs built from their
members. Reading stops at the first problem in the text, so a value of the wrong type is noticed
before anything that follows it. -/

namespace Courier.Json

/-- How the values of a type are read and written. Reading takes how many brackets may still open. -/
structure Codec (α : Type) where
  read : Nat → Bytes → Except Error (α × Bytes)
  write : α → Bytes

namespace Codec

def text : Codec String where
  read _ bytes := atValue bytes fun b rest =>
    if b = 0x22 then readString rest else .error (refuse "a string" b rest)
  write := writeString

def boolean : Codec Bool where
  read _ bytes := atValue bytes fun b rest =>
    if b = 0x74 then (readWord [0x72, 0x75, 0x65] rest).map (true, ·)
    else if b = 0x66 then (readWord [0x61, 0x6C, 0x73, 0x65] rest).map (false, ·)
    else .error (refuse "a boolean" b rest)
  write b := ascii (if b then "true" else "false")

def readNumeric (expected : String) (bytes : Bytes) : Except Error (Number × Bytes) :=
  atValue bytes fun b rest =>
    if b = 0x2D then readNumber true rest
    else if isDigit b then readNumber false (b :: rest)
    else .error (refuse expected b rest)

def integer (low high : Int) (expected : String) : Codec Int where
  read _ bytes := do
    let (n, rest) ← readNumeric expected bytes
    match n with
    | .integer i =>
      if low ≤ i && i ≤ high then .ok (i, rest)
      else .error (.mismatch (.invalidValue (.integer i) expected))
    | .double x => .error (.mismatch (.invalidType (.double x) expected))
  write := writeInt

def int64 : Codec Int := integer (-9223372036854775808) 9223372036854775807 "i64"

def word32 : Codec Int := integer 0 4294967295 "u32"

def double : Codec Binary64 where
  read _ bytes := do
    let (n, rest) ← readNumeric "f64" bytes
    match n with
    | .integer i => .ok (.ofInt i, rest)
    | .double x => .ok (x, rest)
  write := writeDouble

def value : Codec Value where
  read := readValue
  write := Value.write

def raw : Codec Bytes where
  read _ bytes := readRaw bytes
  write bytes := bytes

def list {α : Type} (item : Codec α) : Codec (List α) where
  read depth bytes := atValue bytes fun b rest =>
    if b = 0x5B then
      match depth with
      | 0 => .error .malformed
      | depth + 1 => readItems (item.read depth) (b :: rest) true rest []
    else .error (refuse "a sequence" b rest)
  write items := writeList (items.map item.write)

/-- Values of one type under names, sorted by name. -/
def table {α : Type} (item : Codec α) : Codec (List (String × α)) where
  read depth bytes := atValue bytes fun b rest =>
    if b = 0x7B then
      match depth with
      | 0 => .error .malformed
      | depth + 1 =>
        (readMembers (item.read depth) (b :: rest) true rest []).map fun (members, rest) =>
          (sortMembers members, rest)
    else .error (refuse "a map" b rest)
  write entries := writeObject (entries.map fun (name, a) => writeMember name (item.write a))

end Codec

/-- The values of the members of a record, in the order of its declaration. -/
def Tuple : List Type → Type
  | [] => Unit
  | α :: rest => α × Tuple rest

/-- The members of a record that have been read so far. -/
def Slots : List Type → Type
  | [] => Unit
  | α :: rest => Option α × Slots rest

/-- The members of a record in the order of its declaration. A member with a default may be absent,
and is left out when `omits` holds of it. -/
inductive Members : List Type → Type 1 where
  | nil : Members []
  | cons {α : Type} {rest : List Type} (name : String) (codec : Codec α) (absent : Option α)
      (omits : α → Bool) (more : Members rest) : Members (α :: rest)

namespace Members

def required {α : Type} {rest : List Type} (name : String) (codec : Codec α)
    (more : Members rest) : Members (α :: rest) :=
  cons name codec none (fun _ => false) more

/-- A member that is left out when it equals its default. -/
def optional {α : Type} {rest : List Type} (name : String) (codec : Codec α) (absent : α)
    (omits : α → Bool) (more : Members rest) : Members (α :: rest) :=
  cons name codec (some absent) omits more

def size : {types : List Type} → Members types → Nat
  | _, nil => 0
  | _, cons _ _ _ _ more => more.size + 1

def empty : {types : List Type} → Members types → Slots types
  | _, nil => ()
  | _, cons _ _ _ _ more => (none, more.empty)

/-- Reads the member of the given name, after its colon, into its slot. Members of other names are
passed over; a name may not occur twice, which is noticed before its second value is read. -/
def readNamed (depth : Nat) (name : String) (bytes : Bytes) :
    {types : List Type} → Members types → Slots types → Except Error (Slots types × Bytes)
  | _, nil, () => do return ((), ← skipValue (← readColon bytes))
  | _, cons own codec _ _ more, (slot, slots) =>
    if own = name then
      if slot.isSome then .error (.mismatch (.duplicateField name))
      else do
        let (a, rest) ← codec.read depth (← readColon bytes)
        return ((some a, slots), rest)
    else do
      let (slots, rest) ← readNamed depth name bytes more slots
      return ((slot, slots), rest)

/-- The members of an open object up to its closing bracket. Every member takes a byte of `fuel`. -/
def readNames (depth : Nat) {types : List Type} (members : Members types) :
    (fuel : Bytes) → Bool → Bytes → Slots types → Except Error (Slots types × Bytes)
  | [], _, _, _ => .error .truncated
  | _ :: fuel, first, bytes, slots => do
    match ← nextName first bytes with
    | none => return (slots, bytes)
    | some (name, bytes) =>
      let (slots, rest) ← members.readNamed depth name bytes slots
      readNames depth members fuel false rest slots

/-- The record of the members that were read. The first absent member without a default is missed. -/
def complete : {types : List Type} → Members types → Slots types → Except Error (Tuple types)
  | _, nil, () => .ok ()
  | _, cons name _ absent _ more, (slot, slots) =>
    match slot, absent with
    | some a, _ => (more.complete slots).map (a, ·)
    | none, some a => (more.complete slots).map (a, ·)
    | none, none => .error (.mismatch (.missingField name))

def expectation (record : String) (size : Nat) : String :=
  s!"struct {record} with {size} element" ++ if size = 1 then "" else "s"

/-- The members as the items of an open list, in order. -/
def readOrdered (record : String) (size depth : Nat) :
    Nat → Bytes → {types : List Type} → Members types → Except Error (Tuple types × Bytes)
  | _, bytes, _, nil => .ok ((), bytes)
  | done, bytes, _, cons _ codec absent _ more => do
    match ← nextItem (done = 0) bytes with
    | none =>
      match absent with
      | none => .error (.mismatch (.invalidLength done (expectation record size)))
      | some a => do
        let (tuple, rest) ← readOrdered record size depth (done + 1) bytes more
        return ((a, tuple), rest)
    | some bytes => do
      let (a, rest) ← codec.read depth bytes
      let (tuple, rest) ← readOrdered record size depth (done + 1) rest more
      return ((a, tuple), rest)

def writeAll : {types : List Type} → Members types → Tuple types → List Bytes
  | _, nil, () => []
  | _, cons name codec absent omits more, (a, tuple) =>
    let rest := more.writeAll tuple
    if absent.isSome && omits a then rest else writeMember name (codec.write a) :: rest

end Members

/-- A record as an object of its members, or as the list of them in order. -/
def Codec.record {types : List Type} (name : String) (members : Members types) :
    Codec (Tuple types) where
  read depth bytes := atValue bytes fun b rest =>
    if b = 0x5B then
      match depth with
      | 0 => .error .malformed
      | depth + 1 => do
        let (tuple, rest) ← members.readOrdered name members.size depth 0 rest
        return (tuple, ← readEnd 0x5D rest)
    else if b = 0x7B then
      match depth with
      | 0 => .error .malformed
      | depth + 1 => do
        let (slots, rest) ← members.readNames depth (b :: rest) true rest members.empty
        let tuple ← members.complete slots
        return (tuple, ← readEnd 0x7D rest)
    else .error (refuse s!"struct {name}" b rest)
  write tuple := writeObject (members.writeAll tuple)

/-- A codec for a type that is told apart from the coded one by two conversions. -/
def Codec.convert {α β : Type} (codec : Codec α) (forth : α → β) (back : β → α) : Codec β where
  read depth bytes := (codec.read depth bytes).map fun (a, rest) => (forth a, rest)
  write b := codec.write (back b)

end Courier.Json
