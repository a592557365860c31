import Courier.Binary64.Shortest

/-! JSON values. Members of an object are sorted by name, and a name occurs once. -/

namespace Courier.Json

/-- A JSON value. Integers are those between -2^63 and 2^64; every other number is a double. -/
inductive Value where
  | null
  | boolean (b : Bool)
  | integer (i : Int)
  | double (x : Binary64)
  | text (s : String)
  | array (items : List Value)
  | object (members : List (String × Value))
deriving Repr, Inhabited

/-- Puts a pair into a list sorted by name; a pair of the same name is replaced. -/
def insertSorted {α : Type} (name : String) (a : α) : List (String × α) → List (String × α)
  | [] => [(name, a)]
  | (other, b) :: rest =>
    if name < other then (name, a) :: (other, b) :: rest
    else if name = other then (name, a) :: rest
    else (other, b) :: insertSorted name a rest

/-- Sorts pairs by name; of two pairs with one name the last stays. -/
def sortMembers {α : Type} (pairs : List (String × α)) : List (String × α) :=
  pairs.foldl (fun done (name, a) => insertSorted name a done) []

namespace Value

def ofMembers (pairs : List (String × Value)) : Value := object (sortMembers pairs)

def member? (v : Value) (name : String) : Option Value :=
  match v with
  | object members => members.lookup name
  | _ => none

/-- The member of an object; a missing member and a null are one. -/
def field? (v : Value) (name : String) : Option Value :=
  match v.member? name with
  | some null => none
  | found => found

def text? : Value → Option String
  | text s => some s
  | _ => none

def boolean? : Value → Option Bool
  | boolean b => some b
  | _ => none

def integer? : Value → Option Int
  | integer i => some i
  | _ => none

def natural? : Value → Option Nat
  | integer i => if 0 ≤ i then some i.toNat else none
  | _ => none

def array? : Value → Option (List Value)
  | array items => some items
  | _ => none

def members? : Value → Option (List (String × Value))
  | object members => some members
  | _ => none

end Value
end Courier.Json
