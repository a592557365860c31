import Courier.Binary64.Shortest
import Courier.Text.Quoted

/-! Why a JSON text was refused. A text that ends too early, one that is malformed, and one that is
well-formed but of another type are told apart; the first problem in the text decides. -/

namespace Courier.Json

/-- JSON numbers are written with the fewest digits, with a point or an exponent, and positionally
from 1e-5 up to 1e16. -/
def numberStyle : Binary64.Style := ⟨-5, 16, true, true, "null", "null"⟩

inductive Found where
  | null
  | boolean (b : Bool)
  | integer (i : Int)
  | double (x : Binary64)
  | text (s : String)
  | sequence
  | map
deriving Repr, DecidableEq

/-- How a well-formed text misses the wanted type. -/
inductive Mismatch where
  | missingField (name : String)
  | duplicateField (name : String)
  | invalidType (found : Found) (expected : String)
  | invalidValue (found : Found) (expected : String)
  | invalidLength (length : Nat) (expected : String)
  | unknownVariant (name : String) (variants : List String)
  | unnamed
  /-- Bytes that cannot stand as a value in a JSON text. -/
  | unwritable
deriving Repr, DecidableEq

inductive Error where
  | malformed
  /-- Malformed where the name of a member should stand. -/
  | unnamedMember
  | truncated
  | mismatch (why : Mismatch)
deriving Repr, DecidableEq

def Error.category : Error → String
  | malformed => "syntax"
  | unnamedMember => "syntax"
  | truncated => "eof"
  | mismatch _ => "data"

/-- The words for what was found, with doubles written by the given function. -/
def Found.words (double : Binary64 → String) : Found → String
  | null => "null"
  | boolean b => s!"boolean `{b}`"
  | integer i => s!"integer `{i}`"
  | .double x => s!"floating point `{double x}`"
  | text s => "string " ++ Text.quoted s
  | sequence => "sequence"
  | map => "map"

def variantWords : List String → String
  | [] => "there are no variants"
  | [one] => s!"expected `{one}`"
  | [one, two] => s!"expected `{one}` or `{two}`"
  | many => "expected one of " ++ ", ".intercalate (many.map fun name => s!"`{name}`")

/-- The words for a mismatch, where it has words of its own. -/
def Mismatch.words? (double : Binary64 → String) : Mismatch → Option String
  | missingField name => some s!"missing field `{name}`"
  | duplicateField name => some s!"duplicate field `{name}`"
  | invalidType found expected => some s!"invalid type: {found.words double}, expected {expected}"
  | invalidValue found expected => some s!"invalid value: {found.words double}, expected {expected}"
  | invalidLength length expected => some s!"invalid length {length}, expected {expected}"
  | unknownVariant name variants => some s!"unknown variant `{name}`, {variantWords variants}"
  | unnamed => some "key must be a string"
  | unwritable => none

end Courier.Json
