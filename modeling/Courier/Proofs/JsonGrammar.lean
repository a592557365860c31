import Courier.Json.Printer

/-! The grammar of JSON on bytes, after RFC 8259 and apart from any reader. Strings are bodies between
quotes; nothing is said of what they spell, so surrogates may stand alone. -/

namespace Courier.Proofs.JsonGrammar
open Json

/-- A property of each byte of an alphabet can be decided. -/
theorem each {bytes : Bytes} {p : UInt8 → Prop} [DecidablePred p]
    (all : (bytes.all fun b => decide (p b)) = true) : ∀ b ∈ bytes, p b := by
  intro b member
  exact of_decide_eq_true (List.all_eq_true.mp all b member)

def Blank (bytes : Bytes) : Prop := ∀ b ∈ bytes, b ∈ ascii " \t\n\x0d"

instance (bytes : Bytes) : Decidable (Blank bytes) := List.decidableBAll _ bytes

theorem blank_nil : Blank [] := fun _ member => by cases member

def Digits (bytes : Bytes) : Prop := ∀ b ∈ bytes, b ∈ ascii "0123456789"

instance (bytes : Bytes) : Decidable (Digits bytes) := List.decidableBAll _ bytes

/-- A whole number. No zero stands before another digit. -/
inductive Whole : Bytes → Prop where
  | zero : Whole (ascii "0")
  | positive {first : UInt8} {more : Bytes} : first ∈ ascii "123456789" → Digits more →
      Whole (first :: more)

inductive Fraction : Bytes → Prop where
  | none : Fraction []
  | some {digits : Bytes} : digits ≠ [] → Digits digits → Fraction (ascii "." ++ digits)

inductive Exponent : Bytes → Prop where
  | none : Exponent []
  | some {mark : UInt8} {sign digits : Bytes} : mark ∈ ascii "eE" →
      sign ∈ [[], ascii "+", ascii "-"] → digits ≠ [] → Digits digits →
      Exponent (mark :: (sign ++ digits))

inductive Numeral : Bytes → Prop where
  | of {sign whole fraction exponent : Bytes} : sign ∈ [[], ascii "-"] → Whole whole → Fraction fraction →
      Exponent exponent → Numeral (sign ++ (whole ++ (fraction ++ exponent)))

inductive Body : Bytes → Prop where
  | nil : Body []
  | plain {b : UInt8} {rest : Bytes} : 0x20 ≤ b → b ∉ ascii "\"\\" → Body rest → Body (b :: rest)
  | escape {b : UInt8} {rest : Bytes} : b ∈ ascii "\"\\/bfnrt" → Body rest →
      Body (ascii "\\" ++ b :: rest)
  | unit {e f g h : UInt8} {rest : Bytes} : (∀ b ∈ [e, f, g, h], b ∈ ascii "0123456789abcdefABCDEF") →
      Body rest → Body (ascii "\\u" ++ e :: f :: g :: h :: rest)

def quoted (body : Bytes) : Bytes := ascii "\"" ++ (body ++ ascii "\"")

theorem quoted_append (body rest : Bytes) : quoted body ++ rest = 0x22 :: (body ++ 0x22 :: rest) := by
  rw [quoted, List.append_assoc, List.append_assoc]
  rfl

/-- What can be derived. An element is a value with blanks around it. -/
inductive Symbol where
  | value
  | element
  | elements
  | member
  | members

inductive Derives : Symbol → Bytes → Prop where
  | word {bytes : Bytes} : bytes ∈ [ascii "null", ascii "true", ascii "false"] → Derives .value bytes
  | number {bytes : Bytes} : Numeral bytes → Derives .value bytes
  | string {body : Bytes} : Body body → Derives .value (quoted body)
  | emptyList {blanks : Bytes} : Blank blanks → Derives .value (ascii "[" ++ (blanks ++ ascii "]"))
  | list {items : Bytes} : Derives .elements items → Derives .value (ascii "[" ++ (items ++ ascii "]"))
  | emptyObject {blanks : Bytes} : Blank blanks →
      Derives .value (ascii "\x7b" ++ (blanks ++ ascii "\x7d"))
  | object {members : Bytes} : Derives .members members →
      Derives .value (ascii "\x7b" ++ (members ++ ascii "\x7d"))
  | element {before value after : Bytes} : Blank before → Derives .value value → Blank after →
      Derives .element (before ++ (value ++ after))
  | lastElement {item : Bytes} : Derives .element item → Derives .elements item
  | elements {item rest : Bytes} : Derives .element item → Derives .elements rest →
      Derives .elements (item ++ (ascii "," ++ rest))
  | member {before name after item : Bytes} : Blank before → Body name → Blank after →
      Derives .element item → Derives .member (before ++ (quoted name ++ (after ++ (ascii ":" ++ item))))
  | lastMember {item : Bytes} : Derives .member item → Derives .members item
  | members {item rest : Bytes} : Derives .member item → Derives .members rest →
      Derives .members (item ++ (ascii "," ++ rest))

/-- A number that stands before these bytes does not go on in them. -/
def Stops (rest : Bytes) : Prop := ∀ b ∈ rest.head?, b ∉ ascii "0123456789.eE"

theorem stops_nil : Stops [] := fun _ member => by cases member

theorem stops_cons {b : UInt8} (outside : b ∉ ascii "0123456789.eE") (rest : Bytes) :
    Stops (b :: rest) := by
  intro c member
  cases member
  exact outside

theorem Stops.blank {blanks rest : Bytes} (blank : Blank blanks) (stops : Stops rest) :
    Stops (blanks ++ rest) := by
  cases blanks with
  | nil => exact stops
  | cons b more =>
    have outside : ∀ b ∈ ascii " \t\n\x0d", b ∉ ascii "0123456789.eE" := each (by decide)
    exact stops_cons (outside b (blank b List.mem_cons_self)) _

end Courier.Proofs.JsonGrammar
