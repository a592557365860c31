import Courier.Json.Codec

/-! Where the members of a record come from. In every record that is read, whether from an object or from
a list, a member is what the reader of the member found somewhere in the text, or its default. -/

namespace Courier.Proofs.JsonOrigins
open Json

def Read {α : Type} (codec : Codec α) (depth : Nat) (a : α) : Prop :=
  ∃ bytes rest, codec.read depth bytes = .ok (a, rest)

/-- Every member that has been read so far was read by its codec. -/
def Filled (depth : Nat) : {types : List Type} → Members types → Slots types → Prop
  | _, .nil, () => True
  | _, .cons _ codec _ _ more, (slot, slots) => (∀ a ∈ slot, Read codec depth a) ∧ Filled depth more slots

/-- Every member was read by its codec or is its default. -/
def Originates (depth : Nat) : {types : List Type} → Members types → Tuple types → Prop
  | _, .nil, () => True
  | _, .cons _ codec absent _ more, (a, tuple) =>
    (absent = some a ∨ Read codec depth a) ∧ Originates depth more tuple

theorem ok_of_bind {ε α β : Type} {first : Except ε α} {next : α → Except ε β} {b : β}
    (done : first >>= next = .ok b) : ∃ a, first = .ok a ∧ next a = .ok b := by
  cases first with
  | error why => cases done
  | ok a => exact ⟨a, rfl, done⟩

section
variable {types : List Type} {members : Members types} {depth : Nat}

private theorem filled_empty : Filled depth members members.empty := by
  induction members with
  | nil => trivial
  | cons name codec absent omits more ih =>
    refine ⟨?_, ih⟩
    intro a member
    cases member

private theorem readNamed_filled {name : String} {bytes rest : Bytes} {slots after : Slots types}
    (read : members.readNamed depth name bytes slots = .ok (after, rest))
    (filled : Filled depth members slots) : Filled depth members after := by
  induction members generalizing rest with
  | nil => trivial
  | cons own codec absent omits more ih =>
    obtain ⟨slot, slots⟩ := slots
    obtain ⟨first, others⟩ := filled
    rw [Members.readNamed] at read
    split at read
    next =>
      split at read
      next => cases read
      next =>
        obtain ⟨colon, _, read⟩ := ok_of_bind read
        obtain ⟨⟨a, behind⟩, found, read⟩ := ok_of_bind read
        cases read
        refine ⟨?_, others⟩
        rintro _ ⟨⟩
        exact ⟨colon, rest, found⟩
    next =>
      obtain ⟨⟨later, behind⟩, found, read⟩ := ok_of_bind read
      cases read
      exact ⟨first, ih found others⟩

private theorem readNames_filled {fuel bytes rest : Bytes} {first : Bool} {slots after : Slots types}
    (read : members.readNames depth fuel first bytes slots = .ok (after, rest))
    (filled : Filled depth members slots) : Filled depth members after := by
  -- Every name that is found uses a byte of the fuel, whatever it is the name of.
  induction fuel generalizing first bytes slots with
  | nil => cases read
  | cons used fuel ih =>
    rw [Members.readNames] at read
    obtain ⟨next, _, read⟩ := ok_of_bind read
    cases next with
    | none =>
      cases read
      exact filled
    | some found =>
      obtain ⟨⟨middle, behind⟩, named, read⟩ := ok_of_bind read
      exact ih read (readNamed_filled named filled)

private theorem complete_originates {slots : Slots types} {tuple : Tuple types}
    (complete : members.complete slots = .ok tuple) (filled : Filled depth members slots) :
    Originates depth members tuple := by
  induction members with
  | nil => trivial
  | cons name codec absent omits more ih =>
    obtain ⟨slot, slots⟩ := slots
    obtain ⟨first, others⟩ := filled
    have rest (a : _) (same : (more.complete slots).map (a, ·) = .ok tuple) :
        tuple.1 = a ∧ Originates depth more tuple.2 := by
      cases found : more.complete slots with
      | error why =>
        rw [found] at same
        cases same
      | ok later =>
        rw [found] at same
        cases same
        exact ⟨rfl, ih found others⟩
    cases slot with
    | some a =>
      obtain ⟨same, later⟩ := rest a complete
      exact ⟨.inr (same ▸ first a rfl), later⟩
    | none =>
      cases absent with
      | some a =>
        obtain ⟨same, later⟩ := rest a complete
        exact ⟨.inl (congrArg some same.symm), later⟩
      | none => cases complete

private theorem readOrdered_originates {record : String} {size done : Nat} {bytes rest : Bytes}
    {tuple : Tuple types}
    (read : members.readOrdered record size depth done bytes = .ok (tuple, rest)) :
    Originates depth members tuple := by
  induction members generalizing done bytes with
  | nil => trivial
  | cons name codec absent omits more ih =>
    rw [Members.readOrdered.eq_def] at read
    simp only at read
    obtain ⟨next, _, read⟩ := ok_of_bind read
    cases next with
    | none =>
      cases absent with
      | none => cases read
      | some a =>
        obtain ⟨⟨later, behind⟩, found, read⟩ := ok_of_bind read
        cases read
        exact ⟨.inl rfl, ih found⟩
    | some start =>
      obtain ⟨⟨a, after⟩, first, read⟩ := ok_of_bind read
      obtain ⟨⟨later, behind⟩, found, read⟩ := ok_of_bind read
      cases read
      exact ⟨.inr ⟨start, after, first⟩, ih found⟩

theorem record_originates {record : String} {bytes rest : Bytes} {tuple : Tuple types}
    (read : (Codec.record record members).read depth bytes = .ok (tuple, rest)) :
    ∃ inner, Originates inner members tuple := by
  simp only [Codec.record, atValue] at read
  split at read
  next => cases read
  next b start _ =>
    split at read
    next =>
      cases depth with
      | zero => cases read
      | succ inner =>
        obtain ⟨⟨found, after⟩, ordered, read⟩ := ok_of_bind read
        obtain ⟨_, _, read⟩ := ok_of_bind read
        cases read
        exact ⟨inner, readOrdered_originates ordered⟩
    split at read
    next =>
      cases depth with
      | zero => cases read
      | succ inner =>
        obtain ⟨⟨slots, after⟩, named, read⟩ := ok_of_bind read
        obtain ⟨found, complete, read⟩ := ok_of_bind read
        obtain ⟨_, _, read⟩ := ok_of_bind read
        cases read
        exact ⟨inner, complete_originates complete (readNames_filled named filled_empty)⟩
    next => cases read

end

theorem convert_read {α β : Type} {codec : Codec α} {forth : α → β} {back : β → α} {depth : Nat}
    {bytes rest : Bytes} {b : β} (read : (codec.convert forth back).read depth bytes = .ok (b, rest)) :
    ∃ a, codec.read depth bytes = .ok (a, rest) ∧ b = forth a := by
  cases found : codec.read depth bytes with
  | error why =>
    simp only [Codec.convert, found, Except.map] at read
    cases read
  | ok got =>
    simp only [Codec.convert, found, Except.map] at read
    cases read
    exact ⟨got.1, rfl, rfl⟩

end Courier.Proofs.JsonOrigins
