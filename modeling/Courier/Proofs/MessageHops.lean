import Courier.Proofs.ChecksumTransfer
import Courier.Proofs.MessageLines

/-! Messages that are handed on. Whoever receives a message can write it, and the next one receives it. A
payload that was absent is a null after the first hop; all else is as it was, and no later hop changes
anything. -/

namespace Courier.Proofs.MessageHops
open Json JsonGrammar JsonOrigins MessageRoundTrip ChecksumTransfer MessageLines

def settled (m : Message) : Message :=
  { m with payload := if m.payload.isEmpty then ascii "null" else m.payload }

/-- The bytes of so many hops, and the message after them. -/
def travel (m : Message) : Nat → Except ProtocolError (List Bytes × Message)
  | 0 => .ok ([], m)
  | hops + 1 => do
    let wire ← m.marshal
    let received ← Message.unmarshal wire
    let (wires, last) ← travel received hops
    return (wire :: wires, last)

private theorem integer_read {low high i : Int} {expected : String} {depth : Nat}
    (read : Read (Codec.integer low high expected) depth i) : low ≤ i ∧ i ≤ high := by
  obtain ⟨bytes, rest, read⟩ := read
  obtain ⟨⟨n, after⟩, _, read⟩ := ok_of_bind read
  cases n with
  | integer found =>
    simp only at read
    split at read
    next inside =>
      cases read
      simpa using inside
    next => cases read
  | double x => cases read

section
variable {data : Bytes} {m : Message} (received : Message.unmarshal data = .ok m)
include received

private theorem timestamp_received : -9223372036854775808 ≤ m.timestamp ∧ m.timestamp ≤ 9223372036854775807 := by
  obtain ⟨inner, _, _, _, _, _, _, timestamp, _⟩ := originates_received received
  rcases timestamp with default | read
  · cases default
  · exact integer_read read

private theorem checksum_received : m.checksum ≤ 4294967295 := by
  obtain ⟨inner, checksum, same, _, _, _, _, _, _, origin, _⟩ := originates_received received
  rw [same]
  rcases origin with default | read
  · cases default
    decide
  · have bounds := integer_read read
    omega

private theorem settled_payload :
    Derives .value (settled m).payload ∧ Utf8.isText (settled m).payload = true := by
  rcases payload_received received with none | ⟨derived, text⟩
  · have same : (settled m).payload = ascii "null" := by
      rw [settled, none]
      rfl
    rw [same]
    exact ⟨.word (by decide), Utf8Decoding.isText_ofString "null"⟩
  · have same : (settled m).payload = m.payload := if_neg (isEmpty_value derived)
    rw [same]
    exact ⟨derived, text⟩

private theorem settled_writable : Writable (settled m) := by
  obtain ⟨derived, text⟩ := settled_payload received
  have timestamp := timestamp_received received
  have checksum := checksum_received received
  exact ⟨timestamp, checksum, derived, Utf8Decoding.ofString_of_isText text⟩

private theorem write_settled : Message.codec.write m = Message.codec.write (settled m) := by
  apply write_payload m
  rcases payload_received received with none | ⟨derived, _⟩
  · rw [none]
    rfl
  · rw [if_neg (isEmpty_value derived)]

private theorem settled_valid (small : (Message.codec.write (settled m)).length ≤ Message.maxSize) :
    (settled m).validate = .ok () := by
  obtain ⟨_, _, valid⟩ := unmarshal_iff.mp received
  obtain ⟨version, id, source, kind, _⟩ := validate_iff.mp valid
  have fits := length_payload_le (settled_writable received)
  exact validate_iff.mpr ⟨version, id, source, kind, Nat.le_trans fits small⟩

end

section
variable {m next last : Message} {wire : Bytes} {wires : List Bytes} {hops : Nat}

private theorem travel_hop (written : m.marshal = .ok wire) (back : Message.unmarshal wire = .ok next)
    (further : travel next hops = .ok (wires, last)) :
    travel m (hops + 1) = .ok (wire :: wires, last) := by
  simp only [travel, written, bind, Except.bind, back, further]
  rfl

private theorem travel_settled (written : m.marshal = .ok wire) (back : Message.unmarshal wire = .ok m)
    (hops : Nat) : travel m hops = .ok (List.replicate hops wire, m) := by
  induction hops with
  | zero => rfl
  | succ hops ih => exact travel_hop written back ih

end

/-- Whatever was received is written, and unless that is too large the next one receives it, with a null where
no payload was. From then on every hop takes the same bytes and gives the same message. -/
theorem settles_in_one_hop {data : Bytes} {m : Message} (received : Message.unmarshal data = .ok m) :
    ∃ wire, m.marshal = .ok wire ∧
      (wire.length ≤ Message.maxSize → Message.unmarshal wire = .ok (settled m) ∧
        (settled m).marshal = .ok wire ∧
        ∀ hops, travel (settled m) hops = .ok (List.replicate hops wire, settled m)) := by
  refine ⟨_, marshal_received received, ?_⟩
  rw [write_settled received]
  intro small
  have writable := settled_writable received
  have written := marshal_eq writable
  have back := unmarshal_write writable (settled_valid received small) small
  exact ⟨back, written, travel_settled written back⟩

def listed : Bytes := ascii " [\"1\" ,\"\\u006d\",\"s\\n\",\"t\", -5]\n"

def unpaid : Message := ⟨"1", "m", "s\n", "t", -5, [], 0⟩

theorem settles_in_one_hop_listed :
    Message.unmarshal listed = .ok unpaid ∧ ∃ wire, unpaid.marshal = .ok wire ∧
      travel unpaid 3 = .ok ([wire, wire, wire], { unpaid with payload := ascii "null" }) := by
  have received : Message.unmarshal listed = .ok unpaid := by decide +kernel
  obtain ⟨wire, written, onward⟩ := settles_in_one_hop received
  have small : wire.length ≤ Message.maxSize := by
    rw [marshal_received received] at written
    cases written
    decide +kernel
  obtain ⟨back, _, further⟩ := onward small
  exact ⟨received, wire, written, travel_hop written back (further 2)⟩

end Courier.Proofs.MessageHops
