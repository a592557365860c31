import Courier.Proofs.ReconnectingTasks
import Mathlib.Data.List.Nodup

/-! Connections neither leak nor are closed twice. Wherever a run leads, a connection that a dial brought
is in one place: in the slot, with one task that closes it, or closed. -/

namespace Courier.Proofs.ReconnectingOwnership
open Reconnecting ReconnectingTasks

abbrev closing (c : Connection) : Request := .operate c .close

def owns (c : Connection) (next : Next) : Bool := closing c ∈ requests next

def held (slot : Slot) (c : Connection) : Nat := slot.connection.toList.count c

section
variable (s : System) (c : Connection)

def owners : Nat := s.tasks.countP (owns c)

/-- How often a connection was asked to close. -/
def calls : Nat := s.asked.count (closing c)

def closures : Nat := s.answered.count (closing c)

end

def Idle (s : System) : Prop := ∀ next ∈ s.tasks, requests next = []

/-- The invariant of a run: every connection that a dial brought is in as many places as dials brought
it, and every call to close is in progress or over. -/
structure Conserved (s : System) : Prop where
  places : ∀ c, held s.slot c + owners s c + closures s c = s.dialed.count c
  calls : ∀ c, calls s c = owners s c + closures s c
  fresh : s.dialed.Nodup
  emptied : s.slot.closed = true → s.slot.connection = none
  final : .close ∈ s.begun → s.slot.closed = true

section
variable {slot : Slot} {new : Option Connection} {r : Step} (c : Connection)

private theorem Quiet.owns_eq (quiet : Quiet slot r) : owns c r.next = false := by
  cases asked : r.next with
  | finish reply => rfl
  | ask request phase =>
    have other : request ≠ closing c := by
      rintro rfl
      exact quiet.calm c phase asked
    simp [owns, requests, other.symm]

private theorem owns_closing {phase : Phase} {mine : Connection} (asked : r.next = .ask (closing mine) phase) :
    (owns c r.next).toNat = [mine].count c := by
  rw [asked]
  by_cases same : mine = c
  · simp [owns, requests, same]
  · simp [owns, requests, same, Ne.symm same]

/-- A step moves connections from place to place, and none gets lost. -/
theorem Effect.balance (effect : Effect slot new r) :
    held r.slot c + (owns c r.next).toNat = held slot c + new.toList.count c := by
  cases effect with
  | keep quiet =>
    rw [quiet.slot, Quiet.owns_eq c quiet]
    rfl
  | install live empty quiet =>
    rw [quiet.slot, Quiet.owns_eq c quiet]
    simp [held, empty]
  | reject same asked =>
    rw [same, owns_closing c asked]
    rfl
  | remove found same asked =>
    rw [same, owns_closing c asked]
    simp [held, found]
  | retire found same asked =>
    rw [same, owns_closing c asked]
    simp [held, found]
  | shut empty quiet =>
    rw [quiet.slot, Quiet.owns_eq c quiet]
    simp [held, empty]

private theorem Effect.emptied (effect : Effect slot new r)
    (emptied : slot.closed = true → slot.connection = none) :
    r.slot.closed = true → r.slot.connection = none := by
  cases effect with
  | keep quiet => rw [quiet.slot]; exact emptied
  | install live empty quiet => rw [quiet.slot]; simp [live]
  | reject same _ => rw [same]; exact emptied
  | remove _ same _ => rw [same]; exact fun _ => rfl
  | retire _ same _ => rw [same]; exact fun _ => rfl
  | shut _ quiet => rw [quiet.slot]; exact fun _ => rfl

private theorem count_requests (next : Next) : (requests next).count (closing c) = (owns c next).toNat := by
  cases next with
  | finish reply => rfl
  | ask request phase =>
    by_cases same : request = closing c
    · simp [owns, requests, same]
    · simp [owns, requests, same, Ne.symm same]

end

theorem step_preserves (config : Reconnect) (s : System) (event : Event) (after : System)
    (valid : Conserved s) (stepped : s.step config event = some after) : Conserved after := by
  rcases step_cases stepped with ⟨op, r, effect, final, rfl⟩ |
    ⟨task, request, phase, new, r, waits, effect, fresh, rfl⟩
  · refine ⟨?_, ?_, valid.fresh, Effect.emptied effect valid.emptied, ?_⟩
    · intro c
      have places := valid.places c
      have balance := Effect.balance c effect
      simp only [owners, closures, List.countP_append, List.countP_singleton] at places ⊢
      simp at balance
      cases mine : owns c r.next <;> simp [mine] at balance ⊢ <;> omega
    · intro c
      have same := valid.calls c
      simp only [calls, owners, closures, List.count_append, List.countP_append,
        List.countP_singleton, count_requests] at same ⊢
      cases mine : owns c r.next <;> simp <;> omega
    · intro begun
      rcases List.mem_append.mp begun with before | now
      · exact effect.closed (valid.final before)
      · exact final (List.mem_singleton.mp now).symm
  · have answered (c : Connection) : [request].count (closing c) = (owns c (.ask request phase)).toNat :=
      count_requests c (.ask request phase)
    refine ⟨?_, ?_, ?_, Effect.emptied effect valid.emptied, fun begun => effect.closed (valid.final begun)⟩
    · intro c
      have places := valid.places c
      have balance := Effect.balance c effect
      have moved := countP_set_add waits r.next (owns c)
      simp only [owners, closures, List.count_append, answered] at places ⊢
      omega
    · intro c
      have same := valid.calls c
      have moved := countP_set_add waits r.next (owns c)
      simp only [calls, owners, closures, List.count_append, count_requests, answered] at same ⊢
      omega
    · refine List.nodup_append.mpr ⟨valid.fresh, ?_, ?_⟩
      · cases new <;> simp
      · rintro c before _ now rfl
        exact fresh c (Option.mem_toList.mp now) before

theorem reachable_conserved {config : Reconnect} {s : System} (reached : Reachable config s) :
    Conserved s :=
  reached.invariant Conserved
    ⟨fun _ => rfl, fun _ => rfl, List.nodup_nil, fun _ => rfl, fun begun => by cases begun⟩
    (step_preserves config)

private theorem held_of_eq {slot : Slot} {c : Connection} (found : slot.connection = some c) :
    held slot c = 1 := by
  simp [held, found]

private theorem held_of_ne {slot : Slot} {c : Connection} (other : slot.connection ≠ some c) :
    held slot c = 0 := by
  rw [held, List.count_eq_zero, Option.mem_toList]
  exact other

/-- However operations overlap, a connection that a dial brought is in the slot, with exactly one task
that closes it, or closed once. When no operation is in progress it is in the slot or has been closed
once, and after a close of the transport it is not in the slot. -/
theorem dialed_in_one_place {config : Reconnect} {s : System} (reached : Reachable config s)
    {c : Connection} (dialed : c ∈ s.dialed) :
    (s.slot.connection = some c ∧ owners s c = 0 ∧ closures s c = 0 ∧ calls s c = 0 ∨
      s.slot.connection ≠ some c ∧ owners s c = 1 ∧ closures s c = 0 ∧ calls s c = 1 ∨
      s.slot.connection ≠ some c ∧ owners s c = 0 ∧ closures s c = 1 ∧ calls s c = 1) ∧
    (Idle s → s.slot.connection ≠ some c → closures s c = 1 ∧ calls s c = 1) ∧
    (.close ∈ s.begun → s.slot.connection ≠ some c) := by
  have valid := reachable_conserved reached
  have places := valid.places c
  have same := valid.calls c
  rw [List.count_eq_one_of_mem valid.fresh dialed] at places
  refine ⟨?_, ?_, ?_⟩
  · by_cases found : s.slot.connection = some c
    · rw [held_of_eq found] at places
      exact .inl ⟨found, by omega, by omega, by omega⟩
    · rw [held_of_ne found] at places
      rcases (by omega : owners s c = 1 ∧ closures s c = 0 ∨ owners s c = 0 ∧ closures s c = 1) with
        ⟨one, none⟩ | ⟨none, one⟩
      · exact .inr (.inl ⟨found, one, none, by omega⟩)
      · exact .inr (.inr ⟨found, none, one, by omega⟩)
  · intro idle other
    have nobody : owners s c = 0 := by
      rw [owners, List.countP_eq_zero]
      intro next member
      simp [owns, idle next member]
    rw [held_of_ne other, nobody] at places
    omega
  · intro closed found
    rw [valid.emptied (valid.final closed)] at found
    cases found

/-- Two tasks dial at once: 7 wins, and 8 is closed. Then 7 breaks and one of the tasks closes it, while
a third has dialed 9. -/
def contested : System where
  slot := { connection := some 9 }
  begun := [.receive, .receive, .receive]
  tasks :=
    [.ask (.operate 7 .close) (.dropping .receive (.closed "peer")),
      .ask (.operate 7 .receive) (.using .receive 7 false),
      .ask (.operate 9 .receive) (.using .receive 9 false)]
  dialed := [7, 8, 9]
  asked :=
    [.dial, .dial, .operate 7 .receive, closing 8, closing 7, .operate 7 .receive, .dial,
      .operate 9 .receive]
  answered := [.dial, .dial, .operate 7 .receive, closing 8, .dial]

theorem dialed_in_one_place_contested :
    Reachable {} contested ∧ 7 ∈ contested.dialed ∧ owners contested 7 = 1 ∧
      8 ∈ contested.dialed ∧ closures contested 8 = 1 ∧ contested.slot.connection ≠ some 8 := by
  have reached : Reachable {} contested :=
    ⟨[.start .receive none, .start .receive none, .answer 0 none (.ok 7) (.ok none),
      .answer 1 none (.ok 8) (.ok none), .answer 0 none (.ok 0) (.error (.closed "peer")),
      .answer 1 none (.ok 0) (.ok none), .start .receive none, .answer 2 none (.ok 9) (.ok none)], rfl⟩
  have failed : 7 ∈ contested.dialed := by decide
  have late : 8 ∈ contested.dialed := by decide
  obtain ⟨inSlot | ⟨_, one, _⟩ | ⟨_, none, _⟩, _⟩ := dialed_in_one_place reached failed
  · exact absurd inSlot.1 (by decide)
  · obtain ⟨inSlot | ⟨_, one', _⟩ | ⟨other, _, closed, _⟩, _⟩ := dialed_in_one_place reached late
    · exact absurd inSlot.1 (by decide)
    · exact absurd one' (by decide)
    · exact ⟨reached, failed, one, late, closed, other⟩
  · exact absurd none (by decide)

end Courier.Proofs.ReconnectingOwnership
