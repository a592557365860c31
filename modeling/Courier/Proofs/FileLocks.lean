import Courier.Proofs.FileCalls
import Courier.Proofs.StreamWaiting

/-! The two locks of a transport over a file. Every call that waits has a ticket of its own, so no handle is used by two
calls at a time. -/

namespace Courier.Proofs.FileLocks
open FileCalls
open StreamWaiting (acquire_ticket acquire_nextTicket release_nextTicket)

def Has (s : Site) (n : Nat) (handle : Handle) (phase : Phase) (ticket : Nat) : Prop :=
  ∃ op job, s.calls[n]? = some ⟨op, .within job phase ticket⟩ ∧ job.handle = handle

/-- No two calls have the same ticket, and whoever uses a handle holds its lock. -/
structure Owned (s : Site) : Prop where
  old : ∀ {n handle phase ticket}, Has s n handle phase ticket → ticket < (s.locks handle).nextTicket
  distinct : ∀ {n m handle phase other ticket}, Has s n handle phase ticket → Has s m handle other ticket → n = m
  holds : ∀ {n handle phase ticket}, Has s n handle phase ticket → phase ≠ .queued →
    (s.locks handle).isHeldBy ticket = true

private theorem acquire_held {l : Lock} {ticket : Nat} (held : l.isHeldBy ticket = true) :
    l.acquire.2.isHeldBy ticket = true := by
  have holder : l.holder = some ticket := of_decide_eq_true held
  simp only [Lock.acquire, holder]
  exact decide_eq_true rfl

theorem held_once {l : Lock} {ticket other : Nat} (held : l.isHeldBy ticket = true)
    (too : l.isHeldBy other = true) : ticket = other :=
  Option.some.inj ((of_decide_eq_true held : l.holder = some ticket).symm.trans (of_decide_eq_true too))

section
variable {s after : Site} {n m : Nat} {op : Operation} {job : Job} {handle other : Handle} {phase later : Phase}
  {ticket mine : Nat} {event : Event}

private theorem has_setCall {before : Call} {stage : Stage} (found : s.calls[n]? = some before)
    (has : Has (s.setCall n op stage) m handle phase ticket) :
    m = n ∧ (∃ job, stage = .within job phase ticket ∧ job.handle = handle) ∨
      m ≠ n ∧ Has s m handle phase ticket := by
  obtain ⟨other, job, there, kind⟩ := has
  rcases found_set found there with ⟨rfl, same⟩ | ⟨different, there⟩
  · cases same
    exact .inl ⟨rfl, job, rfl, kind⟩
  · exact .inr ⟨different, other, job, there, kind⟩

/-- It is enough that no call has got a ticket, and that whoever now uses a handle holds its lock. -/
theorem Owned.keep (owned : Owned s) (locks : after.locks = s.locks)
    (had : ∀ {n handle phase ticket}, Has after n handle phase ticket → ∃ before, Has s n handle before ticket ∧
      (phase ≠ .queued → (s.locks handle).isHeldBy ticket = true)) : Owned after := by
  refine ⟨?_, ?_, ?_⟩
  · intro n handle phase ticket has
    obtain ⟨_, before, _⟩ := had has
    rw [locks]
    exact owned.old before
  · intro n m handle phase other ticket first second
    obtain ⟨_, first, _⟩ := had first
    obtain ⟨_, second, _⟩ := had second
    exact owned.distinct first second
  · intro n handle phase ticket has uses
    obtain ⟨_, _, held⟩ := had has
    rw [locks]
    exact held uses

private theorem Owned.ask (owned : Owned s) (found : s.calls[n]? = some ⟨op, .admitted job⟩) :
    Owned (s.ask n op job) := by
  let lock := s.locks job.handle
  have fresh : lock.acquire.1 = lock.nextTicket := acquire_ticket lock
  have next : lock.acquire.2.nextTicket = lock.nextTicket + 1 := acquire_nextTicket lock
  have locks (handle : Handle) :
      (s.ask n op job).locks handle = if handle = job.handle then lock.acquire.2 else s.locks handle := rfl
  -- Whoever has a ticket is the call that asks, or had it before.
  have had {m : Nat} {handle : Handle} {phase : Phase} {ticket : Nat}
      (has : Has (s.ask n op job) m handle phase ticket) :
      m = n ∧ handle = job.handle ∧ phase = .queued ∧ ticket = lock.nextTicket ∨
        m ≠ n ∧ Has s m handle phase ticket ∧ ticket < (s.locks handle).nextTicket := by
    rcases has_setCall (s := s.setLock job.handle lock.acquire.2) found has with ⟨rfl, _, same, rfl⟩ | ⟨other, has⟩
    · cases same
      exact .inl ⟨rfl, rfl, rfl, fresh⟩
    · exact .inr ⟨other, has, owned.old has⟩
  refine ⟨?_, ?_, ?_⟩
  · intro m handle phase ticket has
    rw [locks]
    rcases had has with ⟨_, rfl, _, rfl⟩ | ⟨_, _, old⟩
    · rw [if_pos rfl, next]
      exact Nat.lt_succ_self _
    · split
      next same =>
        subst same
        rw [next]
        exact Nat.lt_succ_of_lt old
      next => exact old
  · intro m k handle phase other ticket first second
    rcases had first with ⟨rfl, rfl, _, rfl⟩ | ⟨_, before, old⟩ <;>
      rcases had second with ⟨rfl, same, _, new⟩ | ⟨_, too, young⟩
    · rfl
    · exact absurd young (Nat.lt_irrefl _)
    · subst same new
      exact absurd old (Nat.lt_irrefl _)
    · exact owned.distinct before too
  · intro m handle phase ticket has uses
    rw [locks]
    rcases had has with ⟨_, _, queued, _⟩ | ⟨_, before, _⟩
    · exact absurd queued uses
    · have held := owned.holds before uses
      split
      next same =>
        subst same
        exact acquire_held held
      next => exact held

/-- The holder of a lock gives it up, and all others that use a handle use the other one. -/
theorem Owned.release (owned : Owned s) {before : Call} (found : s.calls[n]? = some before)
    (has : Has s n handle phase ticket) (held : (s.locks handle).isHeldBy ticket = true) {stage : Stage}
    (outside : ∀ job phase ticket, stage ≠ .within job phase ticket) :
    Owned ((s.release handle ticket).setCall n op stage) := by
  have locks (other : Handle) : ((s.release handle ticket).setCall n op stage).locks other =
      if other = handle then (s.locks handle).release ticket else s.locks other := rfl
  have had {m : Nat} {other : Handle} {phase : Phase} {mine : Nat}
      (has : Has ((s.release handle ticket).setCall n op stage) m other phase mine) :
      m ≠ n ∧ Has s m other phase mine := by
    rcases has_setCall (s := s.release handle ticket) found has with ⟨_, job, within, _⟩ | others
    · exact absurd within (outside job phase mine)
    · exact others
  refine ⟨?_, ?_, ?_⟩
  · intro m other phase mine has
    have old := owned.old (had has).2
    rw [locks]
    split
    next same =>
      subst same
      rw [release_nextTicket]
      exact old
    next => exact old
  · intro m k other phase later mine first second
    exact owned.distinct (had first).2 (had second).2
  · intro m other phase mine holds uses
    obtain ⟨different, before⟩ := had holds
    have own := owned.holds before uses
    rw [locks]
    split
    next same =>
      subst same
      obtain rfl := held_once held own
      exact absurd (owned.distinct before has) different
    next => exact own

theorem begin_outside (t : FileTransport) (ended : Option ContextError) (op : Operation) (job : Job) (phase : Phase)
    (ticket : Nat) : (begin t ended op).2 ≠ .within job phase ticket := by
  intro same
  cases op <;> rw [begin] at same <;> split at same <;> cases same

theorem step_owned (owned : Owned s) (moved : s.step event = some after) : Owned after := by
  cases event with
  | write path bytes =>
    obtain rfl := write_cases moved
    exact owned.keep rfl fun has => ⟨_, has, owned.holds has⟩
  | start ended op =>
    cases moved
    have locks : (s.call ended op).locks = s.locks := rfl
    apply owned.keep locks
    rintro n handle phase ticket ⟨other, job, there, kind⟩
    rcases found_append there with before | ⟨_, same⟩
    · have has : Has s n handle phase ticket := ⟨other, job, before, kind⟩
      exact ⟨phase, has, owned.holds has⟩
    · exact absurd (Call.mk.inj same).2.symm (begin_outside s.transport ended op job phase ticket)
  | move n move =>
    rcases move_cases moved with
      ⟨op, job, found, _, rfl⟩ | ⟨op, job, phase, ticket, transport, files, turn, found, may, acted, rfl⟩
    · exact owned.ask found
    · have has : Has s n job.handle phase ticket := ⟨op, job, found, rfl⟩
      have held : (s.locks job.handle).isHeldBy ticket = true := by
        by_cases queued : phase = .queued
        · exact may queued
        · exact owned.holds has queued
      -- The locks and the calls are still those from before the move.
      have owned : Owned { s with transport, files } := owned.keep rfl fun has => ⟨_, has, owned.holds has⟩
      cases turn with
      | ends | passes =>
        apply owned.release found has held
        intro job phase ticket same
        cases same
      | stays later =>
        have locks : (Site.settle { s with transport, files } n op job ticket (.stays later)).locks = s.locks := rfl
        apply owned.keep locks
        intro m handle phase' mine there
        rcases has_setCall (s := { s with transport, files }) found there with ⟨rfl, _, same, rfl⟩ | ⟨_, before⟩
        · cases same
          exact ⟨phase, has, fun _ => held⟩
        · exact ⟨phase', before, owned.holds before⟩

end

end Courier.Proofs.FileLocks
