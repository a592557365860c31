import Courier.Proofs.StreamReceiving
import Courier.Simulation.Scheduler
import Mathlib.Data.List.Permutation

/-! Receives that overlap on one stream. One of them has the reader, and the others are in line for it.
Whoever has the reader is woken by the end of its context as well as by what arrives; whoever is in line is
woken by nothing but the reader. -/

namespace Courier.Proofs.StreamWaiting
open Simulation

/-! ### Locks -/

def tickets (l : Lock) : List Nat := l.holder.toList ++ l.waiting

/-- Nobody waits for a free lock, and every ticket is given out once. -/
structure Orderly (l : Lock) : Prop where
  free : l.holder = none → l.waiting = []
  distinct : (tickets l).Nodup
  old : ∀ ticket ∈ tickets l, ticket < l.nextTicket

section
variable {l : Lock}

theorem acquire_ticket (l : Lock) : l.acquire.1 = l.nextTicket := by
  rw [Lock.acquire]
  cases l.holder <;> rfl

theorem acquire_nextTicket (l : Lock) : l.acquire.2.nextTicket = l.nextTicket + 1 := by
  rw [Lock.acquire]
  cases l.holder <;> rfl

private theorem release_tickets (l : Lock) (ticket : Nat) :
    tickets (l.release ticket) = (tickets l).erase ticket := by
  unfold Lock.release
  split
  next held =>
    have held : l.holder = some ticket := of_decide_eq_true held
    cases waiting : l.waiting <;> simp [tickets, Lock.handOn, waiting, held]
  next other =>
    have other : l.holder ≠ some ticket := of_decide_eq_false (by simpa [Lock.isHeldBy] using other)
    cases held : l.holder with
    | none => simp [tickets, held]
    | some holder =>
      have different : holder ≠ ticket := by
        rintro rfl
        exact other held
      simp [tickets, held, different]

theorem release_nextTicket (l : Lock) (ticket : Nat) : (l.release ticket).nextTicket = l.nextTicket := by
  unfold Lock.release Lock.handOn
  split
  · split <;> rfl
  · rfl

private theorem release_orderly (orderly : Orderly l) (ticket : Nat) : Orderly (l.release ticket) := by
  have same := release_tickets l ticket
  have next := release_nextTicket l ticket
  refine ⟨?_, ?_, ?_⟩
  · unfold Lock.release Lock.handOn
    split
    · split
      next waiting => exact fun _ => waiting
      next => exact fun none => by cases none
    · intro free
      rw [orderly.free free]
      rfl
  · rw [same]
    exact orderly.distinct.erase ticket
  · intro other member
    rw [same] at member
    rw [next]
    exact orderly.old other (List.mem_of_mem_erase member)

end

/-! ### Looks -/

def waitingFor (place : Place) (ctx : Context) (ticket : Nat) : Status :=
  .waiting [] ctx (.streamReceive place ticket) {}

section
variable {w : World} {place : Place} {ctx : Context} {ticket : Nat} {t after : StreamTransport}

theorem inside_of_device (found : w.device place ≠ default) : place < w.devices.size := by
  rcases Nat.lt_or_ge place w.devices.size with inside | outside
  · exact inside
  · rw [World.device, Array.getD_eq_getD_getElem?, Array.getElem?_eq_none outside] at found
    exact (found rfl).elim

theorem inside_of_stream (found : w.device place = .stream t) : place < w.devices.size :=
  inside_of_device (found ▸ nofun)

theorem device_setDevice (inside : place < w.devices.size) (d : Device) :
    (w.setDevice place d).device place = d := by
  simp [World.device, World.setDevice, inside]

/-- What comes of a look: the receive waits on, or it returns and gives up its ticket. -/
inductive Looked (place : Place) (ctx : Context) (ticket : Nat) (t : StreamTransport) :
    World × Status → Prop where
  | waits {w : World} {after : StreamTransport} : w.device place = .stream after → after.lock = t.lock →
      Looked place ctx ticket t (w, waitingFor place ctx ticket)
  | returns {w : World} {after : StreamTransport} (reply : Reply) (time : Instant) :
      w.device place = .stream after → after.lock = t.lock.release ticket →
      Looked place ctx ticket t (w, .finished (.reply reply) time)

end

/-! ### Receives that overlap -/

/-- A world with a stream, and the receives on it that have been started and not been given up. -/
structure Receivers where
  world : World
  tasks : List Status := []

inductive Event where
  | start (ctx : Context)
  | turn (task : Nat)
  | drop (task : Nat)
  | arrive (chunk : Bytes)
  | close
  /-- Time passes, and what was planned for it is done. -/
  | pass (time : Instant)
  | cancel (token : Token)

namespace Receivers

/-- Something happens to the input of the stream, unless it is at its end. -/
def input (place : Place) (s : Receivers) (change : StreamTransport → StreamTransport) : Option Receivers :=
  match s.world.device place with
  | .stream t =>
    if t.inputEnded then none else some { s with world := s.world.setDevice place (.stream (change t)) }
  | _ => none

def step (place : Place) (s : Receivers) : Event → Option Receivers
  | .start ctx =>
    let (world, status) := s.world.step Session.fuel (.starting ctx (.operate place .receive))
    some { world, tasks := s.tasks ++ [status] }
  | .turn task =>
    match s.tasks[task]? with
    | some status =>
      if s.world.isReady status then
        let (world, status) := s.world.step Session.fuel status
        some { world, tasks := s.tasks.set task status }
      else none
    | none => none
  | .drop task =>
    match s.tasks[task]? with
    | some status => some { world := s.world.abandon status, tasks := s.tasks.eraseIdx task }
    | none => none
  | .arrive chunk => s.input place (·.feed chunk)
  | .close => s.input place fun t => { t with inputEnded := true }
  | .pass time => some { s with world := { s.world with clock := s.world.clock.advanceTo time } }
  | .cancel token => some { s with world := { s.world with clock := s.world.clock.cancel token } }

/-- A receive waits for a line, and not for the reader. -/
def Reads (place : Place) (s : Receivers) (task : Nat) : Prop :=
  ∃ ctx ticket t, s.tasks[task]? = some (waitingFor place ctx ticket) ∧ s.world.device place = .stream t ∧
    t.hasReader ticket = true

end Receivers

def ticket? : Status → Option Nat
  | .waiting _ _ (.streamReceive _ ticket) _ => some ticket
  | _ => none

inductive Stands (place : Place) : Status → Prop where
  | waits (ctx : Context) (ticket : Nat) : Stands place (waitingFor place ctx ticket)
  | returned (reply : Reply) (time : Instant) : Stands place (.finished (.reply reply) time)

structure Queued (place : Place) (s : Receivers) : Prop where
  stands : ∀ status ∈ s.tasks, Stands place status
  stream : ∃ t, s.world.device place = .stream t ∧ Orderly t.lock ∧
    (s.tasks.filterMap ticket?).Perm (tickets t.lock)

section
variable {place : Place} {s after : Receivers} {task : Nat} {status new : Status}

private theorem tickets_erase (found : s.tasks[task]? = some status) :
    (s.tasks.filterMap ticket?).Perm ((ticket? status).toList ++ (s.tasks.eraseIdx task).filterMap ticket?) := by
  obtain ⟨inside, rfl⟩ := List.getElem?_eq_some_iff.mp found
  have split := (List.getElem_cons_eraseIdx_perm inside).symm.filterMap ticket?
  cases ticket : ticket? s.tasks[task] <;> simpa [List.filterMap_cons, ticket] using split

private theorem tickets_set (found : s.tasks[task]? = some status) (new : Status) :
    ((s.tasks.set task new).filterMap ticket?).Perm
      ((ticket? new).toList ++ (s.tasks.eraseIdx task).filterMap ticket?) := by
  obtain ⟨inside, rfl⟩ := List.getElem?_eq_some_iff.mp found
  have split := (List.set_perm_cons_eraseIdx inside new).filterMap ticket?
  cases ticket : ticket? new <;> simpa [List.filterMap_cons, ticket] using split

private theorem Looked.queued {ctx : Context} {ticket : Nat} {t : StreamTransport} {result : World × Status}
    (looked : Looked place ctx ticket t result) (orderly : Orderly t.lock) {others : List Nat}
    (same : (ticket :: others).Perm (tickets t.lock)) :
    Stands place result.2 ∧ ∃ after, result.1.device place = .stream after ∧ Orderly after.lock ∧
      ((ticket? result.2).toList ++ others).Perm (tickets after.lock) := by
  cases looked with
  | waits found lock =>
    rw [← lock] at orderly same
    exact ⟨.waits ctx ticket, _, found, orderly, same⟩
  | returns reply time found lock =>
    refine ⟨.returned reply time, _, found, ?_, ?_⟩
    · rw [lock]
      exact release_orderly orderly ticket
    · rw [lock, release_tickets]
      exact (List.cons_perm_iff_perm_erase.mp same).2

private theorem Queued.append (valid : Queued place s) {world : World} {t : StreamTransport}
    (stands : Stands place status) (found : world.device place = .stream t) (orderly : Orderly t.lock)
    (same : ((ticket? status).toList ++ s.tasks.filterMap ticket?).Perm (tickets t.lock)) :
    Queued place { world, tasks := s.tasks ++ [status] } := by
  refine ⟨?_, t, found, orderly, ?_⟩
  · intro other member
    rcases List.mem_append.mp member with before | now
    · exact valid.stands other before
    · rw [List.mem_singleton.mp now]
      exact stands
  · have last : [status].filterMap ticket? = (ticket? status).toList := by
      cases ticket : ticket? status <;> simp [ticket]
    rw [List.filterMap_append, last]
    exact List.perm_append_comm.trans same

private theorem Queued.set (valid : Queued place s) (listed : s.tasks[task]? = some status) {world : World}
    {t : StreamTransport} (stands : Stands place new) (found : world.device place = .stream t)
    (orderly : Orderly t.lock)
    (same : ((ticket? new).toList ++ (s.tasks.eraseIdx task).filterMap ticket?).Perm (tickets t.lock)) :
    Queued place { world, tasks := s.tasks.set task new } := by
  refine ⟨?_, t, found, orderly, (tickets_set listed new).trans same⟩
  intro other member
  rcases List.mem_or_eq_of_mem_set member with before | rfl
  · exact valid.stands other before
  · exact stands

structure Fresh (place : Place) (first : World) : Prop where
  stream : ∃ t, first.device place = .stream t ∧ t.lock = {}

abbrev Reachable (place : Place) (s : Receivers) : Prop :=
  ∃ first, Fresh place first ∧ Leads (Receivers.step place) { world := first } s

theorem Queued.distinct (valid : Queued place s) {other : Nat} {ctx otherCtx : Context} {ticket reader : Nat}
    (waits : s.tasks[task]? = some (waitingFor place ctx ticket))
    (reads : s.tasks[other]? = some (waitingFor place otherCtx reader)) (another : other ≠ task) :
    reader ≠ ticket := by
  obtain ⟨t, _, orderly, same⟩ := valid.stream
  have listed := (tickets_erase waits).symm.trans same
  have nodup := (listed.nodup_iff.mpr orderly.distinct)
  have member : reader ∈ (s.tasks.eraseIdx task).filterMap ticket? :=
    List.mem_filterMap.mpr ⟨_, List.mem_eraseIdx_iff_getElem?.mpr ⟨other, another, reads⟩, rfl⟩
  rintro rfl
  exact (List.nodup_cons.mp nodup).1 member

/-- A receive that has not got the reader is in line behind one that has. -/
theorem Queued.reader (valid : Queued place s) {t : StreamTransport} (found : s.world.device place = .stream t)
    {ctx : Context} {ticket : Nat} (waits : s.tasks[task]? = some (waitingFor place ctx ticket))
    (queued : t.hasReader ticket = false) :
    ∃ other otherCtx reader, other ≠ task ∧ s.tasks[other]? = some (waitingFor place otherCtx reader) ∧
      t.hasReader reader = true := by
  obtain ⟨same, found', orderly, listed⟩ := valid.stream
  rw [found] at found'
  cases found'
  have known : ticket ∈ tickets t.lock :=
    listed.mem_iff.mp (List.mem_filterMap.mpr ⟨_, List.mem_of_getElem? waits, rfl⟩)
  have other : t.lock.holder ≠ some ticket := of_decide_eq_false queued
  cases held : t.lock.holder with
  | none =>
    rw [tickets, held, orderly.free held] at known
    cases known
  | some reader =>
    have holds : reader ∈ tickets t.lock := by simp [tickets, held]
    obtain ⟨status, member, ticket⟩ := List.mem_filterMap.mp (listed.mem_iff.mpr holds)
    cases valid.stands status member with
    | waits otherCtx own =>
      cases ticket
      obtain ⟨position, reads⟩ := List.getElem?_of_mem member
      refine ⟨position, otherCtx, reader, ?_, reads, decide_eq_true held⟩
      rintro rfl
      rw [waits] at reads
      cases reads
      exact other held
    | returned => cases ticket

end

end Courier.Proofs.StreamWaiting
