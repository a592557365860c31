import Courier.Transport.Http
import Courier.Transport.Lock
import Courier.Proofs.Runs
import Mathlib.Data.List.Basic

/-! The inbox of a transport that listens. Requests arrive and receives look for messages in any order; some
receives are dropped, and some end with their context. A request is told that its message has been
accepted exactly if a receive gets it or it is still in the inbox. -/

namespace Courier.Proofs.HttpInbox

inductive Receive where
  | starting
  /-- It has the receiving end of the inbox, or waits for it. -/
  | inLine (ticket : Nat)
  | finished (result : Except TransportError Message)
  | dropped
deriving Repr, DecidableEq

def Receive.got : Receive → Option Message
  | finished (.ok m) => some m
  | _ => none

/-- Lets a receive go on as far as it can. Someone whose context has ended may notice it before or after a
message that has arrived. -/
def Receive.go (t : HttpTransport) (lock : Lock) (ended : Option ContextError) :
    Receive → Option (Receive × HttpTransport × Lock)
  | starting =>
    match t.enter ended with
    | .error why => some (finished (.error why), t, lock)
    | .ok () => some (inLine lock.acquire.1, t, lock.acquire.2)
  | inLine ticket =>
    if lock.isHeldBy ticket then
      match t.poll ended with
      | (some result, t) => some (finished result, t, lock.release ticket)
      | (none, t) => some (inLine ticket, t, lock)
    else
      match ended with
      | some why => some (finished (.error (.context why)), t, lock.release ticket)
      | none => some (inLine ticket, t, lock)
  | finished _ | dropped => none

structure Inbox where
  transport : HttpTransport
  lock : Lock := {}
  receives : List Receive := []
  /-- The requests and how they were answered, the latest last. -/
  posts : List (Bytes × HttpAnswer) := []
  /-- The messages that receives have returned, the latest last. -/
  received : List Message := []
deriving DecidableEq

inductive Event where
  | listen (bound : Listener)
  | post (body : Bytes)
  | receive
  | turn (n : Nat) (ended : Option ContextError)
  | drop (n : Nat)
deriving Repr

namespace Inbox

def step (s : Inbox) : Event → Option Inbox
  | .listen bound =>
    match s.transport.install (fun _ => "") bound with
    | .ok transport => some { s with transport }
    | .error _ => none
  | .post body =>
    if s.transport.listener.isSome then
      some { s with transport := (s.transport.accept body).2
                    posts := s.posts ++ [(body, (s.transport.accept body).1)] }
    else none
  | .receive => some { s with receives := s.receives ++ [.starting] }
  | .turn n ended => do
    let receive ← s.receives[n]?
    let (receive, transport, lock) ← receive.go s.transport s.lock ended
    some { s with transport, lock
                  receives := s.receives.set n receive
                  received := s.received ++ receive.got.toList }
  | .drop n => do
    match ← s.receives[n]? with
    | .starting => some { s with receives := s.receives.set n .dropped }
    | .inLine ticket =>
      some { s with lock := s.lock.release ticket, receives := s.receives.set n .dropped }
    | .finished _ | .dropped => none

end Inbox

/-- The message of a request that was answered with 202. -/
def acceptedIn (post : Bytes × HttpAnswer) : Option Message :=
  if post.2.status = 202 then (Message.unmarshal post.1).toOption else none

def start (target : String) (config : HttpConfig) : Inbox := { transport := { target, config } }

def Reachable (target : String) (config : HttpConfig) : Inbox → Prop :=
  Leads Inbox.step (start target config)

/-! ### Requests -/

inductive Answered (t : HttpTransport) (body : Bytes) : HttpAnswer × HttpTransport → Prop where
  | tooLarge (large : t.config.maxBodyBytes < body.length) : Answered t body (.tooLarge, t)
  | malformed (small : body.length ≤ t.config.maxBodyBytes) {why : ProtocolError}
      (rejected : Message.unmarshal body = .error why) : Answered t body (.malformed, t)
  | full (small : body.length ≤ t.config.maxBodyBytes) {m : Message}
      (read : Message.unmarshal body = .ok m) (full : t.capacity ≤ t.inbox.length) :
      Answered t body (.full, t)
  | accepted (small : body.length ≤ t.config.maxBodyBytes) {m : Message}
      (read : Message.unmarshal body = .ok m) (room : t.inbox.length < t.capacity) :
      Answered t body (.accepted, { t with inbox := t.inbox ++ [m] })

private theorem accept_answered (t : HttpTransport) (body : Bytes) : Answered t body (t.accept body) := by
  rw [HttpTransport.accept]
  split
  next large => exact .tooLarge large
  next small =>
    have small := Nat.le_of_not_lt small
    cases read : Message.unmarshal body with
    | error why => exact .malformed small read
    | ok m =>
      simp only
      split
      next full => exact .full small read full
      next room => exact .accepted small read (Nat.lt_of_not_le room)

section
variable {t : HttpTransport} {body : Bytes} {answer : HttpAnswer × HttpTransport}

private theorem Answered.status_large (answered : Answered t body answer)
    (large : t.config.maxBodyBytes < body.length) : answer.1.status = 413 := by
  cases answered with
  | tooLarge => rfl
  | malformed small | full small | accepted small => exact absurd large (Nat.not_lt_of_le small)

private theorem Answered.status_malformed (answered : Answered t body answer)
    (small : body.length ≤ t.config.maxBodyBytes) {why : ProtocolError}
    (rejected : Message.unmarshal body = .error why) : answer.1.status = 400 := by
  cases answered with
  | tooLarge large => exact absurd large (Nat.not_lt_of_le small)
  | malformed => rfl
  | full _ read | accepted _ read =>
    rw [rejected] at read
    cases read

private theorem Answered.read (answered : Answered t body answer)
    (small : body.length ≤ t.config.maxBodyBytes) {m : Message} (read : Message.unmarshal body = .ok m) :
    (t.capacity ≤ t.inbox.length → answer.1.status = 503) ∧
    (t.inbox.length < t.capacity → answer.1.status = 202 ∧ answer.2.inbox = t.inbox ++ [m]) := by
  cases answered with
  | tooLarge large => exact absurd large (Nat.not_lt_of_le small)
  | malformed _ rejected =>
    rw [read] at rejected
    cases rejected
  | full _ _ full => exact ⟨fun _ => rfl, fun room => absurd full (Nat.not_le_of_lt room)⟩
  | accepted _ found room =>
    obtain rfl := Except.ok.inj (read.symm.trans found)
    exact ⟨fun full => absurd full (Nat.not_le_of_lt room), fun _ => ⟨rfl, rfl⟩⟩

private theorem Answered.unless_accepted (answered : Answered t body answer) (refused : answer.1.status ≠ 202) :
    answer.2 = t := by
  cases answered with
  | tooLarge | malformed | full => rfl
  | accepted => exact (refused rfl).elim

theorem Answered.config (answered : Answered t body answer) : answer.2.config = t.config := by
  cases answered <;> rfl

private theorem Answered.inbox (answered : Answered t body answer) :
    answer.2.inbox = t.inbox ++ (acceptedIn (body, answer.1)).toList := by
  cases answered with
  | tooLarge | malformed | full => simp [acceptedIn, HttpAnswer.status]
  | accepted _ read _ => simp [acceptedIn, HttpAnswer.status, read, Except.toOption]

private theorem Answered.bounded (answered : Answered t body answer) (bounded : t.inbox.length ≤ t.capacity) :
    answer.2.inbox.length ≤ t.capacity := by
  cases answered with
  | tooLarge | malformed | full => exact bounded
  | accepted _ _ room => simpa using Nat.succ_le_of_lt room

end

/-! ### Receives -/

section
variable {t after : HttpTransport} {lock lock' : Lock} {ended : Option ContextError}
  {before next : Receive}

private theorem poll_inbox {result : Option (Except TransportError Message)}
    (looked : t.poll ended = (result, after)) :
    t.inbox = (result.bind Except.toOption).toList ++ after.inbox ∧ after.config = t.config := by
  cases ended with
  | some why =>
    cases looked
    exact ⟨rfl, rfl⟩
  | none =>
    simp only [HttpTransport.poll] at looked
    split at looked
    · cases looked
      exact ⟨rfl, rfl⟩
    · cases arrived : t.inbox with
      | nil =>
        rw [arrived] at looked
        cases looked
        exact ⟨arrived.symm, rfl⟩
      | cons m rest =>
        rw [arrived] at looked
        cases looked
        exact ⟨rfl, rfl⟩

/-- With nobody else about, a receive enters and then looks, as long as it finds nothing. -/
theorem go_alone (entered : t.enter none = .ok ()) (free : lock.holder = none) :
    Receive.starting.go t lock none = some (.inLine lock.acquire.1, t, lock.acquire.2) ∧
    (Receive.inLine lock.acquire.1).go t lock.acquire.2 ended = some
      (match t.poll ended with
      | (some result, after) => (.finished result, after, lock.acquire.2.release lock.acquire.1)
      | (none, after) => (.inLine lock.acquire.1, after, lock.acquire.2)) := by
  have held : lock.acquire.2.isHeldBy lock.acquire.1 := by simp [Lock.acquire, Lock.isHeldBy, free]
  refine ⟨?_, ?_⟩
  · rw [Receive.go, entered]
  · simp only [Receive.go, held, if_true]
    rcases t.poll ended with ⟨_ | result, after⟩ <;> rfl

private theorem go_fresh (gone : before.go t lock ended = some (next, after, lock')) : before.got = none := by
  cases before with
  | starting | inLine | dropped => rfl
  | finished => cases gone

private theorem go_inbox (gone : before.go t lock ended = some (next, after, lock')) :
    t.inbox = next.got.toList ++ after.inbox ∧ after.config = t.config := by
  cases before with
  | finished | dropped => cases gone
  | starting =>
    rw [Receive.go] at gone
    split at gone <;> cases gone <;> exact ⟨rfl, rfl⟩
  | inLine ticket =>
    simp only [Receive.go] at gone
    split at gone
    · rcases looked : t.poll ended with ⟨result, left⟩
      have kept := poll_inbox looked
      rw [looked] at gone
      rcases result with _ | why | m <;> cases gone <;> exact kept
    · split at gone <;> cases gone <;> exact ⟨rfl, rfl⟩

end

/-! ### Runs -/

def Inbox.accepted (s : Inbox) : List Message := s.posts.filterMap acceptedIn

structure Kept (config : HttpConfig) (s : Inbox) : Prop where
  unchanged : s.transport.config = config
  order : s.accepted = s.received ++ s.transport.inbox
  returned : s.received.Perm (s.receives.filterMap Receive.got)
  bounded : s.transport.inbox.length ≤ s.transport.capacity
  read : ∀ post ∈ s.posts, post.2.status = 202 → ∃ m, Message.unmarshal post.1 = .ok m

section
variable {target : String} {config : HttpConfig} {s after : Inbox}

private theorem Kept.post (kept : Kept config s) {body : Bytes} {answer : HttpAnswer × HttpTransport}
    (answered : Answered s.transport body answer) :
    Kept config { s with transport := answer.2, posts := s.posts ++ [(body, answer.1)] } := by
  have capacity : answer.2.capacity = s.transport.capacity := by
    rw [HttpTransport.capacity, HttpTransport.capacity, answered.config]
  refine ⟨answered.config.trans kept.unchanged, ?_, kept.returned, ?_, ?_⟩
  · rw [answered.inbox, ← List.append_assoc, ← kept.order]
    simp only [Inbox.accepted, List.filterMap_append, List.filterMap_cons, List.filterMap_nil]
    cases acceptedIn (body, answer.1) <;> rfl
  · rw [capacity]
    exact answered.bounded kept.bounded
  · intro post among accepted
    rcases List.mem_append.mp among with earlier | last
    · exact kept.read post earlier accepted
    · obtain rfl := List.mem_singleton.mp last
      cases answered with
      | tooLarge | malformed | full => cases accepted
      | accepted _ read _ => exact ⟨_, read⟩

/-- A receive that does not return a message leaves what the others have returned. -/
theorem Kept.turn (kept : Kept config s) {n : Nat} {before next : Receive} {transport : HttpTransport}
    {lock : Lock} {ended : Option ContextError} (found : s.receives[n]? = some before)
    (gone : before.go s.transport s.lock ended = some (next, transport, lock)) :
    Kept config { s with transport, lock, receives := s.receives.set n next
                         received := s.received ++ next.got.toList } := by
  obtain ⟨taken, same⟩ := go_inbox gone
  refine ⟨same.trans kept.unchanged, ?_, ?_, ?_, kept.read⟩
  · exact kept.order.trans (by rw [taken, List.append_assoc])
  · exact (kept.returned.append_right _).trans (filterMap_set_perm found next (go_fresh gone)).symm
  · have bounded := kept.bounded
    rw [taken, List.length_append] at bounded
    have capacity : transport.capacity = s.transport.capacity := by
      rw [HttpTransport.capacity, HttpTransport.capacity, same]
    rw [capacity]
    exact Nat.le_trans (Nat.le_add_left _ _) bounded

private theorem Kept.drop (kept : Kept config s) {n : Nat} {before : Receive} (found : s.receives[n]? = some before)
    (unfinished : before.got = none) (lock : Lock) :
    Kept config { s with lock, receives := s.receives.set n .dropped } := by
  refine ⟨kept.unchanged, kept.order, ?_, kept.bounded, kept.read⟩
  have same : ((s.receives.set n .dropped).filterMap Receive.got).Perm
      (s.receives.filterMap Receive.got ++ []) :=
    filterMap_set_perm found .dropped unfinished
  rw [List.append_nil] at same
  exact kept.returned.trans same.symm

private theorem install_eq {t after : HttpTransport} {addressOf : Listener → String} {bound : Listener}
    (installed : t.install addressOf bound = .ok after) : after = { t with listener := some bound } := by
  rw [HttpTransport.install] at installed
  cases allowed : t.mayListen addressOf <;> rw [allowed] at installed <;> cases installed
  rfl

theorem Kept.step (kept : Kept config s) {event : Event} (stepped : s.step event = some after) :
    Kept config after := by
  cases event with
  | listen bound =>
    simp only [Inbox.step] at stepped
    split at stepped
    next transport installed =>
      cases stepped
      obtain rfl := install_eq installed
      exact ⟨kept.unchanged, kept.order, kept.returned, kept.bounded, kept.read⟩
    next => cases stepped
  | post body =>
    simp only [Inbox.step] at stepped
    split at stepped
    · cases stepped
      exact kept.post (accept_answered s.transport body)
    · cases stepped
  | receive =>
    cases stepped
    refine ⟨kept.unchanged, kept.order, ?_, kept.bounded, kept.read⟩
    have nothing : [Receive.starting].filterMap Receive.got = [] := rfl
    rw [List.filterMap_append, nothing, List.append_nil]
    exact kept.returned
  | turn n ended =>
    obtain ⟨before, found, stepped⟩ := Option.bind_eq_some_iff.mp stepped
    obtain ⟨⟨next, transport, lock⟩, gone, stepped⟩ := Option.bind_eq_some_iff.mp stepped
    cases stepped
    exact kept.turn found gone
  | drop n =>
    obtain ⟨before, found, stepped⟩ := Option.bind_eq_some_iff.mp stepped
    cases before with
    | starting =>
      cases stepped
      exact kept.drop found rfl s.lock
    | inLine ticket =>
      cases stepped
      exact kept.drop found rfl _
    | finished | dropped => cases stepped

theorem reachable_kept (reached : Reachable target config s) : Kept config s := by
  refine reached.invariant (Kept config) ?_ fun _ _ _ kept stepped => kept.step stepped
  exact ⟨rfl, rfl, .refl _, Nat.zero_le _, nofun⟩

/-- What was accepted is what receives have returned, followed by what is in the inbox, so nothing is lost and
nothing is reordered. A request is answered by the first of these that holds: its body is too large, it is
no message, the inbox is full; and otherwise its message goes to the end of the inbox. -/
theorem accepted_are_received (reached : Reachable target config s) :
    s.accepted = s.received ++ s.transport.inbox ∧
    (∀ post ∈ s.posts, post.2.status = 202 → ∃ m, Message.unmarshal post.1 = .ok m) ∧
    s.received.Perm (s.receives.filterMap Receive.got) ∧
    s.transport.inbox.length ≤ max 1 config.inboxCapacity ∧
    (s.transport.listener.isSome → ∀ body, ∃ answer after,
      s.step (.post body) = some after ∧ after.posts = s.posts ++ [(body, answer)] ∧
      (config.maxBodyBytes < body.length → answer.status = 413) ∧
      (body.length ≤ config.maxBodyBytes →
        (∀ why, Message.unmarshal body = .error why → answer.status = 400) ∧
        (∀ m, Message.unmarshal body = .ok m →
          (s.transport.inbox.length = max 1 config.inboxCapacity → answer.status = 503) ∧
          (s.transport.inbox.length < max 1 config.inboxCapacity →
            answer.status = 202 ∧ after.transport.inbox = s.transport.inbox ++ [m]))) ∧
      (answer.status ≠ 202 → after.transport = s.transport)) := by
  have kept := reachable_kept reached
  have capacity : s.transport.capacity = max 1 config.inboxCapacity := by
    rw [HttpTransport.capacity, kept.unchanged, Nat.max_comm]
  have bounded := kept.bounded
  rw [capacity] at bounded
  refine ⟨kept.order, kept.read, kept.returned, bounded, ?_⟩
  intro listening body
  have answered := accept_answered s.transport body
  rw [← kept.unchanged]
  refine ⟨(s.transport.accept body).1, _, if_pos listening, rfl, answered.status_large, ?_,
    answered.unless_accepted⟩
  intro small
  refine ⟨fun _ => answered.status_malformed small, ?_⟩
  intro m read
  obtain ⟨full, room⟩ := answered.read small read
  rw [capacity, ← kept.unchanged] at full room
  exact ⟨fun same => full (Nat.le_of_eq same.symm), room⟩

end

def note (id : String) : Message := ⟨"1", id, "s", "t", 1, [], 0⟩

def noted (id : String) : Bytes := Utf8.ofString ("[\"1\",\"" ++ id ++ "\",\"s\",\"t\",1]")

/-- An inbox for one message at a time. The second request came too early, and was made again when the first
message had been received. One receive has ended with its context, and one has only begun. -/
def crowded : Inbox where
  transport := { target := "", config := ⟨.ofSeconds 10, 0, 20⟩, inbox := [note "n"], listener := some 7 }
  lock := ⟨none, [], 2⟩
  receives := [.finished (.ok (note "m")), .finished (.error (.context .cancelled)), .starting]
  posts :=
    [(noted "m", .accepted), (noted "n", .full), (noted "n", .accepted),
      (Utf8.ofString "no", .malformed), (noted "long", .tooLarge)]
  received := [note "m"]

theorem accepted_are_received_crowded :
    Reachable "" ⟨.ofSeconds 10, 0, 20⟩ crowded ∧ crowded.accepted = [note "m", note "n"] ∧
      ∃ answer after, crowded.step (.post (noted "o")) = some after ∧ answer.status = 503 ∧
        after.posts = crowded.posts ++ [(noted "o", answer)] ∧ after.transport = crowded.transport := by
  have reached : Reachable "" ⟨.ofSeconds 10, 0, 20⟩ crowded :=
    ⟨[.listen 7, .post (noted "m"), .post (noted "n"), .receive, .turn 0 none, .receive, .turn 1 none,
      .turn 1 (some .cancelled), .turn 0 none, .post (noted "n"), .post (Utf8.ofString "no"),
      .post (noted "long"), .receive], by decide +kernel⟩
  have read : Message.unmarshal (noted "o") = .ok (note "o") := by decide +kernel
  obtain ⟨order, _, _, _, posted⟩ := accepted_are_received reached
  obtain ⟨answer, after, stepped, posts, _, small, refused⟩ := posted rfl (noted "o")
  have full : answer.status = 503 := ((small (by decide +kernel)).2 _ read).1 rfl
  exact ⟨reached, order, answer, after, stepped, full, posts, refused (by rw [full]; decide)⟩

end Courier.Proofs.HttpInbox
