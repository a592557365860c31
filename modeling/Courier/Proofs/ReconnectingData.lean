import Courier.Proofs.ReconnectingFailures

/-! Failures that are laid on the data. They are handed back as they are, unless it is a server that
refuses a message by its status, or an application by an error of its own: these two count as failures of
the connection whatever their class, so the message goes to another connection. -/

namespace Courier.Proofs.ReconnectingData
open Reconnecting ReconnectingTasks

/-- The failure inside what searches for a connection and repeated sends put around it. -/
def base : TransportError → TransportError
  | .reconnectFailed cause => base cause
  | .retriesExhausted _ cause => base cause
  | e => e

def OfData (e : TransportError) : Prop := (base e).code = .validation ∨ (base e).code = .protocol

instance (e : TransportError) : Decidable (OfData e) :=
  inferInstanceAs (Decidable ((base e).code = .validation ∨ (base e).code = .protocol))

/-- A refusal from outside: the status of a server, or the error of an application. -/
inductive Refusal : TransportError → Prop where
  | status (status : Nat) : Refusal (.status status)
  | other (cause : CodedError) : Refusal (.other cause)

private theorem isConnectionFailure_base (e : TransportError) :
    e.isConnectionFailure = (base e).isConnectionFailure := by
  fun_induction base e with
  | case1 cause ih => exact ih
  | case2 attempts cause ih => exact ih
  | case3 e => rfl

private theorem connectionFailure_iff {e : TransportError} (data : OfData e) :
    e.isConnectionFailure = true ↔ Refusal (base e) := by
  rw [isConnectionFailure_base]
  rw [OfData] at data
  generalize base e = inner at data
  constructor
  · intro failure
    cases inner with
    | status status => exact .status status
    | other cause => exact .other cause
    | http timedOut => cases timedOut <;> simp [TransportError.code] at data
    | reconnectFailed _ => simp [TransportError.code] at data
    | retriesExhausted _ _ => simp [TransportError.code] at data
    | closed _ => simp [TransportError.code] at data
    | io _ _ => simp [TransportError.code] at data
    | listen _ => simp [TransportError.code] at data
    | listenerRunning _ => simp [TransportError.code] at data
    | _ => cases failure
  · rintro (_ | _) <;> rfl

section
variable {config : Reconnect} {slot : Slot}

private theorem search_finish {goal : Goal} {cause : TransportError} {wait : Duration} {reply : Reply}
    (gave : (search config slot none ⟨goal, some cause⟩ wait none).next = .finish reply) :
    reply = .error closedError := by
  simp only [search, dialUnless] at gave
  split at gave
  next =>
    cases gave
    rfl
  next open_ =>
    split at gave
    next c held =>
      cases goal with
      | send m => cases gave
      | receive =>
        simp only [found, start, open_, held] at gave
        cases gave
    next => cases gave

private theorem afterUse_handsBack {ended : Option ContextError} (goal : Goal) (c : Connection) {replaced : Bool}
    {e : TransportError} (settled : replaced = true ∨ ended ≠ none ∨ e.isConnectionFailure = false) :
    afterUse config slot ended goal c replaced (.error e) = { slot, next := .finish (.error e) } := by
  have stays : (replaced || ended.isSome || !e.isConnectionFailure) = true := by
    rcases settled with rfl | late | data
    · rfl
    · simp [Option.isSome_iff_ne_none.mpr late]
    · simp [data]
  simp only [afterUse, stays, if_true]

private theorem afterUse_goesOn (goal : Goal) (c : Connection) {e : TransportError} (data : OfData e)
    (failure : e.isConnectionFailure = true) :
    (afterUse config slot none goal c false (.error e)).next ≠ .finish (.error e) := by
  intro back
  simp only [afterUse, failure, Option.isSome_none, Bool.or_self, Bool.not_true, Bool.false_eq_true,
    if_false] at back
  split at back
  next => cases back
  next =>
    have closed := search_finish back
    cases closed
    exact absurd data (by decide)

end

/-- A task hands a failure back, and nothing else changes: the slot stays as it is, and nobody is asked for
anything more. -/
def handedBack (s : System) (task : Nat) (request : Request) (e : TransportError) : System :=
  { s with
    tasks := s.tasks.set task (.finish (.error e))
    answered := s.answered ++ [request] }

section
variable {config : Reconnect} {s after : System} {task : Nat} {request : Request} {goal : Goal}
  {c : Connection} {replaced : Bool} {ended : Option ContextError}
  {dialed : Except TransportError Connection} {e : TransportError}

private theorem answer_error (waits : s.tasks[task]? = some (.ask request (.using goal c replaced)))
    (stepped : s.step config (.answer task ended dialed (.error e)) = some after) :
    after =
      { s with
        slot := (afterUse config s.slot ended goal c replaced (.error e)).slot
        tasks := s.tasks.set task (afterUse config s.slot ended goal c replaced (.error e)).next
        asked := s.asked ++ requests (afterUse config s.slot ended goal c replaced (.error e)).next
        answered := s.answered ++ [request] } := by
  obtain ⟨_, _, found, _, rfl⟩ := answer_cases stepped
  rw [waits] at found
  cases found
  simp [gain, resume]

private theorem handedBack_iff (data : OfData e)
    (waits : s.tasks[task]? = some (.ask request (.using goal c replaced)))
    (stepped : s.step config (.answer task ended dialed (.error e)) = some after) :
    after = handedBack s task request e ↔
      replaced = true ∨ ended ≠ none ∨ e.isConnectionFailure = false := by
  have moved := answer_error waits stepped
  constructor
  · intro back
    cases replaced with
    | true => exact .inl rfl
    | false =>
      cases ended with
      | some why => exact .inr (.inl (Option.some_ne_none why))
      | none =>
        refine .inr (.inr (Bool.eq_false_iff.mpr ?_))
        intro failure
        have inside : task < s.tasks.length := (List.getElem?_eq_some_iff.mp waits).1
        have same := congrArg (fun s : System => s.tasks[task]?) (moved.symm.trans back)
        simp only [handedBack, List.getElem?_set_self inside, Option.some.injEq] at same
        exact afterUse_goesOn goal c data failure same
  · intro settled
    rw [moved, afterUse_handsBack goal c settled, handedBack]
    simp [requests]

end

/-- A failure of the data is no failure of the connection unless it is a refusal, under any number of
wrappers. A task that it answers hands it back and leaves everything else as it is, unless it is a refusal
by a connection that is no replacement, while the context is live. -/
theorem data_errors_handed_back_iff {e : TransportError} (data : OfData e) :
    (e.isConnectionFailure = true ↔ Refusal (base e)) ∧
      ∀ config s after task request goal c replaced ended dialed,
        s.tasks[task]? = some (.ask request (.using goal c replaced)) →
        s.step config (.answer task ended dialed (.error e)) = some after →
        (after = handedBack s task request e ↔ replaced = true ∨ ended ≠ none ∨ ¬ Refusal (base e)) := by
  refine ⟨connectionFailure_iff data, ?_⟩
  intro config s after task request goal c replaced ended dialed waits stepped
  rw [handedBack_iff data waits stepped, ← connectionFailure_iff data, Bool.not_eq_true]

def receiving : System where
  slot := { connection := some 1 }
  begun := [.receive]
  tasks := [.ask (.operate 1 .receive) (.using .receive 1 false)]
  dialed := [1]
  asked := [.dial, .operate 1 .receive]
  answered := [.dial]

def nameless : TransportError := .reconnectFailed (.retriesExhausted 3 (.protocol (.missingField "id")))

theorem data_errors_handed_back_iff_nameless :
    OfData nameless ∧ Reachable {} receiving ∧
      receiving.step {} (.answer 0 none (.ok 0) (.error nameless)) =
        some (handedBack receiving 0 (.operate 1 .receive) nameless) := by
  have data : OfData nameless := by decide
  obtain ⟨after, stepped⟩ : ∃ after,
      receiving.step {} (.answer 0 none (.ok 0) (.error nameless)) = some after := ⟨_, rfl⟩
  have plain : ¬ Refusal (base nameless) := nofun
  have back := ((data_errors_handed_back_iff data).2 {} receiving after 0 _ _ _ _ _ _ rfl stepped).mpr
    (.inr (.inr plain))
  rw [stepped, back]
  exact ⟨data, ⟨[.start .receive none, .answer 0 none (.ok 1) (.ok none)], rfl⟩, rfl⟩

def sending (m : Message) : System where
  slot := { connection := some 1 }
  begun := [.send m]
  tasks := [.ask (.operate 1 (.send m)) (.using (.send m) 1 false)]
  dialed := [1]
  asked := [.dial, .operate 1 (.send m)]
  answered := [.dial]

/-- A server that refuses a message as invalid loses its connection, and the message is sent once more on
another one. -/
theorem refused_message_sent_again :
    (¬ ∀ e, OfData e → e.isConnectionFailure = false) ∧
      ∃ dropping, Reachable {} (sending default) ∧
        (sending default).step {} (.answer 0 none (.ok 0) (.error (.status 400))) = some dropping ∧
          Leads (System.step {}) dropping (ReconnectingFailures.resending default) := by
  constructor
  · intro never
    have plain := never (.status 400) (by decide)
    cases plain
  · obtain ⟨dropping, stepped, led⟩ : ∃ dropping,
        (sending default).step {} (.answer 0 none (.ok 0) (.error (.status 400))) = some dropping ∧
          Leads (System.step {}) dropping (ReconnectingFailures.resending default) :=
      ⟨_, rfl, [.answer 0 none (.ok 0) (.ok none), .answer 0 none (.ok 2) (.ok none)], rfl⟩
    exact ⟨dropping, ⟨[.start (.send default) none, .answer 0 none (.ok 1) (.ok none)], rfl⟩, stepped, led⟩

end Courier.Proofs.ReconnectingData
