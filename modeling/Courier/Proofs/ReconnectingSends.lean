import Courier.Proofs.ReconnectingCalls

/-! One send on a reconnecting transport, from end to end. The message goes to the connection that is there or is
dialed first, and once more, after a failure of this connection, to the one that replaces it. -/

namespace Courier.Proofs.ReconnectingSends
open Reconnecting ReconnectingSections ReconnectingCalls

/-! ### What a record tells -/

/-- Something that is asked of a connection, or that a connection replies. -/
def operates : Entry → Bool
  | .asked _ (.operate _ _) | .answered (.operate _ _) _ => true
  | _ => false

def Quiet (log : List Entry) : Prop := ∀ entry ∈ log, operates entry = false

def sent? : Entry → Option (Connection × Message)
  | .asked _ (.operate c (.send m)) => some (c, m)
  | _ => none

def sends (log : List Entry) : List (Connection × Message) := log.filterMap sent?

def reply? : Entry → Option Reply
  | .answered (.operate _ (.send _)) (.replied reply _) => some reply
  | _ => none

def replies (log : List Entry) : List Reply := log.filterMap reply?

def dialed? : Entry → Option (Except TransportError Connection)
  | .answered _ (.dialed result) => some result
  | _ => none

def Brings (log : List Entry) (c : Connection) : Prop := (log.filterMap dialed?).getLast? = some (.ok c)

private theorem quiet_nil : Quiet [] := nofun

private theorem Quiet.append {log more : List Entry} (quiet : Quiet log) (others : Quiet more) : Quiet (log ++ more) :=
  List.forall_mem_append.mpr ⟨quiet, others⟩

private theorem Quiet.sends {log : List Entry} (quiet : Quiet log) : sends log = [] := by
  refine List.filterMap_eq_nil_iff.mpr fun entry member => ?_
  have calm := quiet entry member
  cases entry with
  | asked slot request => cases request <;> first | rfl | cases calm
  | _ => rfl

private theorem Quiet.replies {log : List Entry} (quiet : Quiet log) : replies log = [] := by
  refine List.filterMap_eq_nil_iff.mpr fun entry member => ?_
  have calm := quiet entry member
  cases entry with
  | answered request a => cases request <;> first | rfl | cases calm
  | _ => rfl

/-! ### Searching for a connection -/

/-- A search that has made this record so far stands here. -/
def Seeks (s : Search) (log : List Entry) : Stage → Prop
  | .checking own _ _ | .looking own _ _ => own = s
  | .standing (.ask .dial (.dialing own _)) | .standing (.ask (.rest _) (.resting own _ _)) => own = s
  | .placing own c => own = s ∧ Brings log c
  | _ => False

inductive Sought (s : Search) (head : List Entry) (after : Call) : Prop where
  | on {log : List Entry} : Quiet log → after.slot = {} → after.log = head ++ log → Seeks s log after.stage →
      Sought s head after
  | failed {log : List Entry} {why : TransportError} : Quiet log → after.slot = {} → after.log = head ++ log →
      after.stage = .standing (.finish (.error why)) → Sought s head after
  | found {log : List Entry} {d : Connection} {t : Turn} : Quiet log → Brings log d →
      t = proceed { connection := some d } s d → after.slot = t.slot → after.stage = t.stage →
      after.log = head ++ (log ++ (t.reports.map .told ++ (requests t.stage).map (.asked t.slot))) →
      Sought s head after

private theorem turn_log {c : Call} {head log heard : List Entry} {t : Turn} (same : c.log = head ++ log) :
    (c.turn heard t).log =
      head ++ (log ++ (heard ++ (t.reports.map .told ++ (requests t.stage).map (.asked t.slot)))) := by
  rw [Call.turn, same, List.append_assoc]

private theorem quiet_told (reports : List Report) : Quiet (reports.map .told) := List.forall_mem_map.mpr fun _ _ => rfl

private theorem Brings.append {log more : List Entry} {d : Connection} (brings : Brings log d)
    (none : more.filterMap dialed? = []) : Brings (log ++ more) d := by
  rw [Brings, List.filterMap_append, none, List.append_nil]
  exact brings

private theorem dialed_told (reports : List Report) : (reports.map Entry.told).filterMap dialed? = [] := by
  rw [List.filterMap_map, List.filterMap_eq_nil_iff]
  exact fun _ _ => rfl

private theorem search_moves {config : Reconnect} {s : Search} {head log : List Entry} {c after : Call}
    {event : Event} (empty : c.slot = {}) (quiet : Quiet log) (same : c.log = head ++ log)
    (seeks : Seeks s log c.stage) (moved : Moved config c event after) : Sought s head after := by
  cases moved with
  | ends live => exact .on quiet empty same seeks
  | @look t stepped =>
    rw [empty] at stepped
    cases place : c.stage with
    | checking own wait last =>
      rw [place] at seeks stepped
      obtain rfl : own = s := seeks
      cases ended : c.ended with
      | some e =>
        rw [ended] at stepped
        cases stepped
        exact .failed (quiet.append quiet_nil) rfl (turn_log same) rfl
      | none =>
        rw [ended] at stepped
        cases stepped
        exact .on (quiet.append quiet_nil) rfl (turn_log same) rfl
    | looking own wait last =>
      rw [place] at seeks stepped
      obtain rfl : own = s := seeks
      cases stepped
      exact .on (quiet.append (by simp [Quiet, operates, requests])) rfl (turn_log same) rfl
    | placing own d =>
      rw [place] at seeks stepped
      obtain ⟨rfl, brings⟩ := seeks
      cases stepped
      refine .found (quiet.append (quiet_told [.connected d, .state .connected])) (brings.append (dialed_told _))
        rfl rfl rfl ?_
      rw [turn_log same, List.nil_append, Turn.after, List.map_append, List.append_assoc, List.append_assoc]
    | standing next =>
      rw [place] at stepped
      cases stepped
    | _ =>
      rw [place] at seeks
      cases seeks
  | @answer request phase a t waits admitted answered =>
    rw [waits] at seeks
    rw [empty] at answered
    cases phase with
    | dialing own wait =>
      cases request with
      | dial =>
        obtain rfl : own = s := seeks
        cases a with
        | dialed result =>
          cases result with
          | error why =>
            cases answered
            exact .on (quiet.append (by simp [Quiet, operates, requests])) rfl (turn_log same) rfl
          | ok d =>
            cases answered
            refine .on (quiet.append (by simp [Quiet, operates, requests])) rfl (turn_log same) ⟨rfl, ?_⟩
            simp [Brings, dialed?, requests]
        | _ => cases answered
      | _ => cases seeks
    | resting own wait last =>
      cases request with
      | rest time =>
        obtain rfl : own = s := seeks
        cases a with
        | rested =>
          cases answered
          exact .on (quiet.append (by simp [Quiet, operates, requests])) rfl (turn_log same) rfl
        | interrupted =>
          cases answered
          refine .failed (quiet.append ?_) rfl (turn_log same) rfl
          simp [Quiet, operates, requests, Turn.of, giveUp]
        | _ => cases answered
      | _ => cases seeks
    | _ => cases request <;> cases seeks

/-! ### Sending -/

def asks (m : Message) (slot : Slot) (c : Connection) : Entry := .asked slot (.operate c (.send m))

def hears (m : Message) (c : Connection) (reply : Reply) (seen : Option ContextError) : Entry :=
  .answered (.operate c (.send m)) (.replied reply seen)

/-- A connection that has been taken out of the slot is closed. -/
def drops (c : Connection) (a : Answer) : List Entry :=
  [.asked {} (.operate c .close), .answered (.operate c .close) a]

/-- What comes before the first send: nothing if there is a connection, or else a dial brings it. -/
def Opens (slot held : Slot) (before : List Entry) (c : Connection) : Prop :=
  held = { connection := some c } ∧
    (slot = held ∧ before = [] ∨ slot.connection = none ∧ Quiet before ∧ Brings before c)

/-- How far a send has come since it was first made, with what record. -/
inductive Since (m : Message) (c : Connection) : Slot → Stage → List Entry → Prop where
  | asking : Since m c { connection := some c }
      (.standing (.ask (.operate c (.send m)) (.using (.send m) c false))) []
  | settled {reply : Reply} {seen : Option ContextError} :
      (∀ why, reply = .error why → seen = none → why.isConnectionFailure = false) →
      Since m c { connection := some c } (.standing (.finish reply)) [hears m c reply seen]
  | broken {why : TransportError} : why.isConnectionFailure = true →
      Since m c { connection := some c } (.removing (.send m) c why) [hears m c (.error why) none]
  | dropping {why : TransportError} : why.isConnectionFailure = true →
      Since m c {} (.standing (.ask (.operate c .close) (.dropping (.send m) why)))
        [hears m c (.error why) none, .asked {} (.operate c .close)]
  | replacing {why : TransportError} {a : Answer} {log : List Entry} {stage : Stage} :
      why.isConnectionFailure = true → Quiet log → Seeks ⟨.send m, some why⟩ log stage →
      Since m c {} stage (hears m c (.error why) none :: (drops c a ++ log))
  | unreplaced {why told : TransportError} {a : Answer} {log : List Entry} :
      why.isConnectionFailure = true → Quiet log →
      Since m c {} (.standing (.finish (.error told))) (hears m c (.error why) none :: (drops c a ++ log))
  | again {why : TransportError} {a : Answer} {log : List Entry} {d : Connection} :
      why.isConnectionFailure = true → Quiet log → Brings log d →
      Since m c { connection := some d } (.standing (.ask (.operate d (.send m)) (.using (.send m) d true)))
        (hears m c (.error why) none :: (drops c a ++ log) ++ [asks m { connection := some d } d])
  | resent {why : TransportError} {a : Answer} {log : List Entry} {d : Connection} {reply : Reply}
      {seen : Option ContextError} : why.isConnectionFailure = true → Quiet log → Brings log d →
      Since m c { connection := some d } (.standing (.finish reply))
        (hears m c (.error why) none :: (drops c a ++ log) ++
          [asks m { connection := some d } d, hears m d reply seen])

inductive Course (m : Message) (slot : Slot) : Slot → Stage → List Entry → Prop where
  | entering : Course m slot slot (.entering (.send m)) []
  | seeking {log : List Entry} {stage : Stage} : slot = {} → Quiet log → Seeks ⟨.send m, none⟩ log stage →
      Course m slot {} stage log
  | refused {now : Slot} {log : List Entry} {why : TransportError} : Quiet log →
      Course m slot now (.standing (.finish (.error why))) log
  | sending {held now : Slot} {before log : List Entry} {c : Connection} {stage : Stage} :
      Opens slot held before c → Since m c now stage log → Course m slot now stage (before ++ asks m held c :: log)

private theorem since_moves {config : Reconnect} {m : Message} {d : Connection} {head log : List Entry} {c after : Call}
    {event : Event} (same : c.log = head ++ log) (since : Since m d c.slot c.stage log)
    (moved : Moved config c event after) :
    ∃ more, after.log = head ++ more ∧ Since m d after.slot after.stage more := by
  obtain ⟨now, ended, stage, whole⟩ := c
  dsimp only at same since
  subst same
  -- Besides the end of the context, a single event fits each of the cases.
  have heard {since : List Entry} (entry : Entry) :
      head ++ since ++ ([entry] ++ ([] ++ [])) = head ++ (since ++ [entry]) := by
    simp
  cases since with
  | asking =>
    cases moved with
    | ends _ => exact ⟨_, rfl, .asking⟩
    | look stepped => cases stepped
    | @answer _ _ a _ waits _ answered =>
      cases waits
      cases a with
      | replied reply seen =>
        cases reply with
        | ok x =>
          cases answered
          exact ⟨_, heard _, .settled nofun⟩
        | error why =>
          simp only [answer] at answered
          split at answered <;> cases answered
          next settles =>
            refine ⟨_, heard _, .settled ?_⟩
            rintro _ ⟨⟩ rfl
            simpa using settles
          next breaks =>
            obtain ⟨rfl, broke⟩ : seen = none ∧ why.isConnectionFailure = true := by simpa using breaks
            exact ⟨_, heard _, .broken broke⟩
      | _ => cases answered
  | settled mild =>
    rw [moved.finished rfl]
    exact ⟨_, rfl, .settled mild⟩
  | broken broke =>
    cases moved with
    | ends _ => exact ⟨_, rfl, .broken broke⟩
    | answer waits _ _ => cases waits
    | look stepped =>
      simp only [Stage.step, if_true] at stepped
      cases stepped
      exact ⟨_, List.append_assoc _ _ _, .dropping broke⟩
  | @dropping why broke =>
    cases moved with
    | ends _ => exact ⟨_, rfl, .dropping broke⟩
    | look stepped => cases stepped
    | @answer _ _ a _ waits _ answered =>
      cases waits
      cases a with
      | replied reply seen =>
        cases answered
        have searching (reports : List Report) : ∃ more,
            head ++ [hears m d (.error why) none, .asked {} (.operate d .close)] ++
              ([.answered (.operate d .close) (.replied reply seen)] ++ (reports.map .told ++ [])) = head ++ more ∧
            Since m d {} (.checking ⟨.send m, some why⟩ config.firstWait none) more := by
          refine ⟨_, ?_, @Since.replacing m d why (.replied reply seen) _ _ broke (quiet_told reports) rfl⟩
          rw [List.append_nil, List.append_assoc]
          rfl
        exact searching _
      | _ => cases answered
  | @replacing why a log _ broke quiet seeks =>
    have rest (log : List Entry) : head ++ hears m d (.error why) none :: drops d a ++ log =
        head ++ hears m d (.error why) none :: (drops d a ++ log) := List.append_assoc _ _ _
    cases search_moves rfl quiet (rest log).symm seeks moved with
    | on quiet same log seeks =>
      rw [same, log, rest]
      exact ⟨_, rfl, .replacing broke quiet seeks⟩
    | failed quiet same log finished =>
      rw [same, log, finished, rest]
      exact ⟨_, rfl, .unreplaced broke quiet⟩
    | @found log e _ quiet brings turned same place grown =>
      subst turned
      rw [same, place, grown, rest]
      refine ⟨_, ?_, @Since.again m d why a log e broke quiet brings⟩
      simp [proceed, Turn.of, use, requests, asks, Goal.operation]
  | unreplaced broke quiet =>
    rw [moved.finished rfl]
    exact ⟨_, rfl, .unreplaced broke quiet⟩
  | @again why a log e broke quiet brings =>
    cases moved with
    | ends _ => exact ⟨_, rfl, .again broke quiet brings⟩
    | look stepped => cases stepped
    | @answer _ _ got _ waits _ answered =>
      cases waits
      cases got with
      | replied reply seen =>
        have resent := @Since.resent m d why a log e reply seen broke quiet brings
        have grown (first : List Entry) (ask answer : Entry) :
            head ++ (first ++ [ask]) ++ ([answer] ++ ([] ++ [])) = head ++ (first ++ [ask, answer]) := by
          simp
        cases reply <;> cases answered <;> exact ⟨_, grown _ _ _, resent⟩
      | _ => cases answered
  | resent broke quiet brings =>
    rw [moved.finished rfl]
    exact ⟨_, rfl, .resent broke quiet brings⟩

private theorem course_moves {config : Reconnect} {m : Message} {slot : Slot} {c after : Call} {event : Event}
    (course : Course m slot c.slot c.stage c.log) (moved : Moved config c event after) :
    Course m slot after.slot after.stage after.log := by
  obtain ⟨now, ended, stage, log⟩ := c
  dsimp only at course
  cases course with
  | entering =>
    cases moved with
    | ends _ => exact .entering
    | answer waits _ _ => cases waits
    | look stepped =>
      obtain ⟨connection, closed⟩ := slot
      cases closed with
      | true =>
        cases stepped
        exact .refused quiet_nil
      | false =>
        cases connection with
        | some d =>
          cases stepped
          exact @Course.sending m _ _ _ [] [] d _ ⟨rfl, .inl ⟨rfl, rfl⟩⟩ .asking
        | none =>
          cases stepped
          exact .seeking rfl quiet_nil rfl
  | seeking empty quiet seeks =>
    subst empty
    cases search_moves rfl quiet (List.nil_append log).symm seeks moved with
    | on quiet same log seeks =>
      rw [same, log]
      exact .seeking rfl quiet seeks
    | failed quiet same log finished =>
      rw [log, finished]
      exact .refused quiet
    | found quiet brings turned same place log =>
      subst turned
      rw [same, place, log]
      exact .sending ⟨rfl, .inr ⟨rfl, quiet, brings⟩⟩ .asking
  | refused quiet =>
    rw [moved.finished rfl]
    exact .refused quiet
  | @sending held now before log d stage opens since =>
    have head : before ++ asks m held d :: log = before ++ [asks m held d] ++ log := by simp
    obtain ⟨more, grown, since⟩ := since_moves head since moved
    rw [grown, List.append_assoc]
    exact .sending opens since

private theorem course_of_leads {config : Reconnect} {m : Message} {slot : Slot} {begun : Option ContextError} {c : Call}
    (led : Leads (Call.step config) (.start slot begun (.send m)) c) : Course m slot c.slot c.stage c.log :=
  led.invariant (fun c => Course m slot c.slot c.stage c.log) .entering fun _ _ _ course moved =>
    course_moves course (step_moved moved)

/-! ### Sends in a record -/

private theorem sends_split (m : Message) (before : List Entry) (slot : Slot) (c : Connection) (after : List Entry) :
    sends (before ++ asks m slot c :: after) = sends before ++ (c, m) :: sends after := by
  rw [sends, List.filterMap_append]
  rfl

private theorem first_send {m : Message} {before other after rest : List Entry} {slot held : Slot} {c d : Connection}
    (same : before ++ asks m slot c :: after = other ++ asks m held d :: rest) (none : sends before = [])
    (noOther : sends other = []) : before = other ∧ slot = held ∧ c = d ∧ after = rest := by
  induction before generalizing other with
  | nil =>
    cases other with
    | nil =>
      cases same
      exact ⟨rfl, rfl, rfl, rfl⟩
    | cons entry other =>
      cases same
      cases noOther
  | cons entry before ih =>
    cases other with
    | nil =>
      cases same
      cases none
    | cons entry other =>
      obtain ⟨rfl, tail⟩ := List.cons.inj same
      have later {log : List Entry} (nothing : sends (entry :: log) = []) : sends log = [] := by
        rw [sends, List.filterMap_cons] at nothing
        split at nothing
        next => exact nothing
        next => cases nothing
      obtain ⟨rfl, rest⟩ := ih tail (later none) (later noOther)
      exact ⟨rfl, rest⟩

private theorem Opens.quiet {slot held : Slot} {before : List Entry} {c : Connection} (opens : Opens slot held before c) :
    Quiet before := by
  obtain ⟨-, ⟨-, rfl⟩ | ⟨-, quiet, -⟩⟩ := opens
  · exact quiet_nil
  · exact quiet

/-- A message is sent for a second time only after the connection of the first time broke and was closed, and then
on one that a dial has brought since. What is replied to that is the end. -/
structure Second (m : Message) (c : Connection) (stage : Stage) (between : List Entry) (held : Slot)
    (d : Connection) (after : List Entry) : Prop where
  why : ∃ why a search, why.isConnectionFailure = true ∧ Quiet search ∧ Brings search d ∧
    between = hears m c (.error why) none :: (drops c a ++ search)
  held : held = { connection := some d }
  last : after = [] ∧ (∀ reply, stage ≠ .standing (.finish reply)) ∨
    ∃ reply seen, after = [hears m d reply seen] ∧ stage = .standing (.finish reply)

private theorem since_second {m : Message} {c : Connection} {now : Slot} {stage : Stage} {log : List Entry}
    (since : Since m c now stage log) : sends log = [] ∨
      ∃ between held d after, log = between ++ asks m held d :: after ∧ sends between = [] ∧ sends after = [] ∧
        Second m c stage between held d after := by
  have quietly {why : TransportError} {a : Answer} {search : List Entry} (quiet : Quiet search) :
      sends (hears m c (.error why) none :: (drops c a ++ search)) = [] := quiet.sends
  cases since with
  | asking => exact .inl rfl
  | settled _ => exact .inl rfl
  | broken _ => exact .inl rfl
  | dropping _ => exact .inl rfl
  | replacing _ quiet _ => exact .inl (quietly quiet)
  | unreplaced _ quiet => exact .inl (quietly quiet)
  | again broke quiet brings =>
    exact .inr ⟨_, _, _, [], rfl, quietly quiet, rfl, ⟨_, _, _, broke, quiet, brings, rfl⟩, rfl, .inl ⟨rfl, nofun⟩⟩
  | resent broke quiet brings =>
    exact .inr ⟨_, _, _, [_], rfl, quietly quiet, rfl, ⟨_, _, _, broke, quiet, brings, rfl⟩, rfl,
      .inr ⟨_, _, rfl, rfl⟩⟩

private theorem since_outcome {m : Message} {c : Connection} {now : Slot} {stage : Stage} {log : List Entry}
    (since : Since m c now stage log) (x : Option Message) :
    stage = .standing (.finish (.ok x)) ↔ (replies log).getLast? = some (.ok x) := by
  have broken {why : TransportError} {a : Answer} {search : List Entry} (quiet : Quiet search) :
      replies (hears m c (.error why) none :: (drops c a ++ search)) = [.error why] := by
    show Except.error why :: replies search = [.error why]
    rw [quiet.replies]
  cases since with
  | asking => exact ⟨nofun, nofun⟩
  | @settled reply _ _ =>
    show Stage.standing (.finish reply) = _ ↔ some reply = _
    simp
  | broken _ => exact ⟨nofun, nofun⟩
  | dropping _ => exact ⟨nofun, nofun⟩
  | replacing _ quiet seeks =>
    rw [broken quiet]
    refine ⟨?_, nofun⟩
    rintro rfl
    cases seeks
  | unreplaced _ quiet =>
    rw [broken quiet]
    exact ⟨nofun, nofun⟩
  | again _ quiet _ =>
    rw [replies, List.filterMap_append, ← replies, broken quiet]
    exact ⟨nofun, nofun⟩
  | @resent why _ _ d reply _ _ quiet _ =>
    rw [replies, List.filterMap_append, ← replies, broken quiet]
    show Stage.standing (.finish reply) = _ ↔ some reply = _
    simp

/-- What is true of a send however far it has come: of the slot that it began with, of the slot by now, and of the
record. -/
structure EndToEnd (m : Message) (slot now : Slot) (stage : Stage) (log : List Entry) : Prop where
  /-- The message is sent twice at most, and nothing else is. -/
  twice : (sends log).length ≤ 2 ∧ ∀ sent ∈ sends log, sent.2 = m
  /-- It is sent first on the connection that is there, or on the one that the last dial has brought. -/
  first : ∀ before held c after, log = before ++ asks m held c :: after → sends before = [] →
    Opens slot held before c
  second : ∀ before held c between other d after,
    log = before ++ asks m held c :: (between ++ asks m other d :: after) → Second m c stage between other d after
  /-- It is over with success exactly if the last connection that the message was sent on says so. -/
  outcome : ∀ x, stage = .standing (.finish (.ok x)) ↔ (replies log).getLast? = some (.ok x)
  /-- Any other failure of the first connection than that it broke in time is the outcome at once. -/
  settles : ∀ before held c why seen after, log = before ++ asks m held c :: hears m c (.error why) seen :: after →
    sends before = [] → seen.isSome = true ∨ why.isConnectionFailure = false →
    stage = .standing (.finish (.error why)) ∧ now = held ∧ after = []

private theorem endToEnd_of_quiet {m : Message} {slot now : Slot} {stage : Stage} {log : List Entry} (quiet : Quiet log)
    (unsent : ∀ x, stage ≠ .standing (.finish (.ok x))) : EndToEnd m slot now stage log := by
  have never {before after : List Entry} {held : Slot} {c : Connection}
      (same : log = before ++ asks m held c :: after) : False := by
    have none := quiet.sends
    rw [same, sends_split] at none
    exact List.append_ne_nil_of_right_ne_nil _ (List.cons_ne_nil _ _) none
  refine ⟨?_, fun _ _ _ _ same => (never same).elim, fun _ _ _ _ _ _ _ same => (never same).elim, ?_,
    fun _ _ _ _ _ _ same => (never same).elim⟩
  · rw [quiet.sends]
    exact ⟨Nat.zero_le _, nofun⟩
  · intro x
    rw [quiet.replies]
    exact ⟨fun finished => (unsent x finished).elim, nofun⟩

private theorem endToEnd_of_since {m : Message} {slot held now : Slot} {stage : Stage} {before log : List Entry}
    {c : Connection} (opens : Opens slot held before c) (since : Since m c now stage log) :
    EndToEnd m slot now stage (before ++ asks m held c :: log) := by
  have none := opens.quiet.sends
  have whole := sends_split m before held c log
  rw [none, List.nil_append] at whole
  have twice : (sends (before ++ asks m held c :: log)).length ≤ 2 ∧
      ∀ sent ∈ sends (before ++ asks m held c :: log), sent.2 = m := by
    rw [whole]
    rcases since_second since with unsent | ⟨between, other, d, after, rfl, quiet, silent, -⟩
    · rw [unsent]
      exact ⟨Nat.le_succ 1, by simp⟩
    · rw [sends_split, quiet, silent]
      exact ⟨Nat.le_refl 2, by simp⟩
  refine ⟨twice, ?_, ?_, ?_, ?_⟩
  · intro head slotThen d after same unsent
    obtain ⟨rfl, rfl, rfl, -⟩ := first_send same none unsent
    exact opens
  · intro head slotThen d between other e after same
    -- With two sends in the record there is none before the first of them and none between them.
    have few := twice.1
    rw [same, sends_split, sends_split] at few
    simp only [List.length_append, List.length_cons] at few
    have unsent : sends head = [] := List.length_eq_zero_iff.mp (by omega)
    have still : sends between = [] := List.length_eq_zero_iff.mp (by omega)
    obtain ⟨rfl, rfl, rfl, rfl⟩ := first_send same none unsent
    rcases since_second since with silent | ⟨_, _, _, _, later, quiet, -, second⟩
    · rw [sends_split, still] at silent
      cases silent
    · obtain ⟨rfl, rfl, rfl, rfl⟩ := first_send later still quiet
      exact second
  · intro x
    have heard : replies (before ++ asks m held c :: log) = replies log := by
      rw [replies, List.filterMap_append]
      show replies before ++ replies log = replies log
      rw [opens.quiet.replies, List.nil_append]
    rw [heard]
    exact since_outcome since x
  · intro head slotThen d why seen after same unsent settles
    obtain ⟨rfl, rfl, rfl, rfl⟩ := first_send same none unsent
    cases since with
    | settled _ => exact ⟨rfl, opens.1.symm, rfl⟩
    | broken broke => simp [broke] at settles
    | dropping broke => simp [broke] at settles
    | replacing broke _ _ => simp [broke] at settles
    | unreplaced broke _ => simp [broke] at settles
    | again broke _ _ => simp [broke] at settles
    | resent broke _ _ => simp [broke] at settles

/-- A send that has the transport for itself, from end to end. -/
theorem send_end_to_end {config : Reconnect} {m : Message} {slot : Slot} {begun : Option ContextError}
    {call : Call} (led : Leads (Call.step config) (.start slot begun (.send m)) call) :
    EndToEnd m slot call.slot call.stage call.log := by
  have course := course_of_leads led
  generalize call.stage = stage, call.log = log, call.slot = now at course ⊢
  cases course with
  | entering => exact endToEnd_of_quiet quiet_nil nofun
  | seeking _ quiet seeks =>
    refine endToEnd_of_quiet quiet ?_
    rintro x rfl
    cases seeks
  | refused quiet => exact endToEnd_of_quiet quiet nofun
  | sending opens since => exact endToEnd_of_since opens since

/-- The first dial fails. The connection that the second brings breaks, and the message goes to the next one. -/
def troubled : List Event :=
  [.look, .look, .look, .answer (.dialed (.error (.http true))), .answer .rested, .look, .look,
    .answer (.dialed (.ok 1)), .look, .answer (.replied (.error (.status 500)) none), .look,
    .answer (.replied (.ok none) none), .look, .look, .answer (.dialed (.ok 2)), .look,
    .answer (.replied (.ok none) none)]

theorem send_end_to_end_troubled : ∃ call,
    troubled.foldlM (Call.step {}) (.start {} none (.send default)) = some call ∧
    sends call.log = [(1, default), (2, default)] ∧ call.stage = .standing (.finish (.ok none)) ∧
    EndToEnd default {} call.slot call.stage call.log :=
  ⟨_, rfl, rfl, rfl, @send_end_to_end {} default {} none _ ⟨troubled, rfl⟩⟩

end Courier.Proofs.ReconnectingSends
