import Courier.Proofs.Exchanges
import Courier.Proofs.Runs

/-! Relays neither drop nor reorder. Whatever its source and its destination answer, what a relay has delivered is
what it has received, except perhaps for the last message. -/

namespace Courier.Proofs.RelayDelivery
open Simulation Exchanges

structure Course where
  next : Next
  log : List Exchange := []

namespace Course

def start (w : World) (ctx : Context) (source destination : Place) : Course where
  next := ((Job.relay source destination).start w ctx).2

/-- An answer may come in any world. -/
def step (c : Course) (answer : World × Reply) : Option Course :=
  (hear answer.1 c.next answer.2).map fun (result, heard) => { next := result.2, log := c.log ++ [heard] }

end Course

/-- Why a receive can fail without fault: the source is exhausted, or the context has ended. -/
def Regular (why : TransportError) (ended : Option ContextError) : Prop :=
  why = .noMoreMessages ∨ why = .inputClosed ∨ ended.isSome = true

section
variable {why : TransportError} {ended : Option ContextError}

private theorem afterReceive_regular (regular : Regular why ended) (count : Nat) :
    Relay.afterReceive count ended (.error why) = .finish (.ok count) := by
  rcases regular with rfl | rfl | done
  · rfl
  · rfl
  · cases why <;> simp only [Relay.afterReceive, done, if_true]

private theorem afterReceive_fault (fault : ¬ Regular why ended) (count : Nat) :
    Relay.afterReceive count ended (.error why) = .finish (.error (.receive why)) := by
  simp only [Regular, not_or] at fault
  obtain ⟨more, stays, live⟩ := fault
  cases why <;> first | contradiction | simp only [Relay.afterReceive, live, if_false, Bool.false_eq_true]

end

/-! ### How far a relay has come -/

def Good (log : List Exchange) : Prop := ∀ e ∈ log, ∃ found, e.reply = .ok found

/-- What a relay stands at, with what it has heard. A failure is the last that it hears. -/
inductive Stands (ctx : Context) (source destination : Place) : Next → List Exchange → Prop where
  | receiving {log : List Exchange} (good : Good log) (passed : received source log = delivered destination log) :
      Stands ctx source destination
        (.call ctx (.relay source destination (.receiving (delivered destination log).length)) source .receive) log
  | sending {log : List Exchange} {m : Message} (good : Good log)
      (passed : received source log = delivered destination log ++ [m]) :
      Stands ctx source destination
        (.call ctx (.relay source destination (.sending (delivered destination log).length)) destination (.send m)) log
  | finished {log : List Exchange} {why : TransportError} {ended : Option ContextError} (good : Good log)
      (passed : received source log = delivered destination log) (regular : Regular why ended) :
      Stands ctx source destination (.done (.relayed (.ok (delivered destination log).length)))
        (log ++ [⟨source, .receive, .error why, ended⟩])
  | failed {log : List Exchange} {why : TransportError} {ended : Option ContextError} (good : Good log)
      (passed : received source log = delivered destination log) (fault : ¬ Regular why ended) :
      Stands ctx source destination (.done (.relayed (.error (.receive why))))
        (log ++ [⟨source, .receive, .error why, ended⟩])
  | refused {log : List Exchange} {m : Message} {why : TransportError} {ended : Option ContextError}
      (good : Good log) (passed : received source log = delivered destination log ++ [m]) :
      Stands ctx source destination (.done (.relayed (.error (.send why))))
        (log ++ [⟨destination, .send m, .error why, ended⟩])

section
variable {ctx : Context} {source destination : Place} {log : List Exchange}

private theorem Good.concat {e : Exchange} {found : Option Message} (good : Good log) (fine : e.reply = .ok found) :
    Good (log ++ [e]) := by
  intro other member
  rcases List.mem_append.mp member with before | last
  · exact good other before
  · cases List.mem_singleton.mp last
    exact ⟨found, fine⟩

private theorem Good.failed_last {e last : Exchange} {why : TransportError} (good : Good log)
    (member : e ∈ log ++ [last]) (failed : e.reply = .error why) : e = last := by
  rcases List.mem_append.mp member with before | here
  · obtain ⟨found, fine⟩ := good e before
    cases failed.symm.trans fine
  · exact List.mem_singleton.mp here

private theorem Good.not_mem {e : Exchange} {why : TransportError} (good : Good log) (failed : e.reply = .error why) :
    e ∉ log := by
  intro member
  obtain ⟨found, fine⟩ := good e member
  cases failed.symm.trans fine

private theorem stands_heard {next : Next} {w : World} {reply : Reply} {result : World × Next} {heard : Exchange}
    (stands : Stands ctx source destination next log) (hears : hear w next reply = some (result, heard)) :
    Stands ctx source destination result.2 (log ++ [heard]) := by
  obtain ⟨_, _, _, _, waits, answers, rfl, rfl⟩ := hear_cases hears
  cases stands with
  | receiving good passed =>
    cases waits
    rcases reply with why | found
    · simp only [World.resume]
      by_cases regular : Regular why (w.ended? ctx)
      · rw [afterReceive_regular regular]
        exact .finished good passed regular
      · rw [afterReceive_fault regular]
        exact .failed good passed regular
    · obtain ⟨m, rfl⟩ := Option.isSome_iff_exists.mp answers
      let heard : Exchange := ⟨source, .receive, .ok (some m), w.ended? ctx⟩
      have kept : delivered destination (log ++ [heard]) = delivered destination log :=
        (delivered_concat destination log heard).trans (List.append_nil _)
      have grown : received source (log ++ [heard]) = delivered destination (log ++ [heard]) ++ [m] := by
        simp [received_concat, Exchange.received?, heard, kept, passed]
      have stands : Stands ctx source destination _ _ := .sending (good.concat rfl) grown
      rwa [kept] at stands
  | @sending _ m good passed =>
    cases waits
    rcases reply with why | found
    · exact .refused good passed
    · let heard : Exchange := ⟨destination, .send m, .ok found, w.ended? ctx⟩
      have grown : delivered destination (log ++ [heard]) = delivered destination log ++ [m] := by
        simp [delivered_concat, Exchange.delivered?, heard]
      have kept : received source (log ++ [heard]) = delivered destination (log ++ [heard]) := by
        rw [received_concat, grown, passed]
        exact List.append_nil _
      have stands : Stands ctx source destination _ _ := .receiving (good.concat rfl) kept
      rwa [grown, List.length_append] at stands
  | finished | failed | refused => cases waits

private theorem stands_start (w : World) (ctx : Context) (source destination : Place) :
    Stands ctx source destination (Course.start w ctx source destination).next [] := by
  have fresh : Good [] := fun _ member => absurd member List.not_mem_nil
  exact .receiving fresh rfl

private theorem stands_of_leads {w : World} {c : Course}
    (reached : Leads Course.step (.start w ctx source destination) c) :
    Stands ctx source destination c.next c.log := by
  refine reached.invariant (fun c => Stands ctx source destination c.next c.log) (stands_start w _ _ _) ?_
  intro before answer after stands stepped
  obtain ⟨⟨result, heard⟩, hears, rfl⟩ := Option.map_eq_some_iff.mp stepped
  exact stands_heard stands hears

def Waits (ctx : Context) (source destination : Place) (next : Next) : Prop :=
  ∃ phase, next = .call ctx (.relay source destination phase) source .receive ∨
    ∃ m, next = .call ctx (.relay source destination phase) destination (.send m)

/-- Whatever its source and its destination answer: what a relay has delivered is what it has received, in order,
except perhaps for the last message. It counts what it has delivered and ends well only with everything delivered,
when its source is exhausted or the context has ended; every other failure is what it returns, with one message
undelivered if its destination has refused it. -/
theorem delivers_in_order {w : World} {c : Course}
    (reached : Leads Course.step (.start w ctx source destination) c) :
    (∃ left, received source c.log = delivered destination c.log ++ left ∧ left.length ≤ 1) ∧
    (∀ n, c.next = .done (.relayed (.ok n)) →
      (received source c.log).length = n ∧ delivered destination c.log = received source c.log ∧
        ∃ why ended, c.log.getLast? = some ⟨source, .receive, .error why, ended⟩ ∧ Regular why ended) ∧
    (∀ place why ended, ⟨place, .receive, .error why, ended⟩ ∈ c.log → ¬ Regular why ended →
      c.next = .done (.relayed (.error (.receive why))) ∧ delivered destination c.log = received source c.log) ∧
    (∀ place m why ended, ⟨place, .send m, .error why, ended⟩ ∈ c.log →
      c.next = .done (.relayed (.error (.send why))) ∧ received source c.log = delivered destination c.log ++ [m]) ∧
    (Waits ctx source destination c.next ∨ ∃ result, c.next = .done (.relayed result)) := by
  obtain ⟨next, log⟩ := c
  have stands : Stands ctx source destination next log := stands_of_leads reached
  cases stands with
  | receiving good passed =>
    refine ⟨⟨[], by simpa using passed, Nat.zero_le _⟩, nofun, ?_, ?_, .inl ⟨_, .inl rfl⟩⟩
    · intro place why ended member
      exact absurd member (good.not_mem rfl)
    · intro place m why ended member
      exact absurd member (good.not_mem rfl)
  | sending good passed =>
    refine ⟨⟨_, passed, Nat.le_refl _⟩, nofun, ?_, ?_, .inl ⟨_, .inr ⟨_, rfl⟩⟩⟩
    · intro place why ended member
      exact absurd member (good.not_mem rfl)
    · intro place m why ended member
      exact absurd member (good.not_mem rfl)
  | @finished log why ended good passed regular =>
    simp only [received_failed, delivered_failed]
    refine ⟨⟨[], by simpa using passed, Nat.zero_le _⟩, ?_, ?_, ?_, .inr ⟨_, rfl⟩⟩
    · rintro n ⟨⟩
      exact ⟨congrArg _ passed, passed.symm, why, ended, List.getLast?_concat, regular⟩
    · intro place other late member fault
      cases good.failed_last member rfl
      exact absurd regular fault
    · intro place m other late member
      cases good.failed_last member rfl
  | @failed log why ended good passed fault =>
    simp only [received_failed, delivered_failed]
    refine ⟨⟨[], by simpa using passed, Nat.zero_le _⟩, nofun, ?_, ?_, .inr ⟨_, rfl⟩⟩
    · intro place other late member _
      cases good.failed_last member rfl
      exact ⟨rfl, passed.symm⟩
    · intro place m other late member
      cases good.failed_last member rfl
  | @refused log m why ended good passed =>
    simp only [received_failed, delivered_failed]
    refine ⟨⟨[m], passed, Nat.le_refl _⟩, nofun, ?_, ?_, .inr ⟨_, rfl⟩⟩
    · intro place other late member
      cases good.failed_last member rfl
    · intro place n other late member
      cases good.failed_last member rfl
      exact ⟨rfl, passed⟩

end

/-- A source gives one message, and fails when the context has ended. -/
def cutShort : Course where
  next := .done (.relayed (.ok 1))
  log := [⟨0, .receive, .ok (some default), none⟩, ⟨1, .send default, .ok none, none⟩,
    ⟨0, .receive, .error (.closed "peer"), some .cancelled⟩]

theorem delivers_in_order_cut_short :
    Leads Course.step (.start {} (.background 0) 0 1) cutShort ∧
      (received 0 cutShort.log).length = 1 ∧ delivered 1 cutShort.log = received 0 cutShort.log := by
  have reached : Leads Course.step (.start {} (.background 0) 0 1) cutShort :=
    ⟨[({}, .ok (some default)), ({}, .ok none), ({ clock := { cancelled := [0] } }, .error (.closed "peer"))], rfl⟩
  obtain ⟨counted, passed, _⟩ := (delivers_in_order reached).2.1 1 rfl
  exact ⟨reached, counted, passed⟩

end Courier.Proofs.RelayDelivery
