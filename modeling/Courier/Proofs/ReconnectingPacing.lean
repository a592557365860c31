import Courier.Proofs.ReconnectingSections

/-! The turns of one operation when others do with the slot what they like, so that each look may find
another one. What a turn does to the wait that a search has come to is said once: only a dial that failed
and a rest that is over change it. -/

namespace Courier.Proofs.ReconnectingPacing
open Reconnecting ReconnectingSections

inductive Move where
  | look (slot : Slot) (ended : Option ContextError)
  | answer (slot : Slot) (a : Answer)

def moved (config : Reconnect) (stage : Stage) : Move → Option Turn
  | .look slot ended => stage.step config slot ended
  | .answer slot a =>
    match stage with
    | .standing (.ask _ phase) => answer config slot phase a
    | _ => none

/-- What comes of a dial with a move. -/
def outcome : Move → Option (Except TransportError Connection)
  | .answer _ (.dialed result) => some result
  | _ => none

def waitOf : Stage → Option Duration
  | .checking _ wait _ | .looking _ wait _ => some wait
  | .standing (.ask _ (.dialing _ wait)) | .standing (.ask _ (.resting _ wait _)) => some wait
  | _ => none

/-- It is not over, and neither dials nor rests. -/
def Free : Stage → Prop
  | .standing (.finish _) => False
  | .standing (.ask _ (.dialing _ _)) | .standing (.ask _ (.resting _ _ _)) => False
  | _ => True

/-- There is no search, and all that is asked is asked of a connection. -/
structure Outside (stage : Stage) : Prop where
  free : Free stage
  waitless : waitOf stage = none
  asks : ∀ request ∈ requests stage, ∃ c op, request = .operate c op

inductive Paced (config : Reconnect) : Stage → Move → Stage → Prop where
  | begins {before : Stage} {m : Move} (s : Search) (free : Free before) (waitless : waitOf before = none)
      (silent : outcome m = none) : Paced config before m (.checking s config.firstWait none)
  | looks (m : Move) (s : Search) (wait : Duration) (last : Option TransportError) (silent : outcome m = none) :
      Paced config (.checking s wait last) m (.looking s wait last)
  | dials (m : Move) (s : Search) (wait : Duration) (last : Option TransportError) (silent : outcome m = none) :
      Paced config (.looking s wait last) m (.standing (.ask .dial (.dialing s wait)))
  | fails (slot : Slot) (request : Request) (s : Search) (wait : Duration) (why : TransportError) :
      Paced config (.standing (.ask request (.dialing s wait))) (.answer slot (.dialed (.error why)))
        (.standing (.ask (.rest wait) (.resting s wait why)))
  | arrives (slot : Slot) (request : Request) (s : Search) (wait : Duration) (c : Connection) :
      Paced config (.standing (.ask request (.dialing s wait))) (.answer slot (.dialed (.ok c))) (.placing s c)
  | rests (slot : Slot) (request : Request) (s : Search) (wait : Duration) (last : TransportError) :
      Paced config (.standing (.ask request (.resting s wait last))) (.answer slot .rested)
        (.checking s (config.nextWait wait) (some last))
  | stops {before : Stage} {m : Move} (reply : Reply) (silent : outcome m = none) :
      Paced config before m (.standing (.finish reply))
  | leaves {before after : Stage} {m : Move} (free : Free before) (outside : Outside after)
      (silent : outcome m = none) : Paced config before m after

section
variable {config : Reconnect} {slot : Slot} {ended : Option ContextError} {stage : Stage} {t : Turn}

private theorem Outside.operate (c : Connection) (op : Operation) {phase : Phase}
    (free : Free (.standing (.ask (.operate c op) phase)))
    (waitless : waitOf (.standing (.ask (.operate c op) phase)) = none) :
    Outside (.standing (.ask (.operate c op) phase)) := by
  refine ⟨free, waitless, fun request asked => ?_⟩
  exact ⟨c, op, List.mem_singleton.mp asked⟩

theorem Outside.silent (outside : Outside stage) : .dial ∉ requests stage := by
  intro asked
  obtain ⟨c, op, same⟩ := outside.asks _ asked
  cases same

theorem Outside.restless (outside : Outside stage) (wait : Duration) : .rest wait ∉ requests stage := by
  intro asked
  obtain ⟨c, op, same⟩ := outside.asks _ asked
  cases same

private theorem proceed_outside (slot : Slot) (s : Search) (c : Connection) : Outside (proceed slot s c).stage := by
  unfold proceed
  split
  · exact .operate c _ trivial rfl
  · exact .operate c _ trivial rfl
  · exact ⟨trivial, rfl, nofun⟩

theorem step_paced (stepped : stage.step config slot ended = some t) :
    Paced config stage (.look slot ended) t.stage := by
  cases stage with
  | entering goal =>
    simp only [Stage.step] at stepped
    split at stepped
    · cases stepped
      exact .stops _ rfl
    split at stepped <;> cases stepped
    · exact .leaves trivial (.operate _ _ trivial rfl) rfl
    · exact .begins _ trivial rfl rfl
  | checking s wait last =>
    cases ended <;> cases stepped
    · exact .looks _ s wait last rfl
    · exact .stops _ rfl
  | looking s wait last =>
    simp only [Stage.step] at stepped
    split at stepped
    · cases stepped
      exact .stops _ rfl
    split at stepped <;> cases stepped
    · exact .leaves trivial (proceed_outside slot s _) rfl
    · exact .dials _ s wait last rfl
  | placing s c =>
    simp only [Stage.step] at stepped
    split at stepped
    · cases stepped
      exact .leaves trivial (.operate c .close trivial rfl) rfl
    split at stepped <;> cases stepped
    · exact .leaves trivial (.operate c .close trivial rfl) rfl
    · exact .leaves trivial (proceed_outside _ s c) rfl
  | removing goal c why =>
    simp only [Stage.step] at stepped
    split at stepped <;> cases stepped
    · exact .leaves trivial (.operate c .close trivial rfl) rfl
    · exact .begins _ trivial rfl rfl
  | shutting =>
    cases stepped
    simp only [Turn.of, close]
    split
    · exact .stops _ rfl
    · cases slot.connection with
      | some c => exact .leaves trivial (.operate c .close trivial rfl) rfl
      | none => exact .stops _ rfl
  | standing next => cases stepped

private theorem answer_paced {request : Request} {phase : Phase} {a : Answer}
    (answered : answer config slot phase a = some t) :
    Paced config (.standing (.ask request phase)) (.answer slot a) t.stage := by
  unfold answer at answered
  split at answered
  next s wait why =>
    cases answered
    exact .fails slot request s wait why
  next s wait c =>
    cases answered
    exact .arrives slot request s wait c
  next s wait last =>
    cases answered
    exact .rests slot request s wait last
  next =>
    cases answered
    exact .stops _ rfl
  next =>
    split at answered <;> cases answered
    exact .stops _ rfl
  next s c _ _ =>
    cases answered
    exact .leaves trivial (proceed_outside slot s c) rfl
  next =>
    cases answered
    exact .stops _ rfl
  next =>
    cases answered
    exact .stops _ rfl
  next =>
    split at answered <;> cases answered
    · exact .stops _ rfl
    · exact .leaves trivial ⟨trivial, rfl, nofun⟩ rfl
  next =>
    cases answered
    exact .begins _ trivial rfl rfl
  next =>
    cases answered
    exact .stops _ rfl
  next => cases answered

theorem moved_paced {m : Move} (turned : moved config stage m = some t) : Paced config stage m t.stage := by
  cases m with
  | look slot ended => exact step_paced turned
  | answer slot a =>
    simp only [moved] at turned
    split at turned
    next request phase => exact answer_paced turned
    next => cases turned

end

end Courier.Proofs.ReconnectingPacing
