import Courier.Proofs.ReconnectingCalls

/-! What a search for a connection tells when it is given up. The last dial that failed is worth more than the end
of the context, and so is the failure of the connection that is replaced. -/

namespace Courier.Proofs.ReconnectingCauses
open Reconnecting ReconnectingSections ReconnectingCalls

/-! ### Troubles -/

/-- What has gone wrong in a search: the failure of the connection that it replaces, if it replaces one, and the
last dial that failed. -/
structure Troubles where
  cause : Option TransportError := none
  last : Option TransportError := none

/-- A failure in use begins a new search, and a connection ends it. -/
def Troubles.note (t : Troubles) : Entry → Troubles
  | .answered .dial (.dialed (.error why)) => { t with last := some why }
  | .answered .dial (.dialed (.ok _)) => {}
  | .answered (.operate _ .close) _ => t
  | .answered (.operate _ _) (.replied (.error why) _) => ⟨some why, none⟩
  | _ => t

def troubles (log : List Entry) : Troubles := log.foldl Troubles.note {}

/-- What is told of a search that the end of the context has cut short. -/
def surface (t : Troubles) (e : ContextError) : TransportError :=
  match t.cause, t.last with
  | none, none => .context e
  | none, some last => last
  | some cause, none => cause
  | some _, some last => .reconnectFailed last

/-- A failure of a dial that speaks neither of a context nor of closing. -/
def ordinary : TransportError → Bool
  | .context _ | .closed _ => false
  | _ => true

private theorem troubles_turn (c : Call) (heard : List Entry) (t : Turn) :
    troubles (c.turn heard t).log = heard.foldl Troubles.note (troubles c.log) := by
  have reported (t : Troubles) (reports : List Report) : (reports.map Entry.told).foldl Troubles.note t = t := by
    induction reports with
    | nil => rfl
    | cons r reports ih => exact ih
  have asked (t : Troubles) (slot : Slot) (asked : List Request) :
      (asked.map (Entry.asked slot)).foldl Troubles.note t = t := by
    induction asked with
    | nil => rfl
    | cons request asked ih => exact ih
  simp only [troubles, Call.turn, List.foldl_append, reported, asked]

/-! ### Searches -/

def seeking : Stage → Bool
  | .removing _ _ _ | .checking _ _ _ | .looking _ _ _ => true
  | .standing (.ask _ (.dropping _ _)) | .standing (.ask _ (.dialing _ _)) => true
  | .standing (.ask _ (.resting _ _ _)) => true
  | _ => false

/-- How many events are left at most until a search notices that the context has ended. -/
def rank : Stage → Nat
  | .checking _ _ _ => 1
  | .standing (.ask _ (.resting _ _ _)) | .standing (.ask _ (.dropping _ _)) => 2
  | .standing (.ask _ (.dialing _ _)) | .removing _ _ _ => 3
  | .looking _ _ _ => 4
  | _ => 0

def Broke (cause : Option TransportError) : Prop := ∀ why ∈ cause, why.isConnectionFailure = true

/-- A search that nobody else searches with knows what has gone wrong in it. -/
inductive Redials : Slot → Troubles → Stage → Prop where
  | removing {goal : Goal} {c : Connection} {why : TransportError} : Broke (some why) →
      Redials { connection := some c } ⟨some why, none⟩ (.removing goal c why)
  | dropping {goal : Goal} {c : Connection} {why : TransportError} : Broke (some why) →
      Redials {} ⟨some why, none⟩ (.standing (.ask (.operate c .close) (.dropping goal why)))
  | checking {goal : Goal} {cause last : Option TransportError} {wait : Duration} : Broke cause →
      Redials {} ⟨cause, last⟩ (.checking ⟨goal, cause⟩ wait last)
  | looking {goal : Goal} {cause last : Option TransportError} {wait : Duration} : Broke cause →
      Redials {} ⟨cause, last⟩ (.looking ⟨goal, cause⟩ wait last)
  | dialing {goal : Goal} {cause last : Option TransportError} {wait : Duration} : Broke cause →
      Redials {} ⟨cause, last⟩ (.standing (.ask .dial (.dialing ⟨goal, cause⟩ wait)))
  | resting {goal : Goal} {cause : Option TransportError} {last : TransportError} {wait time : Duration} :
      Broke cause →
      Redials {} ⟨cause, some last⟩ (.standing (.ask (.rest time) (.resting ⟨goal, cause⟩ wait last)))

inductive Redialed (c : Call) : Event → Call → Prop where
  | late {e : ContextError} : c.ended = none → Redialed c (.ends e) { c with ended := some e }
  | on {event : Event} {after : Call} : Redials after.slot (troubles after.log) after.stage →
      after.ended = c.ended → (c.ended.isSome = true → rank after.stage < rank c.stage) →
      ((troubles after.log).last = (troubles c.log).last ∨
        ∃ why, event = .answer (.dialed (.error why)) ∧ (troubles after.log).last = some why) →
      Redialed c event after
  | brought {d : Connection} {s : Search} {after : Call} : after.slot = {} → after.stage = .placing s d →
      troubles after.log = {} → Redialed c (.answer (.dialed (.ok d))) after
  | gaveUp {event : Event} {after : Call} {e : ContextError} {why : TransportError} : c.ended = some e →
      after.ended = c.ended → troubles after.log = troubles c.log →
      after.stage = .standing (.finish (.error why)) →
      ((∀ last ∈ (troubles c.log).last, ordinary last = true) → why = surface (troubles c.log) e) →
      Redialed c event after

private theorem giveUp_surface (slot : Slot) (goal : Goal) (cause last : Option TransportError) (e : ContextError) :
    ∃ why, (giveUp slot ⟨goal, cause⟩ (last.getD (.context e))).next = .finish (.error why) ∧
      ((∀ why ∈ last, ordinary why = true) → why = surface ⟨cause, last⟩ e) := by
  refine ⟨_, rfl, fun mild => ?_⟩
  cases cause with
  | none => cases last <;> rfl
  | some cause =>
    cases last with
    | none => rfl
    | some last =>
      have mild := mild last rfl
      cases last <;> first | rfl | cases mild

private theorem redialed_turn {c : Call} {event : Event} {heard : List Entry} {t : Turn}
    (calm : heard.foldl Troubles.note (troubles c.log) = troubles c.log)
    (redials : Redials t.slot (troubles c.log) t.stage)
    (less : c.ended.isSome = true → rank t.stage < rank c.stage) : Redialed c event (c.turn heard t) := by
  have same : troubles (c.turn heard t).log = troubles c.log := (troubles_turn c heard t).trans calm
  exact .on (same ▸ redials) rfl less (.inl (congrArg Troubles.last same))

/-- A search goes on to its next part, unless it is given up because the context has ended. -/
theorem redials_moved {config : Reconnect} {c after : Call} {event : Event}
    (redials : Redials c.slot (troubles c.log) c.stage) (moved : Moved config c event after) :
    Redialed c event after := by
  obtain ⟨slot, ended, stage, log⟩ := c
  dsimp only at redials
  generalize known : troubles log = t at redials
  cases redials with
  | removing broke =>
    cases moved with
    | ends live => exact .late live
    | answer waits _ _ => cases waits
    | look stepped =>
      simp only [Stage.step, if_true] at stepped
      cases stepped
      exact redialed_turn rfl (known ▸ .dropping broke) fun _ => Nat.lt_succ_self 2
  | dropping broke =>
    cases moved with
    | ends live => exact .late live
    | look stepped => cases stepped
    | @answer _ _ a _ waits _ answered =>
      cases waits
      cases a with
      | replied reply seen =>
        cases answered
        exact redialed_turn rfl (known ▸ .checking broke) fun _ => Nat.lt_succ_self 1
      | _ => cases answered
  | @checking goal cause last wait broke =>
    cases moved with
    | ends live => exact .late live
    | answer waits _ _ => cases waits
    | look stepped =>
      cases ended with
      | some e =>
        cases stepped
        obtain ⟨why, finished, told⟩ := giveUp_surface {} goal cause last e
        refine .gaveUp rfl rfl (troubles_turn _ [] _) (congrArg Stage.standing finished) ?_
        rw [known]
        exact told
      | none =>
        cases stepped
        exact redialed_turn rfl (known ▸ .looking broke) fun ends => absurd ends Bool.false_ne_true
  | looking broke =>
    cases moved with
    | ends live => exact .late live
    | answer waits _ _ => cases waits
    | look stepped =>
      cases stepped
      exact redialed_turn rfl (known ▸ .dialing broke) fun _ => Nat.lt_succ_self 3
  | dialing broke =>
    cases moved with
    | ends live => exact .late live
    | look stepped => cases stepped
    | @answer _ _ a _ waits _ answered =>
      cases waits
      cases a with
      | dialed result =>
        cases result with
        | error why =>
          cases answered
          refine .on ?_ rfl (fun _ => Nat.lt_succ_self 2) (.inr ⟨why, rfl, ?_⟩)
          · rw [troubles_turn, known]
            exact .resting broke
          · rw [troubles_turn]
            rfl
        | ok d =>
          cases answered
          exact .brought rfl rfl (troubles_turn _ _ _)
      | _ => cases answered
  | @resting goal cause last wait time broke =>
    cases moved with
    | ends live => exact .late live
    | look stepped => cases stepped
    | @answer _ _ a _ waits admitted answered =>
      cases waits
      cases a with
      | rested =>
        cases answered
        exact redialed_turn rfl (known ▸ .checking broke) fun _ => Nat.lt_succ_self 1
      | interrupted =>
        obtain ⟨e, rfl⟩ := Option.isSome_iff_exists.mp admitted
        cases answered
        obtain ⟨why, finished, told⟩ := giveUp_surface {} goal cause (some last) e
        refine .gaveUp rfl rfl (troubles_turn _ _ _) (congrArg Stage.standing finished) ?_
        rw [known]
        exact told
      | _ => cases answered

/-! ### Calls -/

inductive Kept : Slot → Troubles → Stage → Prop where
  | entering {connection : Option Connection} {goal : Goal} : Kept { connection } {} (.entering goal)
  | searching {slot : Slot} {t : Troubles} {stage : Stage} : Redials slot t stage → Kept slot t stage
  | placing {s : Search} {d : Connection} : Kept {} {} (.placing s d)
  | operating {goal : Goal} {c : Connection} {replaced : Bool} {t : Troubles} :
      Kept { connection := some c } t (.standing (.ask (.operate c goal.operation) (.using goal c replaced)))
  | finished {slot : Slot} {t : Troubles} {reply : Reply} : Kept slot t (.standing (.finish reply))

private theorem kept_moved {config : Reconnect} {c after : Call} {event : Event}
    (kept : Kept c.slot (troubles c.log) c.stage) (moved : Moved config c event after) :
    Kept after.slot (troubles after.log) after.stage := by
  obtain ⟨slot, ended, stage, log⟩ := c
  dsimp only at kept
  generalize known : troubles log = t at kept
  cases kept with
  | @entering connection goal =>
    cases moved with
    | ends _ =>
      rw [known]
      exact .entering
    | answer waits _ _ => cases waits
    | look stepped =>
      cases connection with
      | some d =>
        cases stepped
        exact .operating
      | none =>
        cases stepped
        rw [troubles_turn, known]
        exact .searching (.checking nofun)
  | searching redials =>
    subst known
    cases redials_moved redials moved with
    | late _ => exact .searching redials
    | on redials _ _ _ => exact .searching redials
    | brought empty place none =>
      rw [empty, place, none]
      exact .placing
    | gaveUp _ _ _ finished _ =>
      rw [finished]
      exact .finished
  | @placing s d =>
    cases moved with
    | ends _ =>
      rw [known]
      exact .placing
    | answer waits _ _ => cases waits
    | look stepped =>
      cases stepped
      rw [troubles_turn, known]
      obtain ⟨goal, cause⟩ := s
      cases cause with
      | none => exact .operating
      | some why =>
        cases goal with
        | send m => exact @Kept.operating (.send m) d true {}
        | receive => exact .entering
  | @operating goal d replaced _ =>
    cases moved with
    | ends _ => exact .operating
    | look stepped => cases stepped
    | @answer _ _ a _ waits _ answered =>
      cases waits
      cases a with
      | replied reply seen =>
        cases reply with
        | ok x =>
          cases answered
          exact .finished
        | error why =>
          simp only [answer] at answered
          split at answered <;> cases answered
          next => exact .finished
          next breaks =>
            have broke : why.isConnectionFailure = true := by
              simp only [Bool.or_eq_true, not_or, Bool.not_eq_true', Bool.not_eq_false] at breaks
              exact breaks.2
            rw [troubles_turn]
            have noted (t : Troubles) :
                t.note (.answered (.operate d goal.operation) (.replied (.error why) seen)) = ⟨some why, none⟩ := by
              cases goal <;> rfl
            simp only [List.foldl_cons, List.foldl_nil, noted]
            exact .searching (.removing fun _ same => Option.some.inj same ▸ broke)
      | _ => cases answered
  | finished =>
    rw [moved.finished rfl]
    exact .finished

private theorem kept_of_leads {config : Reconnect} {slot : Slot} {begun : Option ContextError} {goal : Goal} {c : Call}
    (live : slot.closed = false) (led : Leads (Call.step config) (.start slot begun goal) c) :
    Kept c.slot (troubles c.log) c.stage := by
  obtain ⟨connection, closed⟩ := slot
  cases live
  exact led.invariant (fun c => Kept c.slot (troubles c.log) c.stage) .entering fun _ _ _ kept moved =>
    kept_moved kept (step_moved moved)

private theorem Kept.redials {slot : Slot} {t : Troubles} {stage : Stage} (kept : Kept slot t stage)
    (seeks : seeking stage = true) : Redials slot t stage := by
  cases kept with
  | searching redials => exact redials
  | _ => cases seeks

/-! ### The end of a search -/

/-- A call to which only some of the events happen. -/
def only (allows : Event → Bool) (config : Reconnect) (c : Call) (event : Event) : Option Call :=
  if allows event then c.step config event else none

def failing : Event → Bool
  | .answer (.dialed (.error why)) => ordinary why
  | .answer (.dialed (.ok _)) => false
  | _ => true

def lasting : Event → Bool
  | .ends _ => false
  | _ => true

/-- The outcome of a search that the end of the context has cut short. It speaks of the context only if nothing
else has gone wrong. -/
structure Surfaces (e : ContextError) (c : Call) : Prop where
  outcome : c.stage = .standing (.finish (.error (surface (troubles c.log) e)))
  context : ∀ other, surface (troubles c.log) e = .context other → troubles c.log = {}

private theorem only_moved {allows : Event → Bool} {config : Reconnect} {c after : Call} {event : Event}
    (moved : only allows config c event = some after) : allows event = true ∧ Moved config c event after := by
  simp only [only] at moved
  split at moved
  next allowed => exact ⟨allowed, step_moved moved⟩
  next => cases moved

private theorem surface_context {t : Troubles} {e other : ContextError} (broke : Broke t.cause)
    (mild : ∀ last ∈ t.last, ordinary last = true) (told : surface t e = .context other) : t = {} := by
  obtain ⟨cause, last⟩ := t
  cases cause with
  | none =>
    cases last with
    | none => rfl
    | some last =>
      obtain rfl : last = .context other := told
      cases mild _ rfl
  | some cause =>
    cases last with
    | none =>
      obtain rfl : cause = .context other := told
      cases broke _ rfl
    | some last => cases told

private theorem Redials.broke {slot : Slot} {t : Troubles} {stage : Stage} (redials : Redials slot t stage) :
    Broke t.cause := by
  cases redials <;> assumption

private theorem Redials.rank_pos {slot : Slot} {t : Troubles} {stage : Stage} (redials : Redials slot t stage) :
    0 < rank stage := by
  cases redials <;> exact Nat.succ_pos _

private theorem redials_progress {config : Reconnect} {c : Call} (redials : Redials c.slot (troubles c.log) c.stage) :
    ∃ event after, only failing config c event = some after := by
  obtain ⟨slot, ended, stage, log⟩ := c
  dsimp only at redials
  generalize troubles log = t at redials
  cases redials with
  | removing _ => exact ⟨.look, by simp [only, failing, Call.step, Stage.step]⟩
  | dropping _ => exact ⟨.answer (.replied (.ok none) ended), by simp [only, failing, Call.step, admits, answer]⟩
  | checking _ => cases ended <;> exact ⟨.look, _, rfl⟩
  | looking _ => exact ⟨.look, _, rfl⟩
  | dialing _ => exact ⟨.answer (.dialed (.error .bufferFull)), _, rfl⟩
  | resting _ => exact ⟨.answer .rested, _, rfl⟩

/-- Once the context has ended, a search whose dials fail comes to its end. -/
theorem redials_surfaces {config : Reconnect} {c : Call} {e : ContextError}
    (redials : Redials c.slot (troubles c.log) c.stage) (ended : c.ended = some e)
    (mild : ∀ last ∈ (troubles c.log).last, ordinary last = true) :
    Inevitable (only failing config) (Surfaces e) c := by
  -- A dial that is under way may still fail: what is told is known only from the record at the end.
  refine Inevitable.of_rank
    (fun c => c.ended = some e ∧ (∀ last ∈ (troubles c.log).last, ordinary last = true) ∧
      (Redials c.slot (troubles c.log) c.stage ∨ Surfaces e c))
    (fun c => rank c.stage) ?_ ⟨ended, mild, .inl redials⟩
  rintro c ⟨ended, mild, redials | surfaces⟩
  · refine .inr ⟨redials_progress redials, fun event after happens => ?_⟩
    obtain ⟨fails, moved⟩ := only_moved happens
    cases redials_moved redials moved with
    | late live => cases live.symm.trans ended
    | on further same less changed =>
      refine ⟨⟨same.trans ended, ?_, .inl further⟩, less (ended ▸ rfl)⟩
      rcases changed with last | ⟨why, rfl, last⟩
      · rwa [last]
      · rw [last]
        rintro _ ⟨⟩
        exact fails
    | brought _ _ _ => cases fails
    | @gaveUp _ _ other why ends same still finished told =>
      obtain rfl : other = e := Option.some.inj (ends.symm.trans ended)
      obtain rfl := told mild
      refine ⟨⟨same.trans ended, still ▸ mild, .inr ⟨?_, ?_⟩⟩, ?_⟩
      · rw [finished, still]
      · rw [still]
        exact fun other told => surface_context redials.broke mild told
      · rw [finished]
        exact redials.rank_pos
  · exact .inl surfaces

def shut (c : Call) : Call := { c with slot := (close c.slot).slot }

private theorem giveUp_closed (slot : Slot) (s : Search) :
    (giveUp slot s closedError).next = .finish (.error closedError) := by
  obtain ⟨goal, cause⟩ := s
  cases cause <;> rfl

section
variable {config : Reconnect} {c : Call} {s : Search} {wait : Duration}

private theorem looking_closes {last : Option TransportError} (closed : c.slot.closed = true) (live : c.ended = none)
    (place : c.stage = .looking s wait last) :
    Inevitable (only lasting config) (fun final => final.stage = .standing (.finish (.error closedError))) c := by
  obtain ⟨slot, ended, stage, log⟩ := c
  cases live
  cases place
  refine .later ⟨.look, by simp [only, lasting, Call.step, Stage.step, show slot.closed = true from closed]⟩
    fun event after happens => ?_
  obtain ⟨stays, moved⟩ := only_moved happens
  cases moved with
  | ends _ => cases stays
  | answer waits _ _ => cases waits
  | look stepped =>
    rw [Stage.step, if_pos (show slot.closed = true from closed)] at stepped
    cases stepped
    exact .now (congrArg Stage.standing (giveUp_closed slot s))

private theorem checking_closes {last : Option TransportError} (closed : c.slot.closed = true) (live : c.ended = none)
    (place : c.stage = .checking s wait last) :
    Inevitable (only lasting config) (fun final => final.stage = .standing (.finish (.error closedError))) c := by
  obtain ⟨slot, ended, stage, log⟩ := c
  cases live
  cases place
  refine .later ⟨.look, _, rfl⟩ fun event after happens => ?_
  obtain ⟨stays, moved⟩ := only_moved happens
  cases moved with
  | ends _ => cases stays
  | answer waits _ _ => cases waits
  | look stepped =>
    cases stepped
    exact looking_closes closed rfl rfl

private theorem resting_closes {last : TransportError} {time : Duration} (closed : c.slot.closed = true)
    (live : c.ended = none) (place : c.stage = .standing (.ask (.rest time) (.resting s wait last))) :
    Inevitable (only lasting config) (fun final => final.stage = .standing (.finish (.error closedError))) c := by
  obtain ⟨slot, ended, stage, log⟩ := c
  cases live
  cases place
  refine .later ⟨.answer .rested, _, rfl⟩ fun event after happens => ?_
  obtain ⟨stays, moved⟩ := only_moved happens
  cases moved with
  | ends _ => cases stays
  | look stepped => cases stepped
  | @answer _ _ a _ waits admitted answered =>
    cases waits
    cases a with
    | rested =>
      cases answered
      exact checking_closes closed rfl rfl
    | shutDown =>
      rw [answer, if_pos (show slot.closed = true from closed)] at answered
      cases answered
      exact .now (congrArg Stage.standing (giveUp_closed slot s))
    | interrupted => cases admitted
    | _ => cases answered

end

/-- A send or receive that has a transport for itself looks for a connection. If its context has ended and all
further dials fail for reasons of their own, it comes to its end, and tells the last of the failures, or what broke
the connection if there was no dial; it tells of the context only if there was neither. If instead the transport is
closed while it rests, and the context lasts, it tells that. -/
theorem search_surfaces {config : Reconnect} {slot : Slot} {begun : Option ContextError} {goal : Goal}
    {call : Call} (live : slot.closed = false) (led : Leads (Call.step config) (.start slot begun goal) call)
    (seeks : seeking call.stage = true) :
    (∀ e, call.ended = some e → (∀ last ∈ (troubles call.log).last, ordinary last = true) →
      Inevitable (only failing config) (Surfaces e) call) ∧
    ∀ time search wait last, call.stage = .standing (.ask (.rest time) (.resting search wait last)) →
      call.ended = none → Inevitable (only lasting config)
        (fun final => final.stage = .standing (.finish (.error closedError))) (shut call) := by
  have kept := kept_of_leads live led
  constructor
  · intro e ended mild
    exact redials_surfaces (kept.redials seeks) ended mild
  · intro time search wait last place lasts
    have closed : (shut call).slot.closed = true := by
      simp only [shut, close]
      split
      next already => exact already
      next => rfl
    exact resting_closes closed lasts place

def redialing : List Event :=
  [.look, .look, .look, .answer (.dialed (.ok 1)), .look, .answer (.replied (.error (.status 500)) none), .look,
    .answer (.replied (.ok none) none), .look, .look, .answer (.dialed (.error (.http true)))]

theorem search_surfaces_redialing :
    (∃ call, (redialing ++ [Event.ends .cancelled]).foldlM (Call.step {}) (.start {} none .receive) = some call ∧
      Inevitable (only failing {}) (Surfaces .cancelled) call) ∧
    ∃ call, redialing.foldlM (Call.step {}) (.start {} none .receive) = some call ∧
      Inevitable (only lasting {}) (fun final => final.stage = .standing (.finish (.error closedError)))
        (shut call) := by
  refine ⟨⟨_, rfl, ?_⟩, _, rfl, ?_⟩
  · have led := @search_surfaces {} {} none .receive _ rfl ⟨redialing ++ [.ends .cancelled], rfl⟩ rfl
    refine led.1 .cancelled rfl ?_
    rintro _ ⟨⟩
    rfl
  · exact (@search_surfaces {} {} none .receive _ rfl ⟨redialing, rfl⟩ rfl).2 _ _ _ _ rfl rfl

end Courier.Proofs.ReconnectingCauses
