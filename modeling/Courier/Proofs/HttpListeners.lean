import Courier.Transport.Http
import Courier.Proofs.Runs
import Mathlib.Data.List.Nodup

/-! The listeners of a transport. Listening binds a listener between two looks at the transport, and other
calls to listen or to close come in between. Wherever a run leads, a listener that has been bound is in one
place: installed, stopped by the call that bound it, or with the one close that took it. -/

namespace Courier.Proofs.HttpListeners

inductive Call where
  /-- The transport is open and has no listener, and one is being bound. -/
  | binding
  | listening (l : Listener)
  /-- It has stopped the listener that it had bound. -/
  | aborted (l : Listener) (why : TransportError)
  | refused (why : TransportError)
  /-- A close shuts down the listener that it has taken. -/
  | stopping (l : Listener)
  | closed (stopped : Option Listener)

structure Service where
  transport : HttpTransport
  calls : List Call := []
  /-- The listeners that have been bound, each with the call that bound it. -/
  bound : List (Nat × Listener) := []
  /-- The listeners that have been neither aborted nor shut down. -/
  running : List Listener := []

inductive Event where
  | listen
  /-- A call that binds a listener has got it, or could not get it. -/
  | bound (call : Nat) (result : Except TransportError Listener)
  | close
  | stopped (call : Nat)

namespace Service

def listeners (s : Service) : List Listener := s.bound.map Prod.snd

/-- The state after an event. Between two events a call looks at the transport and acts on what it has seen,
with nobody in between. -/
def step (addressOf : Listener → String) (s : Service) : Event → Option Service
  | .listen =>
    match s.transport.mayListen addressOf with
    | .ok () => some { s with calls := s.calls ++ [.binding] }
    | .error why => some { s with calls := s.calls ++ [.refused why] }
  | .bound n result =>
    match s.calls[n]?, result with
    | some .binding, .error why => some { s with calls := s.calls.set n (.refused why) }
    | some .binding, .ok l =>
      if l ∈ s.listeners then none
      else
        match s.transport.install addressOf l with
        | .ok transport =>
          some { transport
                 calls := s.calls.set n (.listening l)
                 bound := s.bound ++ [(n, l)]
                 running := s.running ++ [l] }
        | .error why =>
          some { s with calls := s.calls.set n (.aborted l why), bound := s.bound ++ [(n, l)] }
    | _, _ => none
  | .close =>
    let (taken, transport) := s.transport.close
    let call : Call :=
      match taken with
      | some l => .stopping l
      | none => .closed none
    some { s with transport, calls := s.calls ++ [call] }
  | .stopped n =>
    match s.calls[n]? with
    | some (.stopping l) =>
      some { s with calls := s.calls.set n (.closed (some l)), running := s.running.filter (· ≠ l) }
    | _ => none

end Service

def Reachable (addressOf : Listener → String) (target : String) (config : HttpConfig) : Service → Prop :=
  Leads (Service.step addressOf) { transport := { target, config } }

/-- Why a call stops the listener that it has bound. -/
inductive Refusal (addressOf : Listener → String) (t : HttpTransport) : TransportError → Prop where
  | closed : t.closed = true → Refusal addressOf t (.closed HttpTransport.name)
  | running {l : Listener} : t.listener = some l → Refusal addressOf t (.listenerRunning (addressOf l))

inductive Took (addressOf : Listener → String) (s : Service) : Service → Prop where
  | begun {call : Call} (plain : call = .binding ∨ ∃ why, call = .refused why) :
      Took addressOf s { s with calls := s.calls ++ [call] }
  | unbound {n : Nat} (why : TransportError) (waits : s.calls[n]? = some .binding) :
      Took addressOf s { s with calls := s.calls.set n (.refused why) }
  | installed {n : Nat} {l : Listener} (waits : s.calls[n]? = some .binding) (new : l ∉ s.listeners)
      (live : s.transport.closed = false) (free : s.transport.listener = none) :
      Took addressOf s
        { transport := { s.transport with listener := some l }
          calls := s.calls.set n (.listening l)
          bound := s.bound ++ [(n, l)]
          running := s.running ++ [l] }
  | aborted {n : Nat} {l : Listener} {why : TransportError} (waits : s.calls[n]? = some .binding)
      (new : l ∉ s.listeners) (refused : Refusal addressOf s.transport why) :
      Took addressOf s { s with calls := s.calls.set n (.aborted l why), bound := s.bound ++ [(n, l)] }
  | taken {l : Listener} (held : s.transport.listener = some l) :
      Took addressOf s
        { s with
          transport := { s.transport with listener := none, closed := true }
          calls := s.calls ++ [.stopping l] }
  | closed (free : s.transport.listener = none) :
      Took addressOf s
        { s with
          transport := { s.transport with listener := none, closed := true }
          calls := s.calls ++ [.closed none] }
  | stopped {n : Nat} {l : Listener} (waits : s.calls[n]? = some (.stopping l)) :
      Took addressOf s
        { s with calls := s.calls.set n (.closed (some l)), running := s.running.filter (· ≠ l) }

section
variable {addressOf : Listener → String} {s after : Service} {event : Event}

private theorem install_cases (t : HttpTransport) (l : Listener) :
    (t.closed = false ∧ t.listener = none ∧ t.install addressOf l = .ok { t with listener := some l }) ∨
      ∃ why, Refusal addressOf t why ∧ t.install addressOf l = .error why := by
  simp only [HttpTransport.install, HttpTransport.mayListen, HttpTransport.ensureOpen]
  cases closed : t.closed with
  | true => exact .inr ⟨_, .closed closed, rfl⟩
  | false =>
    cases held : t.listener with
    | some other => exact .inr ⟨_, .running held, rfl⟩
    | none => exact .inl ⟨rfl, rfl, rfl⟩

theorem step_took (stepped : s.step addressOf event = some after) : Took addressOf s after := by
  cases event with
  | listen =>
    simp only [Service.step] at stepped
    split at stepped <;> cases stepped
    · exact .begun (.inl rfl)
    · exact .begun (.inr ⟨_, rfl⟩)
  | bound n result =>
    simp only [Service.step] at stepped
    split at stepped
    next waits =>
      cases stepped
      exact .unbound _ waits
    next l waits =>
      split at stepped
      · cases stepped
      next new =>
        rcases install_cases s.transport l with ⟨live, free, put⟩ | ⟨why, refused, failed⟩
        · rw [put] at stepped
          cases stepped
          exact .installed waits new live free
        · rw [failed] at stepped
          cases stepped
          exact .aborted waits new refused
    next => cases stepped
  | close =>
    simp only [Service.step, HttpTransport.close] at stepped
    cases held : s.transport.listener with
    | some l =>
      rw [held] at stepped
      cases stepped
      exact .taken held
    | none =>
      rw [held] at stepped
      cases stepped
      exact .closed held
  | stopped n =>
    simp only [Service.step] at stepped
    split at stepped
    next waits =>
      cases stepped
      exact .stopped waits
    next => cases stepped

end

/-! ### Where a listener is -/

def aborts (l : Listener) : Call → Bool
  | .aborted other _ => other = l
  | _ => false

/-- Whether a call is a close that has taken this listener. -/
def takes (l : Listener) : Call → Bool
  | .stopping other => other = l
  | .closed stopped => stopped = some l
  | _ => false

def closes : Call → Bool
  | .stopping _ | .closed _ => true
  | _ => false

def finished : Call → Bool
  | .binding | .stopping _ => false
  | _ => true

section
variable (s : Service) (l : Listener)

def installed : Nat := s.transport.listener.toList.count l

def abortions : Nat := s.calls.countP (aborts l)

def takings : Nat := s.calls.countP (takes l)

end

/-- Why a call that has bound a listener may say that it has stopped it. -/
def Justified (addressOf : Listener → String) (s : Service) (why : TransportError) : Prop :=
  why = .closed HttpTransport.name ∨ ∃ other ∈ s.listeners, why = .listenerRunning (addressOf other)

/-- What is kept by every event. A listener that has been bound is in one place, and its call knows it. -/
structure Owned (addressOf : Listener → String) (s : Service) : Prop where
  places : ∀ l, installed s l + abortions s l + takings s l = s.listeners.count l
  fresh : s.listeners.Nodup
  emptied : s.transport.closed = true → s.transport.listener = none
  final : ∀ call ∈ s.calls, closes call = true → s.transport.closed = true
  binders : ∀ n l, (n, l) ∈ s.bound →
    s.calls[n]? = some (.listening l) ∨ ∃ why, s.calls[n]? = some (.aborted l why)
  aborters : ∀ n l why, s.calls[n]? = some (.aborted l why) → (n, l) ∈ s.bound ∧ Justified addressOf s why
  running : ∀ l, l ∈ s.running ↔ s.transport.listener = some l ∨ .stopping l ∈ s.calls

section
variable {addressOf : Listener → String} {target : String} {config : HttpConfig} {s after : Service}
  {event : Event} {l : Listener} {n : Nat}

private theorem installed_of_eq (held : s.transport.listener = some l) : installed s l = 1 := by
  simp [installed, held]

private theorem installed_of_ne (other : s.transport.listener ≠ some l) : installed s l = 0 := by
  rw [installed, List.count_eq_zero, Option.mem_toList]
  exact other

private theorem Owned.known (owned : Owned addressOf s) (held : s.transport.listener = some l) :
    l ∈ s.listeners := by
  have places := owned.places l
  rw [installed_of_eq held] at places
  exact List.count_pos_iff.mp (by omega)

private theorem Owned.count_le (owned : Owned addressOf s) (l : Listener) : s.listeners.count l ≤ 1 :=
  List.nodup_iff_count_le_one.mp owned.fresh l

/-- An event moves a listener from place to place, and none is lost. -/
theorem took_places (took : Took addressOf s after)
    (places : ∀ l, installed s l + abortions s l + takings s l = s.listeners.count l) (l : Listener) :
    installed after l + abortions after l + takings after l = after.listeners.count l := by
  have before := places l
  simp only [abortions, takings, Service.listeners] at before ⊢
  cases took with
  | begun plain =>
    rcases plain with rfl | ⟨why, rfl⟩ <;>
      simpa [List.countP_append, installed, aborts, takes] using before
  | unbound why waits =>
    have aborted := countP_set_add waits (.refused why) (aborts l)
    have taken := countP_set_add waits (.refused why) (takes l)
    simp only [aborts, takes, Bool.toNat_false] at aborted taken
    simp only [installed] at before ⊢
    omega
  | @installed n new waits _ _ free =>
    have aborted := countP_set_add waits (.listening new) (aborts l)
    have taken := countP_set_add waits (.listening new) (takes l)
    simp only [aborts, takes, Bool.toNat_false] at aborted taken
    simp only [installed, free, List.map_append, List.count_append, Option.toList_none, List.count_nil,
      Option.toList_some, List.map_cons, List.map_nil] at before ⊢
    omega
  | @aborted n new why waits _ _ =>
    have aborted := countP_set_add waits (.aborted new why) (aborts l)
    have taken := countP_set_add waits (.aborted new why) (takes l)
    simp only [aborts, takes, Bool.toNat_false] at aborted taken
    simp only [installed, List.map_append, List.count_append, List.map_cons, List.map_nil,
      List.count_singleton, beq_iff_eq] at before ⊢
    by_cases same : new = l
    · subst same
      simp only [decide_true, Bool.toNat_true, if_true] at aborted ⊢
      omega
    · simp only [same, decide_false, Bool.toNat_false, if_false] at aborted ⊢
      omega
  | @taken mine held =>
    simp only [installed, held, List.countP_append, List.countP_singleton, aborts, takes,
      Option.toList_none, Option.toList_some, List.count_nil, List.count_singleton, beq_iff_eq,
      decide_eq_true_eq, Bool.false_eq_true, if_false] at before ⊢
    omega
  | closed free =>
    simpa [installed, free, List.countP_append, aborts, takes] using before
  | @stopped n mine waits =>
    have aborted := countP_set_add waits (.closed (some mine)) (aborts l)
    have taken := countP_set_add waits (.closed (some mine)) (takes l)
    simp only [aborts, takes, Option.some.injEq] at aborted taken
    simp only [installed] at before ⊢
    omega

private theorem took_fresh (took : Took addressOf s after) (fresh : s.listeners.Nodup) :
    after.listeners.Nodup := by
  have add {n : Nat} {l : Listener} (new : l ∉ s.listeners) :
      ((s.bound ++ [(n, l)]).map Prod.snd).Nodup := by
    rw [List.map_append]
    refine List.nodup_append.mpr ⟨fresh, List.nodup_singleton l, ?_⟩
    rintro other there mine same rfl
    obtain rfl := List.mem_singleton.mp same
    exact new there
  cases took with
  | installed _ new _ _ => exact add new
  | aborted _ new _ => exact add new
  | _ => exact fresh

private theorem took_emptied (took : Took addressOf s after)
    (emptied : s.transport.closed = true → s.transport.listener = none) :
    after.transport.closed = true → after.transport.listener = none := by
  cases took with
  | installed _ _ live _ => exact fun closed => nomatch live.symm.trans closed
  | taken _ => exact fun _ => rfl
  | closed _ => exact fun _ => rfl
  | _ => exact emptied

private theorem took_final (took : Took addressOf s after)
    (final : ∀ call ∈ s.calls, closes call = true → s.transport.closed = true) :
    ∀ call ∈ after.calls, closes call = true → after.transport.closed = true := by
  intro call member close
  cases took with
  | begun plain =>
    rcases List.mem_append.mp member with old | new
    · exact final call old close
    · obtain rfl := List.mem_singleton.mp new
      rcases plain with rfl | ⟨why, rfl⟩ <;> cases close
  | taken _ => rfl
  | closed _ => rfl
  | stopped waits => exact final _ (List.mem_of_getElem? waits) rfl
  | unbound _ _ | installed _ _ _ _ | aborted _ _ _ =>
    rcases List.mem_or_eq_of_mem_set member with old | rfl
    · exact final call old close
    · cases close

private theorem took_binders (took : Took addressOf s after)
    (binders : ∀ n l, (n, l) ∈ s.bound →
      s.calls[n]? = some (.listening l) ∨ ∃ why, s.calls[n]? = some (.aborted l why)) :
    ∀ n l, (n, l) ∈ after.bound →
      after.calls[n]? = some (.listening l) ∨ ∃ why, after.calls[n]? = some (.aborted l why) := by
  -- The call that goes on has bound no listener before.
  have set {m : Nat} {before : Call} (waits : s.calls[m]? = some before)
      (waiting : finished before = false) (call : Call) (n : Nat) (l : Listener) (old : (n, l) ∈ s.bound) :
      (s.calls.set m call)[n]? = some (.listening l) ∨
        ∃ why, (s.calls.set m call)[n]? = some (.aborted l why) := by
    rcases binders n l old with there | ⟨why, there⟩
    · refine .inl (found_other waits there ?_ call)
      rintro rfl
      cases waiting
    · refine .inr ⟨why, found_other waits there ?_ call⟩
      rintro rfl
      cases waiting
  have append (call : Call) (n : Nat) (l : Listener) (old : (n, l) ∈ s.bound) :
      (s.calls ++ [call])[n]? = some (.listening l) ∨
        ∃ why, (s.calls ++ [call])[n]? = some (.aborted l why) :=
    (binders n l old).imp (found_before · call) (Exists.imp fun _ there => found_before there call)
  intro n l member
  cases took with
  | begun _ => exact append _ n l member
  | taken _ => exact append _ n l member
  | closed _ => exact append _ n l member
  | unbound _ waits => exact set waits rfl _ n l member
  | stopped waits => exact set waits rfl _ n l member
  | installed waits _ _ _ =>
    rcases List.mem_append.mp member with old | new
    · exact set waits rfl _ n l old
    · cases List.mem_singleton.mp new
      exact .inl (found_self waits _)
  | aborted waits _ _ =>
    rcases List.mem_append.mp member with old | new
    · exact set waits rfl _ n l old
    · cases List.mem_singleton.mp new
      exact .inr ⟨_, found_self waits _⟩

private theorem Refusal.justified {why : TransportError} (refused : Refusal addressOf s.transport why)
    (known : ∀ l, s.transport.listener = some l → l ∈ s.listeners) : Justified addressOf s why := by
  cases refused with
  | closed _ => exact .inl rfl
  | running held => exact .inr ⟨_, known _ held, rfl⟩

private theorem took_bound (took : Took addressOf s after) : ∃ new, after.bound = s.bound ++ new := by
  cases took with
  | installed _ _ _ _ => exact ⟨_, rfl⟩
  | aborted _ _ _ => exact ⟨_, rfl⟩
  | _ => exact ⟨[], (List.append_nil _).symm⟩

private theorem Justified.later {why : TransportError} (justified : Justified addressOf s why)
    (took : Took addressOf s after) : Justified addressOf after why := by
  obtain ⟨new, grown⟩ := took_bound took
  refine justified.imp_right ?_
  rintro ⟨other, there, same⟩
  refine ⟨other, ?_, same⟩
  rw [Service.listeners, grown, List.map_append]
  exact List.mem_append_left _ there

private theorem took_aborters (took : Took addressOf s after)
    (known : ∀ l, s.transport.listener = some l → l ∈ s.listeners)
    (aborters : ∀ n l why, s.calls[n]? = some (.aborted l why) →
      (n, l) ∈ s.bound ∧ Justified addressOf s why) :
    ∀ n l why, after.calls[n]? = some (.aborted l why) →
      (n, l) ∈ after.bound ∧ Justified addressOf after why := by
  intro n l why there
  have old (before : s.calls[n]? = some (.aborted l why)) :
      (n, l) ∈ after.bound ∧ Justified addressOf after why := by
    obtain ⟨bound, justified⟩ := aborters n l why before
    obtain ⟨new, grown⟩ := took_bound took
    exact ⟨grown ▸ List.mem_append_left new bound, justified.later took⟩
  cases id took with
  | begun plain =>
    rcases found_append there with before | ⟨_, new⟩
    · exact old before
    · rcases plain with rfl | ⟨_, rfl⟩ <;> cases new
  | taken _ | closed _ =>
    rcases found_append there with before | ⟨_, new⟩
    · exact old before
    · cases new
  | unbound _ waits | stopped waits | installed waits _ _ _ =>
    rcases found_set waits there with ⟨_, now⟩ | ⟨_, before⟩
    · cases now
    · exact old before
  | aborted waits _ refused =>
    rcases found_set waits there with ⟨rfl, now⟩ | ⟨_, before⟩
    · cases now
      exact ⟨List.mem_append_right _ (List.mem_singleton_self _), (refused.justified known).later took⟩
    · exact old before

private theorem Owned.stopping_alone (owned : Owned addressOf s) (waits : s.calls[n]? = some (.stopping l)) :
    s.transport.listener ≠ some l ∧ .stopping l ∉ s.calls.set n (.closed (some l)) := by
  have places := owned.places l
  have most := owned.count_le l
  have taken : 0 < takings s l :=
    List.countP_pos_iff.mpr ⟨_, List.mem_of_getElem? waits, decide_eq_true rfl⟩
  refine ⟨fun held => ?_, fun member => ?_⟩
  · rw [installed_of_eq held] at places
    omega
  · have once : s.calls.countP (takes l) ≤ 1 := by
      rw [← takings]
      omega
    cases alone_set waits (p := takes l) (decide_eq_true rfl) once member (decide_eq_true rfl)

private theorem Owned.running_after (owned : Owned addressOf s) (took : Took addressOf s after) :
    ∀ l, l ∈ after.running ↔ after.transport.listener = some l ∨ .stopping l ∈ after.calls := by
  intro l
  have running := owned.running l
  cases took with
  | begun plain =>
    rcases plain with rfl | ⟨why, rfl⟩ <;> simpa using running
  | unbound _ waits => simpa [mem_set_iff waits] using running
  | aborted waits _ _ => simpa [mem_set_iff waits] using running
  | installed waits _ _ free =>
    simp only [free, reduceCtorEq, false_or] at running
    simp [mem_set_iff waits, running, or_comm, eq_comm]
  | taken held =>
    simp [held, running, or_comm, eq_comm]
  | closed free => simpa [free] using running
  | @stopped n mine waits =>
    obtain ⟨elsewhere, alone⟩ := owned.stopping_alone waits
    rw [List.mem_filter, running]
    by_cases same : l = mine
    · subst same
      simp [elsewhere, alone]
    · simp [mem_set_iff waits, same]

theorem step_preserves (s : Service) (event : Event) (after : Service) (owned : Owned addressOf s)
    (stepped : s.step addressOf event = some after) : Owned addressOf after where
  places := took_places (step_took stepped) owned.places
  fresh := took_fresh (step_took stepped) owned.fresh
  emptied := took_emptied (step_took stepped) owned.emptied
  final := took_final (step_took stepped) owned.final
  binders := took_binders (step_took stepped) owned.binders
  aborters := took_aborters (step_took stepped) (fun _ => owned.known) owned.aborters
  running := owned.running_after (step_took stepped)

theorem reachable_owned (reached : Reachable addressOf target config s) : Owned addressOf s :=
  reached.invariant (Owned addressOf)
    { places := fun _ => rfl, fresh := List.nodup_nil, emptied := fun _ => rfl, final := nofun,
      binders := nofun, aborters := nofun, running := by simp }
    step_preserves

private theorem Owned.not_aborted (owned : Owned addressOf s) (bound : (n, l) ∈ s.bound)
    (listening : s.calls[n]? = some (.listening l)) : abortions s l = 0 := by
  rw [abortions, List.countP_eq_zero]
  intro call member aborted
  cases call with
  | aborted other why =>
    obtain rfl : other = l := of_decide_eq_true aborted
    obtain ⟨m, there⟩ := List.mem_iff_getElem?.mp member
    cases List.inj_on_of_nodup_map owned.fresh bound (owned.aborters m other why there).1 rfl
    cases listening.symm.trans there
  | _ => cases aborted

/-- However calls to listen and to close overlap, no listener is installed once the transport has been
closed, and a listener that has been bound is either installed, or stopped by the call that bound it, which
says why, or with exactly one close. Those that run are the installed one and the ones that a close is
shutting down, so none runs when a close has returned and every call has. -/
theorem bound_in_one_place (reached : Reachable addressOf target config s) :
    (s.transport.closed = true → s.transport.listener = none) ∧
    (∀ n l, (n, l) ∈ s.bound →
      s.transport.listener = some l ∧ s.calls[n]? = some (.listening l) ∧
          abortions s l = 0 ∧ takings s l = 0 ∨
        s.transport.listener ≠ some l ∧
          (∃ why, s.calls[n]? = some (.aborted l why) ∧ Justified addressOf s why) ∧
          abortions s l = 1 ∧ takings s l = 0 ∨
        s.transport.listener ≠ some l ∧ s.calls[n]? = some (.listening l) ∧
          abortions s l = 0 ∧ takings s l = 1) ∧
    (∀ l, l ∈ s.running ↔ s.transport.listener = some l ∨ .stopping l ∈ s.calls) ∧
    ((∀ call ∈ s.calls, finished call = true) → (∃ call ∈ s.calls, closes call = true) →
      s.running = []) := by
  have owned := reachable_owned reached
  refine ⟨owned.emptied, ?_, owned.running, ?_⟩
  · intro n l bound
    have places := owned.places l
    have known : l ∈ s.listeners := List.mem_map_of_mem bound
    rw [List.count_eq_one_of_mem owned.fresh known] at places
    rcases owned.binders n l bound with listening | ⟨why, aborted⟩
    · have never := owned.not_aborted bound listening
      by_cases held : s.transport.listener = some l
      · rw [installed_of_eq held] at places
        exact .inl ⟨held, listening, never, by omega⟩
      · rw [installed_of_ne held] at places
        exact .inr (.inr ⟨held, listening, never, by omega⟩)
    · have once : 0 < abortions s l :=
        List.countP_pos_iff.mpr ⟨_, List.mem_of_getElem? aborted, decide_eq_true rfl⟩
      have elsewhere : s.transport.listener ≠ some l := fun held => by
        rw [installed_of_eq held] at places
        omega
      exact .inr (.inl ⟨elsewhere, ⟨why, aborted, (owned.aborters n l why aborted).2⟩, by omega, by omega⟩)
  · rintro finished ⟨call, member, close⟩
    refine List.eq_nil_iff_forall_not_mem.mpr fun l running => ?_
    rcases (owned.running l).mp running with held | stopping
    · rw [owned.emptied (owned.final call member close)] at held
      cases held
    · cases finished _ stopping

end

/-- Three calls listen at once. 7 is installed, 8 comes second, and 9 comes when a close has taken 7. -/
def overlapping : Service where
  transport := { target := "http://peer/mist", closed := true }
  calls :=
    [.listening 7, .aborted 8 (.listenerRunning "127.0.0.1:7"), .aborted 9 (.closed HttpTransport.name),
      .closed (some 7)]
  bound := [(0, 7), (1, 8), (2, 9)]

theorem bound_in_one_place_overlapping :
    Reachable (fun l => "127.0.0.1:" ++ toString l) "http://peer/mist" {} overlapping ∧
      takings overlapping 7 = 1 ∧ abortions overlapping 8 = 1 ∧ abortions overlapping 9 = 1 ∧
      overlapping.running = [] := by
  have reached : Reachable (fun l => "127.0.0.1:" ++ toString l) "http://peer/mist" {} overlapping :=
    ⟨[.listen, .listen, .listen, .bound 0 (.ok 7), .bound 1 (.ok 8), .close, .bound 2 (.ok 9), .stopped 3],
      rfl⟩
  obtain ⟨emptied, places, _, finished⟩ := bound_in_one_place reached
  refine ⟨reached, ?_, ?_, ?_, finished (by decide) ⟨.closed (some 7), by simp [overlapping], rfl⟩⟩
  · rcases places 0 7 (by decide) with ⟨held, _⟩ | ⟨_, ⟨why, aborted, _⟩, _⟩ | ⟨_, _, _, once⟩
    · cases held
    · cases aborted
    · exact once
  · rcases places 1 8 (by decide) with ⟨held, _⟩ | ⟨_, _, once, _⟩ | ⟨_, listening, _⟩
    · cases held
    · exact once
    · cases listening
  · rcases places 2 9 (by decide) with ⟨held, _⟩ | ⟨_, _, once, _⟩ | ⟨_, listening, _⟩
    · cases held
    · exact once
    · cases listening

end Courier.Proofs.HttpListeners
