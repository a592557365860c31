/-! Runs of systems that take one event after another. A step may refuse an event that cannot happen. Many
such systems are lists of tasks, of which an event lets one go on. -/

namespace Courier.Proofs

variable {σ ε : Type} {move : σ → ε → Option σ} {first middle last : σ}

def Leads (move : σ → ε → Option σ) (first last : σ) : Prop :=
  ∃ events : List ε, events.foldlM move first = some last

theorem Leads.step (led : Leads move first middle) (event : ε)
    (moved : move middle event = some last) : Leads move first last := by
  obtain ⟨events, ran⟩ := led
  refine ⟨events ++ [event], ?_⟩
  rw [List.foldlM_append, ran]
  simpa using moved

theorem Leads.trans (led : Leads move first middle) (later : Leads move middle last) :
    Leads move first last := by
  obtain ⟨events, ran⟩ := led
  obtain ⟨more, ranOn⟩ := later
  refine ⟨events ++ more, ?_⟩
  rw [List.foldlM_append, ran]
  exact ranOn

theorem Leads.invariant (led : Leads move first last) (property : σ → Prop) (initial : property first)
    (preserved : ∀ before event after, property before → move before event = some after →
      property after) : property last := by
  obtain ⟨events, ran⟩ := led
  induction events generalizing first with
  | nil =>
    cases ran
    exact initial
  | cons event rest ih =>
    rw [List.foldlM_cons] at ran
    obtain ⟨next, moved, ran⟩ := Option.bind_eq_some_iff.mp ran
    exact ih (preserved first event next initial moved) ran

/-- A system that another one looks like, step by step, looks like it after any events. -/
theorem foldlM_map {τ : Type} {other : τ → ε → Option τ} {look : σ → τ} (property : σ → Prop)
    (same : ∀ before event, property before →
      other (look before) event = (move before event).map look ∧
        ∀ after, move before event = some after → property after)
    (initial : property first) (events : List ε) :
    events.foldlM other (look first) = (events.foldlM move first).map look := by
  induction events generalizing first with
  | nil => rfl
  | cons event rest ih =>
    obtain ⟨alike, kept⟩ := same first event initial
    rw [List.foldlM_cons, List.foldlM_cons, alike]
    cases moved : move first event with
    | none => rfl
    | some next => exact ih (kept next moved)

structure Passage (σ ε : Type) where
  before : σ
  event : ε
  after : σ

/-- A run with all that has happened in it, the latest last. -/
inductive History (move : σ → ε → Option σ) (first : σ) : List (Passage σ ε) → σ → Prop where
  | start : History move first [] first
  | go {passages : List (Passage σ ε)} {middle last : σ} {event : ε}
      (prior : History move first passages middle) (moved : move middle event = some last) :
      History move first (passages ++ [⟨middle, event, last⟩]) last

theorem History.next {passages : List (Passage σ ε)} (ran : History move first passages middle) (event : ε)
    (moved : move middle event = some last) :
    History move first (passages ++ [⟨middle, event, last⟩]) last := ran.go moved

theorem History.mono {wider : σ → ε → Option σ} {passages : List (Passage σ ε)}
    (ran : History move first passages last)
    (allows : ∀ before event after, move before event = some after → wider before event = some after) :
    History wider first passages last := by
  induction ran with
  | start => exact .start
  | go _ moved ih => exact ih.go (allows _ _ _ moved)

theorem History.leads {passages : List (Passage σ ε)} (ran : History move first passages last) :
    Leads move first last := by
  induction ran with
  | start => exact ⟨[], rfl⟩
  | go _ moved ih => exact ih.step _ moved

/-- A run comes to each of its passages, and goes on from there. -/
theorem History.passage {passages : List (Passage σ ε)} (ran : History move first passages last) {p : Passage σ ε}
    (member : p ∈ passages) :
    Leads move first p.before ∧ move p.before p.event = some p.after ∧ Leads move p.after last := by
  induction ran with
  | start => cases member
  | go prior moved ih =>
    rcases List.mem_append.mp member with before | now
    · obtain ⟨came, passed, goes⟩ := ih before
      exact ⟨came, passed, goes.step _ moved⟩
    · obtain rfl := List.mem_singleton.mp now
      exact ⟨prior.leads, moved, [], rfl⟩

theorem History.extend {passages : List (Passage σ ε)} (ran : History move first passages middle)
    (led : Leads move middle last) : ∃ more, History move first (passages ++ more) last := by
  obtain ⟨events, led⟩ := led
  induction events generalizing passages middle with
  | nil =>
    cases led
    exact ⟨[], by rwa [List.append_nil]⟩
  | cons event events ih =>
    rw [List.foldlM_cons] at led
    obtain ⟨next, moved, led⟩ := Option.bind_eq_some_iff.mp led
    obtain ⟨more, ranOn⟩ := ih (ran.go moved) led
    rw [List.append_assoc] at ranOn
    exact ⟨_, ranOn⟩

theorem Leads.history (led : Leads move first last) :
    ∃ passages, History move first passages last :=
  History.start.extend led

/-- Something can happen until this holds, and whatever happens leads there in the end. -/
inductive Inevitable (move : σ → ε → Option σ) (goal : σ → Prop) : σ → Prop where
  | now {s : σ} : goal s → Inevitable move goal s
  | later {s : σ} : (∃ event after, move s event = some after) →
      (∀ event after, move s event = some after → Inevitable move goal after) → Inevitable move goal s

theorem Inevitable.of_rank {goal : σ → Prop} (stands : σ → Prop) (rank : σ → Nat)
    (goes : ∀ s, stands s → goal s ∨ (∃ event after, move s event = some after) ∧
      ∀ event after, move s event = some after → stands after ∧ rank after < rank s) {s : σ} (begun : stands s) :
    Inevitable move goal s := by
  induction left : rank s using Nat.strongRecOn generalizing s with
  | _ n ih =>
    rcases goes s begun with reached | ⟨can, all⟩
    · exact .now reached
    · refine .later can fun event after moved => ?_
      obtain ⟨stands, less⟩ := all event after moved
      exact ih _ (left ▸ less) stands rfl

/-- A task that goes on counts as what it is now, and no longer as what it was. -/
theorem countP_set_add {α : Type} {tasks : List α} {n : Nat} {before : α} (found : tasks[n]? = some before)
    (after : α) (p : α → Bool) :
    (tasks.set n after).countP p + (p before).toNat = tasks.countP p + (p after).toNat := by
  obtain ⟨inside, rfl⟩ := List.getElem?_eq_some_iff.mp found
  have counted : p tasks[n] = true → 0 < tasks.countP p := fun holds =>
    List.countP_pos_iff.mpr ⟨_, List.getElem_mem inside, holds⟩
  rw [List.countP_set inside]
  cases holds : p tasks[n] with
  | false => cases p after <;> simp
  | true =>
    have some : 0 < tasks.countP p := counted holds
    cases p after <;> simp only [Bool.toNat_true, Bool.toNat_false, if_true, Bool.false_eq_true,
      if_false] <;> omega

theorem found_append {α : Type} {tasks : List α} {begun task : α} {n : Nat}
    (found : (tasks ++ [begun])[n]? = some task) :
    tasks[n]? = some task ∨ n = tasks.length ∧ task = begun := by
  rcases Nat.lt_or_ge n tasks.length with inside | beyond
  · exact .inl ((List.getElem?_append_left inside).symm.trans found)
  · have last := (List.getElem?_append_right beyond).symm.trans found
    obtain ⟨place, same⟩ := List.getElem?_eq_some_iff.mp last
    obtain rfl : n = tasks.length := by
      simp only [List.length_singleton] at place
      omega
    refine .inr ⟨rfl, ?_⟩
    simpa using same.symm

theorem found_before {α : Type} {tasks : List α} {n : Nat} {task : α} (found : tasks[n]? = some task)
    (begun : α) : (tasks ++ [begun])[n]? = some task :=
  (List.getElem?_append_left (List.getElem?_eq_some_iff.mp found).1).trans found

theorem found_self {α : Type} {tasks : List α} {n : Nat} {before : α} (found : tasks[n]? = some before)
    (after : α) : (tasks.set n after)[n]? = some after :=
  List.getElem?_set_self (List.getElem?_eq_some_iff.mp found).1

theorem found_set {α : Type} {tasks : List α} {n m : Nat} {before after task : α}
    (found : tasks[n]? = some before) (there : (tasks.set n after)[m]? = some task) :
    m = n ∧ task = after ∨ m ≠ n ∧ tasks[m]? = some task := by
  by_cases same : n = m
  · subst same
    rw [found_self found] at there
    cases there
    exact .inl ⟨rfl, rfl⟩
  · rw [List.getElem?_set_ne same] at there
    exact .inr ⟨Ne.symm same, there⟩

theorem found_other {α : Type} {tasks : List α} {n m : Nat} {before task : α}
    (found : tasks[n]? = some before) (there : tasks[m]? = some task) (other : task ≠ before) (after : α) :
    (tasks.set n after)[m]? = some task := by
  rw [List.getElem?_set_ne, there]
  rintro rfl
  exact other (Option.some.inj (there.symm.trans found))

/-- A task that goes on stands where it stood, among the same others. -/
theorem split_set {α : Type} {tasks : List α} {n : Nat} {before : α} (found : tasks[n]? = some before)
    (after : α) :
    ∃ front back, tasks = front ++ before :: back ∧ tasks.set n after = front ++ after :: back := by
  obtain ⟨inside, rfl⟩ := List.getElem?_eq_some_iff.mp found
  obtain ⟨front, back, split, _, set⟩ := List.exists_of_set inside
  exact ⟨front, back, split, set⟩

theorem mem_set_iff {α : Type} {tasks : List α} {n : Nat} {before after task : α}
    (found : tasks[n]? = some before) (was : task ≠ before) (becomes : task ≠ after) :
    task ∈ tasks.set n after ↔ task ∈ tasks := by
  obtain ⟨front, back, split, set⟩ := split_set found after
  rw [set, split]
  simp [was, becomes]

/-- When the task that goes on was the only one of its kind, no other task is of that kind. -/
theorem alone_set {α : Type} {tasks : List α} {n : Nat} {before after task : α} {p : α → Bool}
    (found : tasks[n]? = some before) (kind : p before = true) (once : tasks.countP p ≤ 1)
    (member : task ∈ tasks.set n after) (same : p task = true) : task = after := by
  obtain ⟨front, back, split, set⟩ := split_set found after
  rw [split, List.countP_append, List.countP_cons_of_pos kind] at once
  have inFront : task ∉ front := fun there =>
    absurd (List.countP_pos_iff.mpr ⟨task, there, same⟩) (by omega)
  have inBack : task ∉ back := fun there =>
    absurd (List.countP_pos_iff.mpr ⟨task, there, same⟩) (by omega)
  simpa [set, inFront, inBack] using member

/-- A task that goes on yields what it yields now, and no longer what it has yielded before. -/
theorem filterMap_set_append {α β : Type} {tasks : List α} {n : Nat} {before : α}
    (found : tasks[n]? = some before) (f : α → Option β) (after : α) :
    ((tasks.set n after).filterMap f ++ (f before).toList).Perm
      (tasks.filterMap f ++ (f after).toList) := by
  obtain ⟨front, back, split, set⟩ := split_set found after
  have around (task : α) : (front ++ task :: back).filterMap f =
      front.filterMap f ++ ((f task).toList ++ back.filterMap f) := by
    rw [List.filterMap_append, List.filterMap_cons]
    cases f task <;> rfl
  rw [set, split, around, around]
  simp only [List.append_assoc]
  refine List.Perm.append_left _ (List.perm_append_comm.trans ?_)
  rw [← List.append_assoc (f before).toList]
  exact List.perm_append_comm.append_right _

theorem filterMap_set_perm {α β : Type} {tasks : List α} {n : Nat} {before : α}
    (found : tasks[n]? = some before) {f : α → Option β} (after : α) (fresh : f before = none) :
    ((tasks.set n after).filterMap f).Perm (tasks.filterMap f ++ (f after).toList) := by
  simpa [fresh] using filterMap_set_append found f after

end Courier.Proofs
