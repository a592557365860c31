import Courier.Simulation.Clock

/-! Waits under a context. A wait goes on until its whole time has passed or its context ends. What is left of
it when it is over does not depend on how the clock got there: the context has ended by then exactly if it
would have ended by the end of the whole wait, and if it has not, the whole time has passed. -/

namespace Courier.Proofs.ClockWaits
open Simulation Clock

section
variable {t u : Nat}

private theorem roundUp_mono (le : t ≤ u) :
    (t + 1000000 - 1) / 1000000 * 1000000 ≤ (u + 1000000 - 1) / 1000000 * 1000000 := by
  omega

private theorem roundUp_roundUp (t : Nat) :
    ((t + 1000000 - 1) / 1000000 * 1000000 + 1000000 - 1) / 1000000 * 1000000 =
      (t + 1000000 - 1) / 1000000 * 1000000 := by
  omega

private theorem le_roundUp (t : Nat) : t ≤ (t + 1000000 - 1) / 1000000 * 1000000 := by
  omega

private theorem wholeMillis_mono (le : t ≤ u) : wholeMillis t ≤ wholeMillis u := by
  simp only [wholeMillis, millisecond]
  exact roundUp_mono le

private theorem wholeMillis_wholeMillis (t : Instant) : wholeMillis (wholeMillis t) = wholeMillis t := by
  simp only [wholeMillis, millisecond]
  exact roundUp_roundUp t

theorem le_wholeMillis (t : Instant) : t ≤ wholeMillis t := by
  simp only [wholeMillis, millisecond]
  exact le_roundUp t

end

def EndsBy (c : Clock) (ctx : Context) (t : Instant) : Prop :=
  (∃ token ∈ ctx.tokens, token ∈ c.cancelled ∨ ∃ due ≤ max c.now t, (due, token) ∈ c.planned) ∨
    ∃ deadline, ctx.deadline = some deadline ∧ deadline ≤ max c.now t

section
variable {c : Clock} {ctx : Context} {t u : Instant} {d : Duration}

private theorem isSome_ended :
    (c.ended? ctx).isSome = true ↔
      (∃ token ∈ ctx.tokens, token ∈ c.cancelled) ∨
        ∃ deadline, ctx.deadline = some deadline ∧ deadline ≤ c.now := by
  have cancelled : ctx.isCancelled c.cancelled = true ↔ ∃ token ∈ ctx.tokens, token ∈ c.cancelled := by
    simp [Context.isCancelled]
  rw [← cancelled, Clock.ended?, Context.ended?]
  split
  next holds => simp [holds]
  next live =>
    cases deadline : ctx.deadline with
    | none => simp [live]
    | some instant =>
      by_cases past : instant ≤ c.now <;> simp [live, past]

private theorem isSome_ended_advanceTo :
    ((c.advanceTo t).ended? ctx).isSome = true ↔ EndsBy c ctx t := by
  rw [isSome_ended, EndsBy]
  -- The deadlines agree as they stand; a token is cancelled by then if its plan is due.
  simp only [advanceTo, List.partition_eq_filter_filter, List.mem_append, List.mem_map, List.mem_filter,
    decide_eq_true_eq]
  apply or_congr _ Iff.rfl
  apply exists_congr
  intro token
  apply and_congr_right
  intro _
  constructor
  · rintro (⟨⟨due, _⟩, ⟨planned, past⟩, rfl⟩ | before)
    · exact .inr ⟨due, past, planned⟩
    · exact .inl before
  · rintro (before | ⟨due, past, planned⟩)
    · exact .inr before
    · exact .inl ⟨(due, token), ⟨planned, past⟩, rfl⟩

private theorem EndsBy.mono (ends : EndsBy c ctx t) (le : t ≤ u) : EndsBy c ctx u := by
  have later : max c.now t ≤ max c.now u :=
    Nat.max_le.mpr ⟨Nat.le_max_left _ _, Nat.le_trans le (Nat.le_max_right _ _)⟩
  rcases ends with ⟨token, member, cancelled | ⟨due, past, planned⟩⟩ | ⟨deadline, known, past⟩
  · exact .inl ⟨token, member, .inl cancelled⟩
  · exact .inl ⟨token, member, .inr ⟨due, Nat.le_trans past later, planned⟩⟩
  · exact .inr ⟨deadline, known, Nat.le_trans past later⟩

private theorem EndsBy.of_ended (ended : (c.ended? ctx).isSome = true) (t : Instant) : EndsBy c ctx t := by
  rcases isSome_ended.mp ended with ⟨token, member, cancelled⟩ | ⟨deadline, known, past⟩
  · exact .inl ⟨token, member, .inl cancelled⟩
  · exact .inr ⟨deadline, known, Nat.le_trans past (Nat.le_max_left _ _)⟩

/-! ### When someone who waits for the end of a context is woken -/

private theorem earliest_cases (start : Option Instant) (entries : List (Instant × Token)) {found : Instant}
    (same : entries.foldl (fun found entry => earlier found (some entry.1)) start = some found) :
    start = some found ∨ ∃ entry ∈ entries, entry.1 = found := by
  induction entries generalizing start with
  | nil => exact .inl same
  | cons entry entries ih =>
    rcases ih _ same with first | ⟨later, member, same⟩
    · cases start with
      | none => exact .inr ⟨entry, List.mem_cons_self, Option.some.inj first⟩
      | some instant =>
        have least : min instant entry.1 = found := Option.some.inj first
        rcases Nat.le_total instant entry.1 with le | le
        · exact .inl (by rw [← least, Nat.min_eq_left le])
        · exact .inr ⟨entry, List.mem_cons_self, by rw [← least, Nat.min_eq_right le]⟩
    · exact .inr ⟨later, List.mem_cons_of_mem _ member, same⟩

private theorem earliest_le (start : Option Instant) (entries : List (Instant × Token)) {bound : Instant}
    (reached : (∃ instant ∈ start, instant ≤ bound) ∨ ∃ entry ∈ entries, entry.1 ≤ bound) :
    ∃ found ≤ bound, entries.foldl (fun found entry => earlier found (some entry.1)) start = some found := by
  induction entries generalizing start with
  | nil =>
    rcases reached with ⟨instant, same, le⟩ | ⟨_, member, _⟩
    · exact ⟨instant, le, same⟩
    · cases member
  | cons entry entries ih =>
    apply ih
    rcases reached with ⟨instant, same, le⟩ | ⟨later, member, le⟩
    · cases same
      exact .inl ⟨_, rfl, Nat.le_trans (Nat.min_le_left _ _) le⟩
    · rcases List.mem_cons.mp member with rfl | after
      · cases start with
        | none => exact .inl ⟨_, rfl, le⟩
        | some instant => exact .inl ⟨_, rfl, Nat.le_trans (Nat.min_le_right _ _) le⟩
      · exact .inr ⟨later, after, le⟩

private theorem endsBy_endOf (known : c.endOf ctx = some t) : EndsBy c ctx t := by
  unfold endOf at known
  split at known
  next ended => exact .of_ended ended t
  next =>
    rcases earliest_cases _ _ known with first | ⟨⟨due, token⟩, member, rfl⟩
    · obtain ⟨deadline, set, rfl⟩ := Option.map_eq_some_iff.mp first
      exact .inr ⟨deadline, set, Nat.le_trans (le_wholeMillis _) (Nat.le_max_right _ _)⟩
    · obtain ⟨planned, watched⟩ := List.mem_filter.mp member
      exact .inl ⟨token, List.contains_iff_mem.mp watched, .inr ⟨due, Nat.le_max_right _ _, planned⟩⟩

/-- Someone who waits until a whole millisecond is woken before its end if the context ends by then. -/
theorem endOf_le (ends : EndsBy c ctx t) (from_now : c.now ≤ t) (whole : wholeMillis t = t) :
    ∃ found ≤ t, c.endOf ctx = some found := by
  unfold endOf
  split
  next => exact ⟨c.now, from_now, rfl⟩
  next live =>
    rw [EndsBy, Nat.max_eq_right from_now] at ends
    apply earliest_le
    rcases ends with ⟨token, member, cancelled | ⟨due, past, planned⟩⟩ | ⟨deadline, known, past⟩
    · exact absurd (isSome_ended.mpr (.inl ⟨token, member, cancelled⟩)) live
    · exact .inr ⟨(due, token), List.mem_filter.mpr ⟨planned, List.contains_iff_mem.mpr member⟩, past⟩
    · refine .inl ⟨wholeMillis deadline, by rw [known]; rfl, ?_⟩
      rw [← whole]
      exact wholeMillis_mono past

private theorem le_after (c : Clock) (d : Duration) : c.now ≤ c.after d :=
  Nat.le_trans (Nat.le_add_right _ _) (le_wholeMillis _)

/-! ### Waits -/

/-- A wait that starts only while the context is live. -/
def rested (ctx : Context) (d : Duration) (c : Clock) : Clock :=
  if (c.ended? ctx).isSome then c else c.sleep d (some ctx)

theorem sleep_until (c : Clock) (d : Duration) (ctx : Context) :
    c.sleep d (some ctx) = c.advanceTo ((earlier (c.endOf ctx) (some (c.after d))).getD (c.after d)) := by
  rw [sleep, Option.bind_some]

private theorem earlier_later {woken : Option Instant} {wake : Instant}
    (late : ∀ t, woken = some t → wake ≤ t) : (earlier woken (some wake)).getD wake = wake := by
  cases woken with
  | none => rfl
  | some t => exact Nat.min_eq_right (late t rfl)

private theorem earlier_sooner {t wake : Instant} (soon : t ≤ wake) :
    (earlier (some t) (some wake)).getD wake = t :=
  Nat.min_eq_left soon

/-- A context that is live at the end of the whole wait lets it pass whole. -/
theorem rested_whole (live : ((c.advanceTo (c.after d)).ended? ctx).isSome = false) :
    rested ctx d c = c.advanceTo (c.after d) := by
  have running : ¬ EndsBy c ctx (c.after d) := by
    rw [← isSome_ended_advanceTo, live]
    exact Bool.false_ne_true
  have start : ¬ (c.ended? ctx).isSome = true := by
    intro ended
    exact running (.of_ended ended _)
  rw [rested, if_neg start, sleep_until, earlier_later]
  intro t woken
  apply Nat.le_of_not_lt
  intro early
  exact running ((endsBy_endOf woken).mono (Nat.le_of_lt early))

/-- A context that ends by the end of the whole wait has ended when the wait is over. -/
theorem rested_cut (ended : ((c.advanceTo (c.after d)).ended? ctx).isSome = true) :
    ((rested ctx d c).ended? ctx).isSome = true := by
  unfold rested
  split
  next already => exact already
  next =>
    have ends := isSome_ended_advanceTo.mp ended
    obtain ⟨t, early, woken⟩ := endOf_le ends (le_after c d) (wholeMillis_wholeMillis _)
    rw [sleep_until, woken, earlier_sooner early]
    exact isSome_ended_advanceTo.mpr (endsBy_endOf woken)

end

end Courier.Proofs.ClockWaits
