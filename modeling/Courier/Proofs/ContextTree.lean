import Courier.Simulation.Clock
import Courier.Proofs.Runs
import Mathlib.Order.Bounds.Basic

/-! The tree of contexts. Contexts are derived from one another and cloned, are cancelled, and time goes
by. A context is done when it or one above it has been cancelled, or when the clock has reached one of the
deadlines that were asked for on the way down to it. -/

namespace Courier.Proofs.ContextTree
open Simulation

deriving instance DecidableEq for Clock

inductive Derivation where
  | child
  | timeout (after : Duration)
  | deadline (instant : Instant)
  | span (number : Nat)
deriving Repr, DecidableEq

namespace Derivation

def apply (how : Derivation) (source : Context) (token : Token) (now : Instant) : Context :=
  match how with
  | child => source.child token
  | timeout after => source.withTimeout token now after
  | deadline instant => source.withDeadline token instant
  | span number => source.withSpan token number

/-- The deadline that is asked for. An instant that no clock reaches cannot be. -/
def requests (how : Derivation) (now : Instant) : Option Instant :=
  match how with
  | timeout after => if now + after.nanos < Instant.limit then some (now + after.nanos) else none
  | deadline instant => some instant
  | child | span _ => none

@[simp] theorem apply_tokens (how : Derivation) (source : Context) (token : Token) (now : Instant) :
    (how.apply source token now).tokens = token :: source.tokens := by
  cases how with
  | timeout after =>
    simp only [apply, Context.withTimeout]
    split <;> rfl
  | child | deadline _ | span _ => rfl

@[simp] theorem apply_deadline (how : Derivation) (source : Context) (token : Token) (now : Instant) :
    (how.apply source token now).deadline = Clock.earlier source.deadline (how.requests now) := by
  have bounded (instant : Instant) : (source.withDeadline token instant).deadline =
      Clock.earlier source.deadline (some instant) := by
    cases held : source.deadline <;> simp [Context.withDeadline, Clock.earlier, held]
  have inherited : source.deadline = Clock.earlier source.deadline none := by
    cases source.deadline <;> rfl
  cases how with
  | timeout after =>
    simp only [apply, Context.withTimeout, requests]
    split
    · exact bounded _
    · exact inherited
  | deadline instant => exact bounded instant
  | child | span _ => exact inherited

end Derivation

inductive Origin where
  | background
  | derived (source : Nat) (how : Derivation) (made : Instant)
  | cloned (source : Nat)
deriving Repr, DecidableEq

/-- Whether a context has a token of its own. A clone shares that of the context it was taken from. -/
def Origin.isNew : Origin → Bool
  | background | derived _ _ _ => true
  | cloned _ => false

structure Member where
  context : Context
  origin : Origin
deriving Repr, DecidableEq

structure Tree where
  clock : Clock
  members : List Member := []
  /-- The members that have been cancelled, the latest first. -/
  cancelled : List Nat := []
deriving Repr, DecidableEq

inductive Event where
  | background
  | derive (source : Nat) (how : Derivation)
  | clone (source : Nat)
  | cancel (member : Nat)
  | elapse (time : Duration)
deriving Repr

namespace Tree

def add (tree : Tree) (clock : Clock) (context : Context) (origin : Origin) : Tree :=
  { tree with clock, members := tree.members ++ [⟨context, origin⟩] }

def step (tree : Tree) : Event → Option Tree
  | .background =>
    let (token, clock) := tree.clock.freshToken
    some (tree.add clock (.background token) .background)
  | .derive source how => do
    let found ← tree.members[source]?
    let (token, clock) := tree.clock.freshToken
    some (tree.add clock (how.apply found.context token clock.now) (.derived source how clock.now))
  | .clone source => do
    let found ← tree.members[source]?
    some (tree.add tree.clock found.context (.cloned source))
  | .cancel member => do
    let found ← tree.members[member]?
    some { tree with clock := tree.clock.cancel (found.context.tokens.headD 0)
                     cancelled := member :: tree.cancelled }
  | .elapse time => some { tree with clock := tree.clock.advanceTo (tree.clock.now + time.nanos) }

def origin? (tree : Tree) (member : Nat) : Option Origin := (tree.members[member]?).map (·.origin)

def tokens (tree : Tree) (member : Nat) : List Token :=
  ((tree.members[member]?).map (·.context.tokens)).getD []

def own (tree : Tree) (member : Nat) : Token := (tree.tokens member).headD 0

def deadline (tree : Tree) (member : Nat) : Option Instant :=
  (tree.members[member]?).bind (·.context.deadline)

def ended? (tree : Tree) (member : Nat) : Option ContextError :=
  (tree.members[member]?).bind (tree.clock.ended? ·.context)

/-- Members below one, with the number of derivations between. A clone stands where the context stands
that it was taken from. -/
inductive Below (tree : Tree) (top : Nat) : Nat → Nat → Prop where
  | self : Below tree top 0 top
  | derived {n source member : Nat} {how : Derivation} {made : Instant} (prior : Below tree top n source)
      (origin : tree.origin? member = some (.derived source how made)) : Below tree top (n + 1) member
  | cloned {n source member : Nat} (prior : Below tree top n source)
      (origin : tree.origin? member = some (.cloned source)) : Below tree top n member
  | original {n source member : Nat} (prior : Below tree top n member)
      (origin : tree.origin? member = some (.cloned source)) : Below tree top n source

/-- A deadline was asked for on the way down to a member. -/
def Asked (tree : Tree) (member : Nat) (instant : Instant) : Prop :=
  ∃ stop n source how made, tree.Below stop n member ∧
    tree.origin? stop = some (.derived source how made) ∧ how.requests made = some instant

end Tree

def start (now : Instant) : Tree := { clock := { now } }

/-- Contexts come to be, are cancelled and see time go by from any instant on, in any order. -/
def Reachable (tree : Tree) : Prop := ∃ now, Leads Tree.step (start now) tree

/-! The deadline of a member is the earliest of a set of instants. -/

def Earliest (instants : Set Instant) : Option Instant → Prop
  | some least => IsLeast instants least
  | none => instants = ∅

private theorem earliest_requested (asked : Option Instant) : Earliest {t | asked = some t} asked := by
  cases asked with
  | none => exact Set.eq_empty_iff_forall_notMem.mpr fun t same => nomatch same
  | some t => exact ⟨rfl, fun other same => (Option.some.inj same).le⟩

private theorem Earliest.union {first second : Set Instant} {a b : Option Instant} (left : Earliest first a)
    (right : Earliest second b) : Earliest (first ∪ second) (Clock.earlier a b) := by
  cases a with
  | none =>
    obtain rfl : first = ∅ := left
    rwa [Set.empty_union]
  | some a =>
    cases b with
    | none =>
      obtain rfl : second = ∅ := right
      rwa [Set.union_empty]
    | some b => exact IsLeast.union left right

private theorem Earliest.reached_iff {instants : Set Instant} {found : Option Instant}
    (earliest : Earliest instants found) (now : Instant) :
    (∃ least, IsLeast instants least ∧ least ≤ now) ↔ ∃ t, found = some t ∧ t ≤ now := by
  cases found with
  | none =>
    obtain rfl : instants = ∅ := earliest
    simp [IsLeast]
  | some t =>
    have unique : ∀ least, IsLeast instants least ↔ some t = some least := fun least =>
      (IsLeast.isLeast_iff_eq earliest).trans Option.some_inj.symm
    simp only [unique]

private theorem Earliest.passed_iff {instants : Set Instant} {found : Option Instant}
    (earliest : Earliest instants found) (now : Instant) :
    (∃ least, IsLeast instants least ∧ least ≤ now) ↔ ∃ t ∈ instants, t ≤ now := by
  constructor
  · rintro ⟨least, ⟨member, _⟩, passed⟩
    exact ⟨least, member, passed⟩
  · rintro ⟨t, member, passed⟩
    cases found with
    | none =>
      obtain rfl : instants = ∅ := earliest
      cases member
    | some least => exact ⟨least, earliest, (earliest.2 member).trans passed⟩

namespace Tree

/-- What a member has from the one it came from. -/
inductive Placed (tree : Tree) (member : Nat) : Origin → Prop where
  | background (token : Token) (tokens : tree.tokens member = [token])
      (unbounded : tree.deadline member = none) : Placed tree member .background
  | derived {source : Nat} {how : Derivation} {made : Instant} (older : source < member) (token : Token)
      (tokens : tree.tokens member = token :: tree.tokens source)
      (bounded : tree.deadline member = Clock.earlier (tree.deadline source) (how.requests made)) :
      Placed tree member (.derived source how made)
  | cloned {source : Nat} (older : source < member) (tokens : tree.tokens member = tree.tokens source)
      (bounded : tree.deadline member = tree.deadline source) : Placed tree member (.cloned source)

structure Sound (tree : Tree) : Prop where
  planned : tree.clock.planned = []
  cancelled : tree.clock.cancelled = tree.cancelled.map tree.own
  known : ∀ member ∈ tree.cancelled, member < tree.members.length
  fresh : ∀ member, ∀ token ∈ tree.tokens member, token < tree.clock.nextToken
  placed : ∀ member origin, tree.origin? member = some origin → tree.Placed member origin
  distinct : ∀ member origin, tree.origin? member = some origin → origin.isNew →
    ∀ other otherOrigin, tree.origin? other = some otherOrigin → otherOrigin.isNew →
      tree.own member = tree.own other → member = other

section
variable {tree : Tree} {member top : Nat} {origin : Origin}

private theorem origin?_of_lt (inside : member < tree.members.length) :
    ∃ origin, tree.origin? member = some origin :=
  ⟨_, by rw [origin?, List.getElem?_eq_getElem inside]; rfl⟩

private theorem lt_of_origin? (known : tree.origin? member = some origin) : member < tree.members.length := by
  obtain ⟨found, held, _⟩ := Option.map_eq_some_iff.mp known
  exact (List.getElem?_eq_some_iff.mp held).1

private theorem Sound.own_mem (sound : Sound tree) (inside : member < tree.members.length) :
    tree.own member ∈ tree.tokens member := by
  induction member using Nat.strong_induction_on with
  | _ member ih =>
    obtain ⟨origin, known⟩ := origin?_of_lt inside
    have placed := sound.placed member origin known
    rw [own]
    cases placed with
    | background token tokens _ => simp [tokens]
    | derived _ token tokens _ => simp [tokens]
    | cloned older tokens _ =>
      rw [tokens]
      exact ih _ older (older.trans inside)

/-- Below a member its tokens are kept, and each derivation puts one before them. -/
theorem Sound.lead (sound : Sound tree) {n : Nat} (below : tree.Below top n member) :
    ∃ lead : List Token, lead.length = n ∧ tree.tokens member = lead ++ tree.tokens top := by
  induction below with
  | self => exact ⟨[], rfl, rfl⟩
  | derived _ known ih =>
    obtain ⟨lead, length, same⟩ := ih
    cases sound.placed _ _ known with
    | derived _ token tokens _ =>
      refine ⟨token :: lead, by rw [List.length_cons, length], ?_⟩
      rw [tokens, same, List.cons_append]
  | cloned _ known ih =>
    cases sound.placed _ _ known with
    | cloned _ tokens _ => rwa [tokens]
  | original _ known ih =>
    cases sound.placed _ _ known with
    | cloned _ tokens _ => rwa [← tokens]

theorem Below.trans {n m middle : Nat} (upper : tree.Below top n middle)
    (lower : tree.Below middle m member) : tree.Below top (n + m) member := by
  induction lower with
  | self => exact upper
  | derived _ known ih => exact ih.derived known
  | cloned _ known ih => exact ih.cloned known
  | original _ known ih => exact ih.original known

private theorem Sound.below_of_own (sound : Sound tree) (known : tree.origin? member = some origin)
    (new : origin.isNew) (inside : top < tree.members.length) (same : tree.own top = tree.own member) :
    tree.Below top 0 member := by
  -- A clone leads back to an older member with the same token, and only one member was made with it.
  induction top using Nat.strong_induction_on with
  | _ top ih =>
    obtain ⟨origin, topKnown⟩ := origin?_of_lt inside
    cases origin with
    | cloned source =>
      cases sound.placed _ _ topKnown with
      | cloned older tokens _ =>
        have shared : tree.own top = tree.own source := by rw [own, own, tokens]
        have lower := ih source older (older.trans inside) (shared.symm.trans same)
        have upper : tree.Below top 0 source := .original .self topKnown
        exact upper.trans lower
    | background | derived _ _ _ =>
      rw [sound.distinct _ _ topKnown rfl _ _ known new same]
      exact .self

private theorem Sound.below_of_mem (sound : Sound tree) (inside : member < tree.members.length)
    (topInside : top < tree.members.length) (has : tree.own top ∈ tree.tokens member) :
    ∃ n, tree.Below top n member := by
  induction member using Nat.strong_induction_on with
  | _ member ih =>
    obtain ⟨origin, known⟩ := origin?_of_lt inside
    have placed := sound.placed _ _ known
    cases placed with
    | background token tokens _ =>
      have same : tree.own top = tree.own member := by simpa [own, tokens] using has
      exact ⟨0, sound.below_of_own known rfl topInside same⟩
    | derived older token tokens _ =>
      rw [tokens] at has
      rcases List.mem_cons.mp has with first | above
      · have same : tree.own top = tree.own member := by
          rw [first]
          simp [own, tokens]
        exact ⟨0, sound.below_of_own known rfl topInside same⟩
      · obtain ⟨n, below⟩ := ih _ older (older.trans inside) above
        exact ⟨n + 1, below.derived known⟩
    | cloned older tokens _ =>
      rw [tokens] at has
      obtain ⟨n, below⟩ := ih _ older (older.trans inside) has
      exact ⟨n, below.cloned known⟩

/-- The tokens of a member are those of the members above it. -/
theorem Sound.below_iff (sound : Sound tree) (inside : member < tree.members.length)
    (topInside : top < tree.members.length) :
    (∃ n, tree.Below top n member) ↔ tree.own top ∈ tree.tokens member := by
  refine ⟨?_, sound.below_of_mem inside topInside⟩
  rintro ⟨n, below⟩
  obtain ⟨lead, _, same⟩ := sound.lead below
  rw [same]
  exact List.mem_append_right _ (sound.own_mem topInside)

private theorem Sound.asked_new (sound : Sound tree) (known : tree.origin? member = some origin) (new : origin.isNew)
    {instant : Instant} (asked : tree.Asked member instant) :
    (∃ source how made, origin = .derived source how made ∧ how.requests made = some instant) ∨
    (∃ stop source how made, tree.own stop ∈ (tree.tokens member).tail ∧ stop < tree.members.length ∧
      tree.origin? stop = some (.derived source how made) ∧ how.requests made = some instant) := by
  obtain ⟨stop, n, source, how, made, below, stopKnown, requested⟩ := asked
  have inside := lt_of_origin? known
  have stopInside := lt_of_origin? stopKnown
  have has := (sound.below_iff inside stopInside).mp ⟨n, below⟩
  by_cases same : stop = member
  · subst same
    rw [known] at stopKnown
    exact .inl ⟨source, how, made, Option.some.inj stopKnown, requested⟩
  · have other : tree.own stop ≠ tree.own member := fun shared =>
      same (sound.distinct _ _ stopKnown rfl _ _ known new shared)
    refine .inr ⟨stop, source, how, made, ?_, stopInside, stopKnown, requested⟩
    rw [own, own] at other
    rw [own] at has ⊢
    cases held : tree.tokens member with
    | nil => simp [held] at has
    | cons first rest =>
      rw [held] at has other
      exact (List.mem_cons.mp has).resolve_left other

private theorem Sound.not_asked (sound : Sound tree) (known : tree.origin? member = some .background)
    (instant : Instant) : ¬ tree.Asked member instant := by
  intro asked
  cases sound.placed _ _ known with
  | background token tokens _ =>
    rcases sound.asked_new known rfl asked with ⟨_, _, _, other, _⟩ | ⟨stop, _, _, _, above, _⟩
    · cases other
    · simp [tokens] at above

private theorem Sound.asked_derived (sound : Sound tree) {source : Nat} {how : Derivation} {made : Instant}
    (known : tree.origin? member = some (.derived source how made)) (instant : Instant) :
    tree.Asked member instant ↔ tree.Asked source instant ∨ how.requests made = some instant := by
  constructor
  · intro asked
    rcases sound.asked_new known rfl asked with ⟨_, _, _, mine, requested⟩ |
      ⟨stop, _, _, _, above, stopInside, stopKnown, requested⟩
    · cases mine
      exact .inr requested
    · cases sound.placed _ _ known with
      | derived older token tokens _ =>
        rw [tokens, List.tail_cons] at above
        obtain ⟨n, below⟩ := sound.below_of_mem (older.trans (lt_of_origin? known)) stopInside above
        exact .inl ⟨stop, n, _, _, _, below, stopKnown, requested⟩
  · rintro (⟨stop, n, _, _, _, below, stopKnown, requested⟩ | requested)
    · exact ⟨stop, n + 1, _, _, _, below.derived known, stopKnown, requested⟩
    · exact ⟨member, 0, source, how, made, .self, known, requested⟩

private theorem asked_cloned {source : Nat} (known : tree.origin? member = some (.cloned source))
    (instant : Instant) : tree.Asked member instant ↔ tree.Asked source instant := by
  constructor
  · rintro ⟨stop, n, _, _, _, below, found⟩
    exact ⟨stop, n, _, _, _, below.original known, found⟩
  · rintro ⟨stop, n, _, _, _, below, found⟩
    exact ⟨stop, n, _, _, _, below.cloned known, found⟩

/-- The deadline of a member is the earliest that was asked for on the way down to it. -/
theorem Sound.earliest (sound : Sound tree) (inside : member < tree.members.length) :
    Earliest {instant | tree.Asked member instant} (tree.deadline member) := by
  induction member using Nat.strong_induction_on with
  | _ member ih =>
    obtain ⟨origin, known⟩ := origin?_of_lt inside
    have placed := sound.placed _ _ known
    cases placed with
    | background _ _ unbounded =>
      rw [unbounded]
      exact Set.eq_empty_iff_forall_notMem.mpr (sound.not_asked known)
    | @derived source how made older _ _ bounded =>
      have split : {instant | tree.Asked member instant} =
          {instant | tree.Asked source instant} ∪ {instant | how.requests made = some instant} :=
        Set.ext (sound.asked_derived known)
      rw [split, bounded]
      exact (ih source older (older.trans inside)).union (earliest_requested _)
    | @cloned source older _ bounded =>
      have same : {instant | tree.Asked member instant} = {instant | tree.Asked source instant} :=
        Set.ext (asked_cloned known)
      rw [same, bounded]
      exact ih source older (older.trans inside)

end

/-! What one event keeps. -/

section
variable {tree : Tree} {clock : Clock} {context : Context} {origin : Origin}

private theorem members_add (tree : Tree) (clock : Clock) (context : Context) (origin : Origin) (member : Nat) :
    (tree.add clock context origin).members[member]? =
      if member = tree.members.length then some ⟨context, origin⟩ else tree.members[member]? := by
  rw [add]
  grind

private theorem tokens_add (member : Nat) : (tree.add clock context origin).tokens member =
    if member = tree.members.length then context.tokens else tree.tokens member := by
  rw [tokens, members_add]
  split <;> rfl

private theorem deadline_add (member : Nat) : (tree.add clock context origin).deadline member =
    if member = tree.members.length then context.deadline else tree.deadline member := by
  rw [deadline, members_add]
  split <;> rfl

private theorem origin?_add (member : Nat) : (tree.add clock context origin).origin? member =
    if member = tree.members.length then some origin else tree.origin? member := by
  rw [origin?, members_add]
  split <;> rfl

private theorem own_add (member : Nat) : (tree.add clock context origin).own member =
    if member = tree.members.length then context.tokens.headD 0 else tree.own member := by
  rw [own, tokens_add]
  split <;> rfl

/-- Where a member is placed depends on no later one. -/
theorem Placed.congr {after : Tree} {member : Nat} (placed : tree.Placed member origin)
    (same : ∀ other ≤ member, after.tokens other = tree.tokens other ∧
      after.deadline other = tree.deadline other) : after.Placed member origin := by
  obtain ⟨kept, bound⟩ := same member le_rfl
  cases placed with
  | background token tokens unbounded => exact .background token (kept.trans tokens) (bound.trans unbounded)
  | derived older token tokens bounded =>
    obtain ⟨sourceKept, sourceBound⟩ := same _ older.le
    exact .derived older token (by rw [kept, sourceKept, tokens]) (by rw [bound, sourceBound, bounded])
  | cloned older tokens bounded =>
    obtain ⟨sourceKept, sourceBound⟩ := same _ older.le
    exact .cloned older (by rw [kept, sourceKept, tokens]) (by rw [bound, sourceBound, bounded])

private theorem Placed.add {member : Nat} {oldOrigin : Origin} (placed : tree.Placed member oldOrigin)
    (inside : member < tree.members.length) : (tree.add clock context origin).Placed member oldOrigin := by
  refine placed.congr fun other most => ?_
  have apart : other ≠ tree.members.length := by omega
  rw [tokens_add, deadline_add, if_neg apart, if_neg apart]
  exact ⟨rfl, rfl⟩

private theorem Placed.of_members {after : Tree} {member : Nat} (placed : tree.Placed member origin)
    (same : after.members = tree.members) : after.Placed member origin := by
  refine placed.congr fun other _ => ?_
  rw [tokens, tokens, deadline, deadline, same]
  exact ⟨rfl, rfl⟩

private theorem advanceTo_eq (unplanned : clock.planned = []) (t : Instant) :
    clock.advanceTo t = { clock with now := max clock.now t } := by
  cases clock
  cases unplanned
  rfl

theorem Sound.add (sound : Sound tree) {next : Token} (later : tree.clock.nextToken ≤ next)
    (bounded : ∀ token ∈ context.tokens, token < next)
    (new : origin.isNew → context.tokens.headD 0 = tree.clock.nextToken)
    (placed : (tree.add { tree.clock with nextToken := next } context origin).Placed
      tree.members.length origin) :
    Sound (tree.add { tree.clock with nextToken := next } context origin) := by
  have unused {member : Nat} (inside : member < tree.members.length) :
      tree.own member < tree.clock.nextToken := sound.fresh member _ (sound.own_mem inside)
  refine ⟨sound.planned, ?_, ?_, ?_, ?_, ?_⟩
  · refine sound.cancelled.trans (List.map_congr_left fun member among => ?_)
    rw [own_add, if_neg (sound.known member among).ne]
  · intro member among
    have inside := sound.known member among
    simp only [Tree.add, List.length_append]
    omega
  · intro member token has
    rw [tokens_add] at has
    split at has
    · exact bounded token has
    · exact (sound.fresh member token has).trans_le later
  · intro member oldOrigin known
    rw [origin?_add] at known
    split at known
    case isTrue last =>
      cases known
      rwa [last]
    case isFalse old => exact (sound.placed member oldOrigin known).add (lt_of_origin? known)
  · intro member memberOrigin known memberNew other otherOrigin otherKnown otherNew same
    rw [origin?_add] at known otherKnown
    rw [own_add, own_add] at same
    split at known
    case isTrue last =>
      cases known
      split at otherKnown
      case isTrue otherLast => rw [last, otherLast]
      case isFalse old =>
        rw [if_pos last, if_neg old, new memberNew] at same
        exact absurd same (unused (lt_of_origin? otherKnown)).ne'
    case isFalse old =>
      split at otherKnown
      case isTrue otherLast =>
        cases otherKnown
        rw [if_neg old, if_pos otherLast, new otherNew] at same
        exact absurd same (unused (lt_of_origin? known)).ne
      case isFalse otherOld =>
        rw [if_neg old, if_neg otherOld] at same
        exact sound.distinct member memberOrigin known memberNew other otherOrigin otherKnown otherNew same

private theorem tokens_of_found {member : Nat} {found : Member} (held : tree.members[member]? = some found) :
    tree.tokens member = found.context.tokens := by
  rw [tokens, held]
  rfl

private theorem deadline_of_found {member : Nat} {found : Member} (held : tree.members[member]? = some found) :
    tree.deadline member = found.context.deadline := by
  rw [deadline, held]
  rfl

theorem Sound.step {after : Tree} (sound : Sound tree) {event : Event}
    (stepped : tree.step event = some after) : Sound after := by
  have older {member : Nat} {found : Member} (held : tree.members[member]? = some found) :
      member < tree.members.length := (List.getElem?_eq_some_iff.mp held).1
  have bounded {member : Nat} {found : Member} (held : tree.members[member]? = some found) :
      ∀ token ∈ found.context.tokens, token < tree.clock.nextToken := by
    rw [← tokens_of_found held]
    exact sound.fresh member
  cases event with
  | background =>
    obtain rfl := Option.some.inj stepped
    refine sound.add (Nat.le_succ _) (by simp [Context.background]) (fun _ => rfl) ?_
    refine .background tree.clock.nextToken ?_ ?_
    · rw [tokens_add, if_pos rfl]
      rfl
    · rw [deadline_add, if_pos rfl]
      rfl
  | derive source how =>
    obtain ⟨found, held, stepped⟩ := Option.bind_eq_some_iff.mp stepped
    obtain rfl := Option.some.inj stepped
    have inside := older held
    refine sound.add (Nat.le_succ _) ?_ ?_ ?_
    · intro token has
      rw [Derivation.apply_tokens] at has
      rcases List.mem_cons.mp has with rfl | above
      · exact Nat.lt_succ_self _
      · exact (bounded held token above).trans (Nat.lt_succ_self _)
    · intro _
      rw [Derivation.apply_tokens]
      rfl
    · refine .derived inside tree.clock.nextToken ?_ ?_
      · rw [tokens_add, tokens_add, if_pos rfl, if_neg inside.ne, Derivation.apply_tokens,
          tokens_of_found held]
      · rw [deadline_add, deadline_add, if_pos rfl, if_neg inside.ne, Derivation.apply_deadline,
          deadline_of_found held]
  | clone source =>
    obtain ⟨found, held, stepped⟩ := Option.bind_eq_some_iff.mp stepped
    obtain rfl := Option.some.inj stepped
    have inside := older held
    refine sound.add le_rfl (bounded held) nofun ?_
    refine .cloned inside ?_ ?_
    · rw [tokens_add, tokens_add, if_pos rfl, if_neg inside.ne, tokens_of_found held]
    · rw [deadline_add, deadline_add, if_pos rfl, if_neg inside.ne, deadline_of_found held]
  | cancel member =>
    obtain ⟨found, held, stepped⟩ := Option.bind_eq_some_iff.mp stepped
    obtain rfl := Option.some.inj stepped
    have own : found.context.tokens.headD 0 = tree.own member := by rw [own, tokens_of_found held]
    refine ⟨sound.planned, ?_, ?_, sound.fresh, ?_, sound.distinct⟩
    · exact congrArg₂ List.cons own sound.cancelled
    · intro other among
      rcases List.mem_cons.mp among with rfl | among
      · exact older held
      · exact sound.known other among
    · exact fun other origin known => (sound.placed other origin known).of_members rfl
  | elapse time =>
    obtain rfl := Option.some.inj stepped
    rw [advanceTo_eq sound.planned]
    exact ⟨sound.planned, sound.cancelled, sound.known, sound.fresh,
      fun other origin known => (sound.placed other origin known).of_members rfl, sound.distinct⟩

end

end Tree

theorem reachable_sound {tree : Tree} (reached : Reachable tree) : tree.Sound := by
  obtain ⟨now, led⟩ := reached
  refine led.invariant Tree.Sound ?_ fun _ _ _ sound stepped => sound.step stepped
  exact ⟨rfl, rfl, nofun, nofun, nofun, nofun⟩

namespace Tree

/-! Origins stay, cancelled members stay cancelled, and time does not go back. -/

structure Older (tree after : Tree) : Prop where
  origins : ∀ member origin, tree.origin? member = some origin → after.origin? member = some origin
  cancelled : ∀ member ∈ tree.cancelled, member ∈ after.cancelled
  now : tree.clock.now ≤ after.clock.now

section
variable {tree after later : Tree} {member top : Nat}

private theorem Older.refl (tree : Tree) : Older tree tree := ⟨fun _ _ => id, fun _ => id, le_rfl⟩

private theorem Older.trans (first : Older tree after) (second : Older after later) : Older tree later :=
  ⟨fun _ _ known => second.origins _ _ (first.origins _ _ known),
    fun _ among => second.cancelled _ (first.cancelled _ among), first.now.trans second.now⟩

private theorem older_add {clock : Clock} {context : Context} {origin : Origin} (now : clock.now = tree.clock.now) :
    Older tree (tree.add clock context origin) := by
  refine ⟨?_, fun _ => id, now.ge⟩
  intro member origin known
  rwa [origin?_add, if_neg (lt_of_origin? known).ne]

private theorem older_step {event : Event} (stepped : tree.step event = some after) : Older tree after := by
  cases event with
  | background =>
    obtain rfl := Option.some.inj stepped
    exact older_add rfl
  | derive source how =>
    obtain ⟨_, _, stepped⟩ := Option.bind_eq_some_iff.mp stepped
    obtain rfl := Option.some.inj stepped
    exact older_add rfl
  | clone source =>
    obtain ⟨_, _, stepped⟩ := Option.bind_eq_some_iff.mp stepped
    obtain rfl := Option.some.inj stepped
    exact older_add rfl
  | cancel member =>
    obtain ⟨_, _, stepped⟩ := Option.bind_eq_some_iff.mp stepped
    obtain rfl := Option.some.inj stepped
    exact ⟨fun _ _ => id, fun _ => List.mem_cons_of_mem _, le_rfl⟩
  | elapse time =>
    obtain rfl := Option.some.inj stepped
    exact ⟨fun _ _ => id, fun _ => id, le_max_left _ _⟩

private theorem older_leads (led : Leads Tree.step tree later) : Older tree later :=
  led.invariant (Older tree) (.refl tree) fun _ _ _ older stepped => older.trans (older_step stepped)

private theorem Below.mono {n : Nat} (below : tree.Below top n member) (older : Older tree after) :
    after.Below top n member := by
  induction below with
  | self => exact .self
  | derived _ known ih => exact ih.derived (older.origins _ _ known)
  | cloned _ known ih => exact ih.cloned (older.origins _ _ known)
  | original _ known ih => exact ih.original (older.origins _ _ known)

end

/-- A member, a clone of it or one that it was derived from has been cancelled. -/
def Cancelled (tree : Tree) (member : Nat) : Prop :=
  ∃ top ∈ tree.cancelled, ∃ n, tree.Below top n member

/-- The clock has reached the earliest deadline that was asked for on the way down to a member. -/
def Expired (tree : Tree) (member : Nat) : Prop :=
  ∃ earliest, IsLeast {instant | tree.Asked member instant} earliest ∧ earliest ≤ tree.clock.now

section
variable {tree after later : Tree} {member top n : Nat}

private theorem Sound.cancelled_iff (sound : Sound tree) {found : Member}
    (held : tree.members[member]? = some found) :
    found.context.isCancelled tree.clock.cancelled ↔ tree.Cancelled member := by
  have inside := (List.getElem?_eq_some_iff.mp held).1
  simp only [Context.isCancelled, List.any_eq_true, List.contains_iff_mem, sound.cancelled, List.mem_map,
    ← tokens_of_found held]
  constructor
  · rintro ⟨token, has, top, among, rfl⟩
    exact ⟨top, among, (sound.below_iff inside (sound.known top among)).mpr has⟩
  · rintro ⟨top, among, below⟩
    exact ⟨tree.own top, (sound.below_iff inside (sound.known top among)).mp below, top, among, rfl⟩

private theorem Sound.expired_iff (sound : Sound tree) (inside : member < tree.members.length) :
    tree.Expired member ↔ ∃ t, tree.deadline member = some t ∧ t ≤ tree.clock.now :=
  (sound.earliest inside).reached_iff _

open Classical in
private theorem Sound.ended_eq (sound : Sound tree) (inside : member < tree.members.length) :
    tree.ended? member = if tree.Cancelled member then some .cancelled
      else if tree.Expired member then some .deadlineExceeded else none := by
  obtain ⟨found, held⟩ : ∃ found, tree.members[member]? = some found :=
    ⟨_, List.getElem?_eq_getElem inside⟩
  have expired := sound.expired_iff inside
  rw [deadline_of_found held] at expired
  have ended : tree.ended? member = found.context.ended? tree.clock.cancelled tree.clock.now := by
    rw [ended?, held]
    rfl
  rw [ended, Context.ended?]
  refine if_congr (sound.cancelled_iff held) rfl ?_
  cases bounded : found.context.deadline with
  | none =>
    rw [if_neg]
    intro reached
    obtain ⟨t, asked, _⟩ := expired.mp reached
    rw [bounded] at asked
    cases asked
  | some t =>
    refine if_congr ?_ rfl rfl
    rw [expired, bounded]
    simp

/-- Someone who is done either has been cancelled or has reached an instant that was asked for. -/
theorem Sound.done_iff (sound : Sound tree) (inside : member < tree.members.length) :
    (tree.ended? member).isSome ↔
      tree.Cancelled member ∨ ∃ instant, tree.Asked member instant ∧ instant ≤ tree.clock.now := by
  have reached : tree.Expired member ↔
      ∃ instant, tree.Asked member instant ∧ instant ≤ tree.clock.now :=
    (sound.earliest inside).passed_iff _
  rw [sound.ended_eq inside, ← reached]
  split_ifs with cancelled expired
  · exact iff_of_true rfl (.inl cancelled)
  · exact iff_of_true rfl (.inr expired)
  · exact iff_of_false Bool.false_ne_true (not_or.mpr ⟨cancelled, expired⟩)

private theorem lt_of_done (done : (tree.ended? member).isSome) : member < tree.members.length := by
  obtain ⟨_, ended⟩ := Option.isSome_iff_exists.mp done
  obtain ⟨found, held, _⟩ := Option.bind_eq_some_iff.mp ended
  exact (List.getElem?_eq_some_iff.mp held).1

theorem Sound.depth (sound : Sound tree) (below : tree.Below top n member) :
    (tree.tokens member).length = n + (tree.tokens top).length := by
  obtain ⟨lead, length, same⟩ := sound.lead below
  rw [same, List.length_append, length]

private theorem Sound.lt_of_below (sound : Sound tree) (below : tree.Below top n member)
    (inside : top < tree.members.length) : member < tree.members.length := by
  cases below with
  | self => exact inside
  | derived _ known | cloned _ known => exact lt_of_origin? known
  | original _ known =>
    cases sound.placed _ _ known with
    | cloned older _ _ => exact older.trans (lt_of_origin? known)

private theorem Sound.done_below (sound : Sound tree) (below : tree.Below top n member)
    (done : (tree.ended? top).isSome) : (tree.ended? member).isSome := by
  have inside := lt_of_done done
  rw [sound.done_iff (sound.lt_of_below below inside)]
  rcases (sound.done_iff inside).mp done with ⟨above, among, _, prior⟩ | ⟨instant, asked, passed⟩
  · exact .inl ⟨above, among, _, prior.trans below⟩
  · obtain ⟨stop, _, _, _, _, prior, requested⟩ := asked
    exact .inr ⟨instant, ⟨stop, _, _, _, _, prior.trans below, requested⟩, passed⟩

private theorem Sound.done_later (sound : Sound tree) (led : Leads Tree.step tree later)
    (done : (tree.ended? member).isSome) : (later.ended? member).isSome := by
  have older := older_leads led
  have laterSound : Sound later := led.invariant Sound sound fun _ _ _ sound stepped => sound.step stepped
  have inside := lt_of_done done
  obtain ⟨_, known⟩ := origin?_of_lt inside
  rw [laterSound.done_iff (lt_of_origin? (older.origins _ _ known))]
  rcases (sound.done_iff inside).mp done with ⟨above, among, _, below⟩ | ⟨instant, asked, passed⟩
  · exact .inl ⟨above, older.cancelled above among, _, below.mono older⟩
  · obtain ⟨stop, _, _, _, _, below, requested, same⟩ := asked
    exact .inr ⟨instant, ⟨stop, _, _, _, _, below.mono older, older.origins _ _ requested, same⟩,
      passed.trans older.now⟩

private theorem isCancelled_cons {context : Context} {token : Token} (foreign : token ∉ context.tokens)
    (cancelled : List Token) :
    context.isCancelled (token :: cancelled) = context.isCancelled cancelled := by
  rw [Bool.eq_iff_iff]
  simp only [Context.isCancelled, List.any_eq_true, List.contains_iff_mem, List.mem_cons]
  constructor
  · rintro ⟨own, has, rfl | among⟩
    · exact absurd has foreign
    · exact ⟨own, has, among⟩
  · rintro ⟨own, has, among⟩
    exact ⟨own, has, .inr among⟩

/-- Cancelling leaves whoever is not below as they are. -/
theorem Sound.cancel_apart (sound : Sound tree) (stepped : tree.step (.cancel top) = some after)
    (apart : ∀ n, ¬ tree.Below top n member) : after.ended? member = tree.ended? member := by
  obtain ⟨cancelled, topHeld, stepped⟩ := Option.bind_eq_some_iff.mp stepped
  obtain rfl := Option.some.inj stepped
  have topInside := (List.getElem?_eq_some_iff.mp topHeld).1
  refine Option.bind_congr fun found held => ?_
  have held : tree.members[member]? = some found := held
  have inside := (List.getElem?_eq_some_iff.mp held).1
  have foreign := mt (sound.below_iff inside topInside).mpr fun ⟨n, below⟩ => apart n below
  rw [own, tokens_of_found topHeld, tokens_of_found held] at foreign
  change found.context.ended? (_ :: tree.clock.cancelled) tree.clock.now =
    found.context.ended? tree.clock.cancelled tree.clock.now
  rw [Context.ended?, Context.ended?, isCancelled_cons foreign]

private theorem Sound.not_below (sound : Sound tree) {parent m : Nat} (mine : tree.Below parent n top)
    (theirs : tree.Below parent m member) (level : m ≤ n) (other : ¬ tree.Below top 0 member) (d : Nat) :
    ¬ tree.Below top d member := by
  intro below
  have := sound.depth mine
  have := sound.depth theirs
  have := sound.depth below
  obtain rfl : d = 0 := by omega
  exact other below

end

end Tree

open Classical in
/-- Why a context is done, whatever has been derived, cloned and cancelled in whatever order, and at
whatever time. So to cancel a context leaves those that it comes from and their other descendants as they
are, a context is done when one above it is, and whoever is done stays so. -/
theorem ended_by_tree {tree : Tree} (reached : Reachable tree) :
    (∀ member < tree.members.length, tree.ended? member =
      if tree.Cancelled member then some .cancelled
      else if tree.Expired member then some .deadlineExceeded else none) ∧
    (∀ top after, tree.step (.cancel top) = some after →
      (∀ ancestor n, tree.Below ancestor (n + 1) top → after.ended? ancestor = tree.ended? ancestor) ∧
      (∀ parent sibling, tree.Below parent 1 top → tree.Below parent 1 sibling →
        ¬ tree.Below top 0 sibling → after.ended? sibling = tree.ended? sibling) ∧
      (∀ member, (∀ n, ¬ tree.Below top n member) → after.ended? member = tree.ended? member)) ∧
    (∀ top n member, tree.Below top n member →
      (tree.ended? top).isSome → (tree.ended? member).isSome) ∧
    (∀ later, Leads Tree.step tree later → ∀ member,
      (tree.ended? member).isSome → (later.ended? member).isSome) := by
  have sound := reachable_sound reached
  refine ⟨fun _ => sound.ended_eq, ?_, fun _ _ _ => sound.done_below, fun _ led _ => sound.done_later led⟩
  intro top after stepped
  refine ⟨?_, ?_, fun _ => sound.cancel_apart stepped⟩
  · intro ancestor n above
    refine sound.cancel_apart stepped fun d below => ?_
    have := sound.depth above
    have := sound.depth below
    omega
  · intro parent sibling mine theirs other
    exact sound.cancel_apart stepped (sound.not_below mine theirs le_rfl other)

/-- The first context has two children, one of them with a timeout. A clone of that one has children of its
own: one with an earlier deadline, and one with a timeout that no clock reaches. -/
def family : Tree where
  clock := { now := 4, nextToken := 5 }
  members :=
    [⟨{ tokens := [0] }, .background⟩,
      ⟨{ tokens := [1, 0], deadline := some 9 }, .derived 0 (.timeout ⟨9⟩) 0⟩,
      ⟨{ tokens := [1, 0], deadline := some 9 }, .cloned 1⟩,
      ⟨{ tokens := [2, 0] }, .derived 0 .child 0⟩,
      ⟨{ tokens := [3, 1, 0], deadline := some 4 }, .derived 2 (.deadline 4) 0⟩,
      ⟨{ tokens := [4, 1, 0], deadline := some 9 }, .derived 2 (.timeout ⟨Instant.limit⟩) 0⟩]

theorem ended_by_tree_family :
    Reachable family ∧ family.Expired 4 ∧ ¬ family.Cancelled 4 ∧ family.ended? 5 = none ∧
      ∃ after, family.step (.cancel 2) = some after ∧ after.ended? 0 = family.ended? 0 ∧
        after.ended? 3 = family.ended? 3 ∧ after.ended? 5 = some .cancelled ∧
        (after.ended? 4).isSome := by
  have reached : Reachable family :=
    ⟨0, [.background, .derive 0 (.timeout ⟨9⟩), .clone 1, .derive 0 .child, .derive 2 (.deadline 4),
      .derive 2 (.timeout ⟨Instant.limit⟩), .elapse ⟨4⟩], by decide +kernel⟩
  obtain ⟨ended, cancels, _, later⟩ := ended_by_tree reached
  have below : family.Below 0 1 2 := .cloned (.derived .self rfl) rfl
  have sibling : family.Below 0 1 3 := .derived .self rfl
  obtain ⟨expired, live⟩ : family.Expired 4 ∧ ¬ family.Cancelled 4 := by
    have why : some ContextError.deadlineExceeded = _ := ended 4 (by decide)
    split_ifs at why with cancelled expired
    · cases why
    · exact ⟨expired, cancelled⟩
  refine ⟨reached, expired, live, rfl, _, rfl, ?_, ?_, rfl, ?_⟩
  · exact (cancels 2 _ rfl).1 0 0 below
  · refine (cancels 2 _ rfl).2.1 0 3 below sibling fun clone => ?_
    obtain ⟨lead, length, same⟩ := (reachable_sound reached).lead clone
    obtain rfl := List.length_eq_zero_iff.mp length
    exact absurd same (by decide)
  · exact later _ ⟨[.cancel 2], rfl⟩ 4 rfl

end Courier.Proofs.ContextTree
