import Courier.Proofs.TraceSafety

/-! A trace keeps its identity over any number of hops. Spans follow each other as children or over a header, and as
long as random identifiers do not end in zeros, every header is understood by the receiver. -/

namespace Courier.Proofs.TraceChains
open Trace TraceHeaders TraceSafety

/-! ### Chains -/

/-- An identifier as it is drawn at random; it does not end in 16 zeros. -/
structure Random (id : String) : Prop where
  hex : LowerHex 32 id.toList
  telling : ∃ c ∈ id.toList.rtake 16, c ≠ '0'

structure RandomIds (fresh : Fresh) : Prop where
  trace : Random fresh.traceId
  span : Random fresh.spanId

inductive Kind where
  | child
  | hop
deriving Repr, DecidableEq

/-- What is new about a span that follows another one. -/
structure Link where
  kind : Kind
  fresh : Fresh
  operation : String

namespace Link

def follow (link : Link) (s : Span) : Span :=
  match link.kind with
  | .child => Span.child link.fresh s link.operation
  | .hop => Span.ofHeader link.fresh (some s.parentHeader) link.operation

/-- What a span that follows another one knows of it: its identifier, of which a header carries the last 16 digits. -/
def caller (link : Link) (s : Span) : String :=
  match link.kind with
  | .child => s.spanId
  | .hop => String.ofList (s.spanId.toList.rtake 16)

end Link

def chain (first : Span) : List Link → List Span
  | [] => [first]
  | link :: links => first :: chain (link.follow first) links

inductive Start : Span → Prop where
  | root {fresh} (drawn : RandomIds fresh) (operation : String) : Start (Span.root fresh operation)
  | ofHeader {fresh} (drawn : RandomIds fresh) (header : Option String) (operation : String) :
      Start (Span.ofHeader fresh header operation)
  | withTraceId {fresh traceId} (drawn : RandomIds fresh) (identifies : Identifies 32 traceId) (operation : String) :
      Start (Span.withTraceId fresh traceId operation)

/-! ### One link -/

structure Tells (s : Span) : Prop where
  trace : Identifies 32 s.traceId
  span : Random s.spanId

section
variable {id : String} {s : Span}

private theorem Random.identifies (random : Random id) : Identifies 32 id := by
  obtain ⟨c, member, other⟩ := random.telling
  exact ⟨random.hex, c, List.mem_of_mem_drop member, other⟩

private theorem isValidId_hex (hex : LowerHex 32 id.toList) : isValidId id = true := by
  have printable := printable_hex hex
  simp only [isValidId, Bool.and_eq_true, Bool.not_eq_true', decide_eq_true_eq, List.all_eq_true,
    printable.utf8ByteSize_eq, hex.length_eq]
  refine ⟨⟨?_, by decide⟩, printable⟩
  rw [Bool.eq_false_iff]
  intro empty
  have length := hex.length_eq
  rw [String.isEmpty_iff.mp empty] at length
  cases length

private theorem Start.tells (start : Start s) : Tells s := by
  cases start with
  | root drawn => exact ⟨drawn.trace.identifies, drawn.span⟩
  | ofHeader drawn header operation =>
    rcases ofHeader_cases _ header operation with ⟨traceId, parentId, trace, shape⟩ | shape
    · rw [shape]
      exact ⟨trace, drawn.span⟩
    · rw [shape]
      exact ⟨drawn.trace.identifies, drawn.span⟩
  | withTraceId drawn identifies =>
    refine ⟨?_, drawn.span⟩
    simp only [Span.withTraceId, Span.started, isValidId_hex identifies.hex, if_true]
    exact identifies

private theorem lastDigits?_hex {length : Nat} (hex : LowerHex 32 id.toList) (enough : length ≤ 32) :
    lastDigits? length id = some (String.ofList (id.toList.rtake length)) := by
  rw [lastDigits?_printable (printable_hex hex), hex.length_eq, Nat.sub_eq_zero_of_le enough, List.replicate_zero,
    List.nil_append]

private theorem Random.identifies_tail (random : Random id) : Identifies 16 (String.ofList (id.toList.rtake 16)) := by
  have length : (id.toList.rtake 16).length = 16 := by rw [List.rtake, List.length_drop, random.hex.length_eq]
  refine ⟨⟨?_, ?_⟩, ?_⟩
  · rwa [String.toList_ofList]
  · rw [String.toList_ofList]
    exact fun c member => random.hex.digits c (List.mem_of_mem_drop member)
  · rw [String.toList_ofList]
    exact random.telling

theorem Tells.parse (tells : Tells s) :
    parseParent? s.parentHeader = some (s.traceId, String.ofList (s.spanId.toList.rtake 16)) := by
  have trace := lastDigits?_hex tells.trace.hex (Nat.le_refl 32)
  have whole : String.ofList (s.traceId.toList.rtake 32) = s.traceId := by
    rw [List.rtake, tells.trace.hex.length_eq, Nat.sub_self, List.drop_zero, String.ofList_toList]
  have parent := lastDigits?_hex tells.span.hex (show 16 ≤ 32 by decide)
  have written : s.parentHeader = formatParent s.traceId (String.ofList (s.spanId.toList.rtake 16)) := by
    rw [Span.parentHeader, Span.parentHeader?, trace, parent, whole]
    rfl
  rw [written]
  exact parseParent?_formatParent tells.trace tells.span.identifies_tail

private theorem Tells.follow (tells : Tells s) {link : Link} (drawn : RandomIds link.fresh) :
    Tells (link.follow s) ∧ (link.follow s).traceId = s.traceId ∧
      (link.follow s).parentId = some (link.caller s) := by
  obtain ⟨kind, fresh, operation⟩ := link
  cases kind with
  | child => exact ⟨⟨tells.trace, drawn.span⟩, rfl, rfl⟩
  | hop =>
    have continued : Span.ofHeader fresh (some s.parentHeader) operation =
        Span.started fresh s.traceId (some (String.ofList (s.spanId.toList.rtake 16))) operation := by
      rw [Span.ofHeader, Option.bind_some, tells.parse]
    simp only [Link.follow, Link.caller, continued]
    exact ⟨⟨tells.trace, drawn.span⟩, rfl, rfl⟩

/-! ### Whole chains -/

private theorem traceId_chain {first : Span} (tells : Tells first) {links : List Link}
    (drawn : ∀ link ∈ links, RandomIds link.fresh) : ∀ s ∈ chain first links, s.traceId = first.traceId := by
  induction links generalizing first with
  | nil =>
    intro s member
    rw [List.mem_singleton.mp member]
  | cons link links ih =>
    obtain ⟨fresh, later⟩ := List.forall_mem_cons.mp drawn
    obtain ⟨next, same, -⟩ := tells.follow fresh
    intro s member
    rcases List.mem_cons.mp member with rfl | member
    · rfl
    · exact (ih next later s member).trans same

private theorem linked_chain {first : Span} (tells : Tells first) {links : List Link}
    (drawn : ∀ link ∈ links, RandomIds link.fresh) {i : Nat} {link : Link} (found : links[i]? = some link) :
    ∃ before after, (chain first links)[i]? = some before ∧ (chain first links)[i + 1]? = some after ∧
      after = link.follow before ∧ after.parentId = some (link.caller before) := by
  induction links generalizing first i with
  | nil => cases found
  | cons own links ih =>
    obtain ⟨fresh, later⟩ := List.forall_mem_cons.mp drawn
    obtain ⟨next, -, parent⟩ := tells.follow fresh
    cases i with
    | zero =>
      cases found
      refine ⟨first, link.follow first, rfl, ?_, rfl, parent⟩
      cases links <;> rfl
    | succ i => exact ih next later found

/-- Every span of a chain is in the trace of the first one, and names the span before it as its parent: a child by
the whole identifier, the receiver of a header by the last 16 digits, which are all that the header carries. -/
theorem keeps_trace {first : Span} (start : Start first) {links : List Link}
    (drawn : ∀ link ∈ links, RandomIds link.fresh) :
    (∀ s ∈ chain first links, s.traceId = first.traceId) ∧
    ∀ i link, links[i]? = some link → ∃ before after,
      (chain first links)[i]? = some before ∧ (chain first links)[i + 1]? = some after ∧
      after = link.follow before ∧ after.parentId = some (link.caller before) :=
  ⟨traceId_chain start.tells drawn, fun _ _ found => linked_chain start.tells drawn found⟩

end

/-! ### A chain of three -/

private theorem sample_random : RandomIds sample := by
  refine ⟨⟨by decide, ?_⟩, ⟨by decide, ?_⟩⟩
  · exact ⟨'4', by decide, by decide⟩
  · exact ⟨'4', by decide, by decide⟩

/-- From a trace that was named, over a header to another tool, and on to a child there. -/
theorem keeps_trace_across :
    ∃ sender receiver child, chain (Span.withTraceId sample "4bf92f3577b34da6a3ce929d0e0e4736" "send")
      [⟨.hop, sample, "receive"⟩, ⟨.child, sample, "store"⟩] = [sender, receiver, child] ∧
    receiver.parentId = some "4bf92f3577b34da6" ∧ child.parentId = some receiver.spanId ∧
    child.traceId = "4bf92f3577b34da6a3ce929d0e0e4736" := by
  have start : Start (Span.withTraceId sample "4bf92f3577b34da6a3ce929d0e0e4736" "send") :=
    .withTraceId sample_random (by decide) "send"
  have drawn : ∀ link ∈ [(⟨.hop, sample, "receive"⟩ : Link), ⟨.child, sample, "store"⟩], RandomIds link.fresh :=
    List.forall_mem_cons.mpr ⟨sample_random, List.forall_mem_cons.mpr ⟨sample_random, nofun⟩⟩
  obtain ⟨same, linked⟩ := keeps_trace start drawn
  obtain ⟨sender, receiver, first, second, -, hopped⟩ := linked 0 _ rfl
  obtain ⟨_, child, again, third, -, nested⟩ := linked 1 _ rfl
  cases again.symm.trans second
  cases first
  cases second
  cases third
  exact ⟨_, _, _, rfl, hopped, nested, same _ (by simp [chain])⟩

end Courier.Proofs.TraceChains
