import Courier.Proofs.PayloadRoundTrip
import Courier.Proofs.Runs
import Courier.Reporter
import Courier.Trace

/-! Reports of spans. The transport answers as it likes, and nobody is told of a failure, so the count of the
failures has to make up for what is not delivered. -/

namespace Courier.Proofs.SpanReports
open Payload (TraceSpan)
open Json (embeddedName)
open PayloadRoundTrip JsonNesting

/-- What is reported: a span, or the record of one. -/
inductive Subject where
  | span (s : Span)
  | record (r : TraceSpan)

def Subject.payload : Subject → TraceSpan
  | span s => s.payload
  | record r => r

/-- A report, with the message that the transport was asked to send and what has become of it. -/
structure Report where
  ctx : Context
  subject : Subject
  asked : Option Message
  outcome : Option Reply := none

namespace Report

def failed (r : Report) : Bool := r.outcome.any fun reply => !reply.isOk

def delivered? (r : Report) : Option Message := r.outcome.bind fun reply => if reply.isOk then r.asked else none

/-- Whether nothing is awaited any more. -/
def settled (r : Report) : Bool := r.asked.isNone || r.outcome.isSome

def sent? (r : Report) : Option (Context × Message) := r.asked.map (r.ctx, ·)

end Report

structure Course where
  reporter : Reporter
  seen : List Observation := []
  reports : List Report := []
  sends : List (Context × Message) := []
  delivered : List Message := []

inductive Event where
  | report (ctx : Context) (subject : Subject) (id : String) (now : Int)
  | answer (report : Nat) (reply : Reply)

namespace Course

/-- Reports through a transport of this name. Unless they may overlap, one waits for the end of the one before. -/
def step (overlapping : Bool) (name : String) (c : Course) : Event → Option Course
  | .report ctx subject id now =>
    if overlapping || c.reports.all Report.settled then
      let report : Report := { ctx, subject, asked := c.reporter.start id now subject.payload }
      some { c with reports := c.reports ++ [report], sends := c.sends ++ report.sent?.toList }
    else none
  | .answer n reply =>
    match c.reports[n]? with
    | some ⟨ctx, subject, some m, none⟩ =>
      let (reporter, seen) := c.reporter.afterSend name reply
      let report : Report := ⟨ctx, subject, some m, some reply⟩
      some { c with
        reporter
        seen := c.seen ++ seen
        reports := c.reports.set n report
        delivered := c.delivered ++ report.delivered?.toList }
    | _ => none

end Course

/-! ### One step -/

section
variable {overlapping : Bool} {name : String} {c after : Course}

private theorem report_cases {ctx : Context} {subject : Subject} {id : String} {now : Int}
    (moved : c.step overlapping name (.report ctx subject id now) = some after) :
    (overlapping = true ∨ ∀ r ∈ c.reports, r.settled = true) ∧
      ∃ report : Report, report = ⟨ctx, subject, c.reporter.start id now subject.payload, none⟩ ∧
        after = { c with reports := c.reports ++ [report], sends := c.sends ++ report.sent?.toList } := by
  simp only [Course.step] at moved
  split at moved
  next may =>
    rw [Bool.or_eq_true, List.all_eq_true] at may
    cases moved
    exact ⟨may, _, rfl, rfl⟩
  next => cases moved

/-- An answer is heard by a report that awaits it. -/
theorem answer_cases {n : Nat} {reply : Reply} (moved : c.step overlapping name (.answer n reply) = some after) :
    ∃ ctx subject m, c.reports[n]? = some ⟨ctx, subject, some m, none⟩ ∧
      ∃ report : Report, report = ⟨ctx, subject, some m, some reply⟩ ∧
        after =
          { c with
            reporter := (c.reporter.afterSend name reply).1
            seen := c.seen ++ (c.reporter.afterSend name reply).2
            reports := c.reports.set n report
            delivered := c.delivered ++ report.delivered?.toList } := by
  simp only [Course.step] at moved
  split at moved
  next ctx subject m found =>
    cases moved
    exact ⟨ctx, subject, m, found, _, rfl, rfl⟩
  next => cases moved

end

/-! ### The balance -/

/-- The books of a reporter that has a transport and metrics. -/
structure Balanced (first : Reporter) (name : String) (c : Course) : Prop where
  reporter : c.reporter = { first with dropped := c.reports.countP Report.failed }
  counts : Observation.counts c.seen = List.replicate (c.reports.countP Report.failed) (.dropped name)
  asks : ∀ r ∈ c.reports, ∃ id now, r.asked = some (first.message id now r.subject.payload)
  sends : c.sends.map some = c.reports.map Report.sent?
  delivered : c.delivered.Perm (c.reports.filterMap Report.delivered?)

section
variable {overlapping : Bool} {name : String} {first : Reporter} {c after : Course} {event : Event}

private theorem counts_append (seen more : List Observation) :
    Observation.counts (seen ++ more) = Observation.counts seen ++ Observation.counts more :=
  List.filterMap_append

private theorem afterSend_books {r : Reporter} (metered : r.metered = true) (name : String) (reply : Reply) :
    (r.afterSend name reply).1 = { r with dropped := r.dropped + (!reply.isOk).toNat } ∧
      Observation.counts (r.afterSend name reply).2 = List.replicate (!reply.isOk).toNat (.dropped name) := by
  cases reply with
  | ok got => exact ⟨rfl, rfl⟩
  | error why => simp [Reporter.afterSend, metered, Observation.counts, Except.isOk, Except.toBool]

private theorem report_balanced (enabled : first.enabled = true) (balanced : Balanced first name c) {ctx : Context}
    {subject : Subject} {id : String} {now : Int}
    (moved : c.step overlapping name (.report ctx subject id now) = some after) : Balanced first name after := by
  obtain ⟨_, report, is, rfl⟩ := report_cases moved
  have asked : report.asked = some (first.message id now report.subject.payload) := by
    rw [is, balanced.reporter]
    exact if_pos enabled
  have silent : report.failed = false := by rw [is]; rfl
  have nothing : report.delivered? = none := by rw [is]; rfl
  have same : (c.reports ++ [report]).countP Report.failed = c.reports.countP Report.failed := by
    rw [List.countP_append, List.countP_singleton, silent]
    rfl
  refine ⟨?_, ?_, ?_, ?_, ?_⟩
  · rw [same]
    exact balanced.reporter
  · rw [same]
    exact balanced.counts
  · intro r member
    rcases List.mem_append.mp member with before | new
    · exact balanced.asks r before
    · obtain rfl := List.mem_singleton.mp new
      exact ⟨id, now, asked⟩
  · have own : report.sent?.toList.map some = [report.sent?] := by
      rw [Report.sent?, asked]
      rfl
    rw [List.map_append, List.map_append, balanced.sends, own]
    rfl
  · rw [List.filterMap_append, List.filterMap_cons, nothing]
    simpa using balanced.delivered

private theorem answer_balanced (metered : first.metered = true) (balanced : Balanced first name c) {n : Nat} {reply : Reply}
    (moved : c.step overlapping name (.answer n reply) = some after) : Balanced first name after := by
  obtain ⟨ctx, subject, m, found, report, rfl, rfl⟩ := answer_cases moved
  let report : Report := ⟨ctx, subject, some m, some reply⟩
  have failures : (c.reports.set n report).countP Report.failed =
      c.reports.countP Report.failed + (!reply.isOk).toNat := countP_set_add found report Report.failed
  have ready : c.reporter.metered = true := by rw [balanced.reporter]; exact metered
  obtain ⟨reporter, counts⟩ := afterSend_books ready name reply
  refine ⟨?_, ?_, ?_, ?_, ?_⟩
  · show (c.reporter.afterSend name reply).1 = { first with dropped := (c.reports.set n report).countP Report.failed }
    rw [reporter, failures, balanced.reporter]
  · show Observation.counts (c.seen ++ (c.reporter.afterSend name reply).2) =
      List.replicate ((c.reports.set n report).countP Report.failed) (.dropped name)
    rw [counts_append, counts, failures, balanced.counts, List.replicate_append_replicate]
  · intro r member
    rcases List.mem_or_eq_of_mem_set member with before | rfl
    · exact balanced.asks r before
    · exact balanced.asks ⟨ctx, subject, some m, none⟩ (List.mem_of_getElem? found)
  · show c.sends.map some = (c.reports.set n report).map Report.sent?
    obtain ⟨front, back, split, set⟩ := split_set found report
    rw [balanced.sends, set, split]
    simp only [List.map_append, List.map_cons]
    rfl
  · have perm := filterMap_set_perm found (f := Report.delivered?) report rfl
    exact (balanced.delivered.append_right _).trans perm.symm

theorem step_balanced (enabled : first.enabled = true) (metered : first.metered = true)
    (balanced : Balanced first name c) (moved : c.step overlapping name event = some after) :
    Balanced first name after := by
  cases event with
  | report ctx subject id now => exact report_balanced enabled balanced moved
  | answer n reply => exact answer_balanced metered balanced moved

end

section
variable {overlapping : Bool} {name : String} {first : Reporter} {c : Course}

private theorem balanced_of_leads (enabled : first.enabled = true) (metered : first.metered = true)
    (fresh : first.dropped = 0) (reached : Leads (Course.step overlapping name) { reporter := first } c) :
    Balanced first name c := by
  apply reached.invariant (Balanced first name)
  · refine ⟨?_, rfl, List.forall_mem_nil _, rfl, .nil⟩
    rw [List.countP_nil, ← fresh]
  · intro before event after balanced moved
    exact step_balanced enabled metered balanced moved

/-- The reports that have come to their end have failed, or their messages have been delivered. -/
theorem Balanced.delivered_or_failed (balanced : Balanced first name c) (settled : ∀ r ∈ c.reports, r.settled = true) :
    c.delivered.length + c.reports.countP Report.failed = c.reports.length := by
  have other : ∀ r ∈ c.reports, r.delivered?.isSome = true ↔ decide (¬ r.failed = true) = true := by
    intro r member
    obtain ⟨id, now, asked⟩ := balanced.asks r member
    have ended := settled r member
    obtain ⟨ctx, subject, m, outcome⟩ := r
    generalize first.message id now _ = wanted at asked
    obtain rfl : m = some wanted := asked
    rcases outcome with _ | reply
    · cases ended
    · cases reply <;> simp [Report.delivered?, Report.failed, Except.isOk, Except.toBool]
  rw [balanced.delivered.length_eq, List.length_filterMap_eq_countP, List.countP_congr other, Nat.add_comm]
  exact (List.length_eq_countP_add_countP _).symm

private theorem Balanced.sent (balanced : Balanced first name c) {n : Nat} {r : Report} (found : c.reports[n]? = some r) :
    ∃ id now, r.asked = some (first.message id now r.subject.payload) ∧
      c.sends[n]? = some (r.ctx, first.message id now r.subject.payload) := by
  obtain ⟨id, now, asked⟩ := balanced.asks r (List.mem_of_getElem? found)
  refine ⟨id, now, asked, ?_⟩
  have same : (c.sends.map some)[n]? = (c.reports.map Report.sent?)[n]? := by rw [balanced.sends]
  rw [List.getElem?_map, List.getElem?_map, found, Option.map_some, Report.sent?, asked] at same
  obtain ⟨sent, there, is⟩ := Option.map_eq_some_iff.mp same
  cases is
  exact there

end

/-! ### One report after another -/

/-- All reports but the last one have come to their end, and what is delivered stands in the order of the reports. -/
structure InTurn (c : Course) : Prop where
  settled : ∀ r ∈ c.reports.dropLast, r.settled = true
  delivered : c.delivered = c.reports.filterMap Report.delivered?

section
variable {name : String} {c after : Course} {event : Event}

theorem step_inTurn (inTurn : InTurn c) (moved : c.step false name event = some after) : InTurn after := by
  cases event with
  | report ctx subject id now =>
    obtain ⟨may, report, is, rfl⟩ := report_cases moved
    have settled : ∀ r ∈ c.reports, r.settled = true := may.resolve_left Bool.false_ne_true
    have nothing : report.delivered? = none := by rw [is]; rfl
    refine ⟨?_, ?_⟩
    · rw [List.dropLast_concat]
      exact settled
    · rw [List.filterMap_append, List.filterMap_cons, nothing, inTurn.delivered]
      exact (List.append_nil _).symm
  | answer n reply =>
    obtain ⟨ctx, subject, m, found, report, is, rfl⟩ := answer_cases moved
    obtain ⟨front, back, split, set⟩ := split_set found report
    -- Only the last report can still await its answer.
    have last : back = [] := by
      cases back with
      | nil => rfl
      | cons next rest =>
        have among : (⟨ctx, subject, some m, none⟩ : Report) ∈ c.reports.dropLast := by
          rw [split, List.dropLast_append_of_ne_nil (List.cons_ne_nil _ _)]
          exact List.mem_append_right _ List.mem_cons_self
        cases inTurn.settled _ among
    subst last
    have settled := inTurn.settled
    have delivered := inTurn.delivered
    rw [split, List.dropLast_concat] at settled
    rw [split, List.filterMap_append] at delivered
    refine ⟨?_, ?_⟩
    · rw [set, List.dropLast_concat]
      exact settled
    · rw [set, List.filterMap_append, delivered, List.filterMap_cons, List.filterMap_cons]
      cases report.delivered? <;> simp [Report.delivered?]

end

/-! ### Reporters without a transport -/

private theorem ofCollector_empty (source : String) : Reporter.ofCollector source "" = { source, enabled := false } := by
  simp [Reporter.ofCollector, Reporter.target?]

/-- Nothing comes of reports. -/
structure Silent (c : Course) : Prop where
  discards : c.reporter.enabled = false
  dropped : c.reporter.dropped = 0
  asks : ∀ r ∈ c.reports, r.asked = none
  seen : c.seen = []
  sends : c.sends = []
  delivered : c.delivered = []

theorem step_silent {overlapping : Bool} {name : String} {c after : Course} {event : Event} (silent : Silent c)
    (moved : c.step overlapping name event = some after) : Silent after := by
  cases event with
  | report ctx subject id now =>
    obtain ⟨_, report, is, rfl⟩ := report_cases moved
    have asked : report.asked = none := by
      rw [is]
      exact if_neg (Bool.eq_false_iff.mp silent.discards)
    refine ⟨silent.discards, silent.dropped, ?_, silent.seen, ?_, silent.delivered⟩
    · intro r member
      rcases List.mem_append.mp member with before | new
      · exact silent.asks r before
      · obtain rfl := List.mem_singleton.mp new
        exact asked
    · rw [silent.sends, Report.sent?, asked]
      rfl
  | answer n reply =>
    obtain ⟨ctx, subject, m, found, _⟩ := answer_cases moved
    cases silent.asks _ (List.mem_of_getElem? found)

private theorem silent_of_leads {overlapping : Bool} {name : String} {first : Reporter} {c : Course}
    (discards : first.enabled = false) (fresh : first.dropped = 0)
    (reached : Leads (Course.step overlapping name) { reporter := first } c) : Silent c := by
  apply reached.invariant Silent
  · exact ⟨discards, fresh, List.forall_mem_nil _, rfl, rfl, rfl⟩
  · intro before event after silent moved
    exact step_silent silent moved

/-! ### All reports -/

private theorem decode_message {span : TraceSpan} (proper : PayloadRoundTrip.Proper TraceSpan.codec span)
    (shallow : nesting (TraceSpan.codec.write span) ≤ 127) (r : Reporter) (id : String) (now : Int) :
    (r.message id now span).decode TraceSpan.codec = .ok span :=
  decode_written (sound_proper proper) shallow rfl

/-- Every report asks for one send, under its context. What is counted as dropped, by the reporter and in its metrics,
are the reports whose sends have failed; the messages of all others are delivered, in order unless reports overlap, and
what they carry is decoded as the span. Without an address, nothing is sent and nothing is counted. -/
theorem reports_balance (source name : String) (overlapping : Bool) {c : Course}
    (reached : Leads (Course.step overlapping name) { reporter := Reporter.withMetrics { source } } c) :
    c.sends.length = c.reports.length ∧
    (∀ (n : Nat) (r : Report), c.reports[n]? = some r → ∃ m, r.asked = some m ∧ c.sends[n]? = some (r.ctx, m)) ∧
    c.reporter.dropped = c.reports.countP Report.failed ∧
    (Observation.counts c.seen).value (.dropped name) = c.reports.countP Report.failed ∧
    c.delivered.Perm (c.reports.filterMap Report.delivered?) ∧
    (overlapping = false → c.delivered = c.reports.filterMap Report.delivered?) ∧
    ((∀ r ∈ c.reports, r.settled = true) → c.delivered.length + c.reporter.dropped = c.reports.length) ∧
    (∀ r ∈ c.reports, ∀ m, r.delivered? = some m →
      m.kind = "trace.span" ∧ m.source = source ∧
        (Proper TraceSpan.codec r.subject.payload → nesting (TraceSpan.codec.write r.subject.payload) ≤ 127 →
          m.decode TraceSpan.codec = .ok r.subject.payload)) ∧
    ∀ (empty : Reporter) (silent : Course),
      empty = .ofCollector source "" ∨ empty = (Reporter.ofCollector source "").withMetrics →
      Leads (Course.step overlapping name) { reporter := empty } silent →
      silent.sends = [] ∧ silent.reporter.dropped = 0 ∧ Observation.counts silent.seen = [] ∧ silent.delivered = [] := by
  have balanced := balanced_of_leads rfl rfl rfl reached
  have dropped : c.reporter.dropped = c.reports.countP Report.failed := congrArg Reporter.dropped balanced.reporter
  refine ⟨?_, ?_, dropped, ?_, balanced.delivered, ?_, ?_, ?_, ?_⟩
  · have lengths := congrArg List.length balanced.sends
    rwa [List.length_map, List.length_map] at lengths
  · intro n r found
    obtain ⟨id, now, asked, sent⟩ := balanced.sent found
    exact ⟨_, asked, sent⟩
  · rw [balanced.counts]
    exact List.count_replicate_self
  · rintro rfl
    have inTurn : InTurn c := by
      apply reached.invariant InTurn
      · exact ⟨List.forall_mem_nil _, rfl⟩
      · intro before event after inTurn moved
        exact step_inTurn inTurn moved
    exact inTurn.delivered
  · intro settled
    rw [dropped]
    exact balanced.delivered_or_failed settled
  · intro r member m delivered
    obtain ⟨id, now, asked⟩ := balanced.asks r member
    obtain ⟨reply, _, given⟩ := Option.bind_eq_some_iff.mp delivered
    rw [asked, Option.ite_none_right_eq_some] at given
    cases given.2
    refine ⟨rfl, rfl, ?_⟩
    intro proper shallow
    exact decode_message proper shallow _ id now
  · intro empty silent built reached
    have kept : Silent silent := by
      rw [ofCollector_empty] at built
      rcases built with rfl | rfl
      · exact silent_of_leads rfl rfl reached
      · exact silent_of_leads rfl rfl reached
    refine ⟨kept.sends, kept.dropped, ?_, kept.delivered⟩
    rw [kept.seen]
    rfl

def mixed : List Event :=
  [.report (.background 0) (.span default) "a" 0, .answer 0 (.error (.closed "http")),
   .report (.background 1) (.record spanned) "b" 1, .answer 1 (.ok none)]

theorem reports_balance_mixed :
    ∃ c, Leads (Course.step false "http") { reporter := Reporter.withMetrics { source := "s" } } c ∧
      c.sends.length = 2 ∧ c.reporter.dropped = 1 ∧ (Observation.counts c.seen).value (.dropped "http") = 1 ∧
      ∃ m, c.delivered = [m] ∧ m.kind = "trace.span" ∧ m.decode TraceSpan.codec = .ok spanned := by
  let m := (Reporter.withMetrics { source := "s" }).message "b" 1 spanned
  obtain ⟨c, ran, two, failures, last, delivered⟩ :
      ∃ c, mixed.foldlM (Course.step false "http") { reporter := Reporter.withMetrics { source := "s" } } = some c ∧
        c.reports.length = 2 ∧ c.reports.countP Report.failed = 1 ∧
        c.reports[1]? = some ⟨.background 1, .record spanned, some m, some (.ok none)⟩ ∧
        c.reports.filterMap Report.delivered? = [m] := ⟨_, rfl, rfl, rfl, rfl, rfl⟩
  obtain ⟨sends, _, dropped, metric, _, ordered, _, decodes, _⟩ := reports_balance "s" "http" false ⟨mixed, ran⟩
  obtain ⟨kind, _, decoded⟩ := decodes _ (List.mem_of_getElem? last) m rfl
  refine ⟨c, ⟨mixed, ran⟩, sends.trans two, dropped.trans failures, metric.trans failures, m, ?_, kind, ?_⟩
  · exact (ordered rfl).trans delivered
  · exact decoded spanned_proper (by decide +kernel)

/-- Its attribute has the shape of one that stands for another. -/
def misread : TraceSpan := { spanned with attributes := [("p", .object [(embeddedName, .text "1")])] }

theorem delivers_another_span :
    ∃ c, Leads (Course.step false "http") { reporter := Reporter.withMetrics { source := "s" } } c ∧
      (c.reports.map Report.subject = [.record misread] ∧ c.reports.countP Report.failed = 0) ∧
      nesting (TraceSpan.codec.write misread) ≤ 127 ∧
      ∃ m, c.delivered = [m] ∧ m.decode TraceSpan.codec = .ok { misread with attributes := [("p", .integer 1)] } ∧
        { misread with attributes := [("p", .integer 1)] } ≠ misread := by
  let events : List Event := [.report (.background 0) (.record misread) "a" 0, .answer 0 (.ok none)]
  refine ⟨_, ⟨events, rfl⟩, ⟨rfl, rfl⟩, by decide +kernel, _, rfl, by with_unfolding_all rfl, ?_⟩
  intro same
  have attributes := congrArg TraceSpan.attributes same
  cases attributes

end Courier.Proofs.SpanReports
