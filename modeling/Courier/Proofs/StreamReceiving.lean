import Courier.Proofs.LineSplitting
import Courier.Proofs.Runs
import Courier.Transport.Stream

/-! Receiving from a stream in pieces. However the stream is cut into chunks, and whenever receives are given
up, the results are those of a stream that is there from the start. What a receive has read and not
reported stays with the reader, so the one after it goes on where it stopped. -/

namespace Courier.Proofs.StreamReceiving
open LineReader

/-! ### Feeding a reader in parts -/

private theorem gather_append (budget : Nat) (pending : Bytes) (size : Nat) (input later : Bytes) :
    gather budget pending size (input ++ later) =
      match gather budget pending size input with
      | .line line rest => .line line (rest ++ later)
      | .full rest => .full (rest ++ later)
      | .short pending size => gather (budget - input.length) pending size later := by
  fun_induction gather budget pending size input with
  | case1 pending size rest => simp [gather]
  | case2 budget pending size => simp
  | case3 budget pending size rest => simp [gather]
  | case4 budget pending size b rest goesOn ih =>
    rw [List.cons_append, gather, if_neg goesOn, ih]
    simp [Nat.add_sub_add_right]

/-- A reader that has found a line has not looked at what is behind it, and one that has not found any
goes on with what it holds. -/
theorem feed_append (r : LineReader) (input later : Bytes) :
    match r.feed input with
    | (some line, after, rest) => r.feed (input ++ later) = (some line, after, rest ++ later)
    | (none, after, rest) => rest = [] ∧ r.feed (input ++ later) = after.feed later := by
  fun_induction LineReader.feed r input with
  | case1 r input pending rest gathered line skipped ih =>
    have both := gather_append (r.room - r.size) r.pending r.size input later
    have whole : r.feed (input ++ later) = r.restart.feed (rest ++ later) := by
      rw [LineReader.feed, both, gathered]
      exact if_pos skipped
    simp only [whole]
    exact ih
  | case2 r input pending rest gathered line reported =>
    have both := gather_append (r.room - r.size) r.pending r.size input later
    rw [LineReader.feed, both, gathered]
    exact if_neg reported
  | case3 r input rest gathered wraps line after finished =>
    have both := gather_append (r.room - r.size) r.pending r.size input later
    rw [LineReader.feed, both, gathered]
    simp only [wraps, if_true, finished]
  | case4 r input rest gathered roomy discarding ih =>
    have both := gather_append (r.room - r.size) r.pending r.size input later
    have whole : r.feed (input ++ later) = { r with pending := [], size := 0 }.feed (rest ++ later) := by
      rw [LineReader.feed, both, gathered]
      simp only [roomy, discarding, if_false, if_true, Bool.false_eq_true]
    simp only [whole]
    exact ih
  | case5 r input rest gathered roomy first =>
    have both := gather_append (r.room - r.size) r.pending r.size input later
    rw [LineReader.feed, both, gathered]
    simp only [roomy, first, if_false, Bool.false_eq_true]
  | case6 r input pending size gathered =>
    have both := gather_append (r.room - r.size) r.pending r.size input later
    obtain ⟨_, within, _, total⟩ := gather_short gathered
    have roomy : ¬ r.wraps = true := by
      intro wraps
      simp [LineReader.room, wraps] at within
    have left : r.room - r.size - input.length = r.room - size := by omega
    rw [gathered] at both
    simp only [left] at both
    refine ⟨rfl, ?_⟩
    rw [LineReader.feed, both, LineReader.feed]
    simp only [if_neg roomy]
    rfl

section
variable {r after : LineReader} {input rest later : Bytes} {ended : Bool}

private theorem next_append {line : Line} (called : r.next input ended = (some line, after, rest))
    (complete : ended = true → later = []) : r.next (input ++ later) true = (some line, after, rest ++ later) := by
  have parts := feed_append r input later
  rw [LineReader.next] at called ⊢
  rcases fed : r.feed input with ⟨_ | found, held, left⟩ <;> rw [fed] at parts called
  · cases ended with
    | true =>
      obtain rfl : later = [] := complete rfl
      rw [List.append_nil, List.append_nil, fed]
      exact called
    | false => cases called
  · cases called
    rw [parts]

private theorem next_waits (called : r.next input ended = (none, after, rest)) (later : Bytes) :
    r.next (input ++ later) true = after.next (rest ++ later) true := by
  have parts := feed_append r input later
  rw [LineReader.next] at called
  rcases fed : r.feed input with ⟨_ | found, held, left⟩ <;> rw [fed] at parts called
  · obtain ⟨rfl, parts⟩ := parts
    cases ended with
    | true => cases called
    | false =>
      cases called
      rw [LineReader.next, LineReader.next, parts, List.nil_append]
  · cases called

private theorem next_ended (r : LineReader) (input : Bytes) :
    ∃ line after rest, r.next input true = (some line, after, rest) := by
  rw [LineReader.next]
  rcases r.feed input with ⟨_ | line, held, left⟩
  · exact ⟨_, _, _, rfl⟩
  · exact ⟨_, _, _, rfl⟩

end

/-! ### Receives, one after another -/

abbrev Received := Except TransportError Message

/-- A transport, what has arrived in all, the ticket of the receive in progress, and what receives have
returned, the last one last. -/
structure Reading where
  transport : StreamTransport := {}
  arrived : Bytes := []
  current : Option Nat := none
  results : List Received := []

/-- What can happen between two looks of a receive, or instead of the next. A context that has ended may
be noticed before a look or after it. -/
inductive Event where
  | arrive (chunk : Bytes)
  | close
  | enter (ended : Option ContextError)
  | look (ended : Option ContextError)
  | drop

namespace Reading

def step (s : Reading) : Event → Option Reading
  | .arrive chunk =>
    if s.transport.inputEnded then none
    else some { s with transport := s.transport.feed chunk, arrived := s.arrived ++ chunk }
  | .close => some { s with transport := { s.transport with inputEnded := true } }
  | .enter ended =>
    match s.current with
    | some _ => none
    | none =>
      match s.transport.enter ended with
      | .error why => some { s with results := s.results ++ [.error why] }
      | .ok (ticket, transport) => some { s with transport, current := some ticket }
  | .look ended =>
    match s.current with
    | none => none
    | some ticket =>
      if s.transport.hasReader ticket then
        match s.transport.poll ticket ended with
        | (some result, transport) =>
          some { s with transport, current := none, results := s.results ++ [result] }
        | (none, transport) => some { s with transport }
      else none
  | .drop =>
    match s.current with
    | none => none
    | some ticket => some { s with transport := s.transport.leave ticket, current := none }

/-- The transport as it would be if all the rest arrived at once and nobody read from it. -/
def unread (s : Reading) (later : Bytes) : StreamTransport :=
  { s.transport with input := s.transport.input ++ later, inputEnded := true, lock := {} }

end Reading

abbrev Reachable (s : Reading) : Prop := Leads Reading.step {} s

def whole (stream : Bytes) : StreamTransport := { input := stream, inputEnded := true }

def receives (t : StreamTransport) : Nat → List Received
  | 0 => []
  | count + 1 =>
    match t.enter none with
    | .error why => .error why :: receives t count
    | .ok (ticket, t) =>
      if t.hasReader ticket then
        match t.poll ticket none with
        | (some result, t) => result :: receives t count
        | (none, _) => []
      else []

def isTold : Received → Bool
  | .error (.context _) => false
  | _ => true

def told (results : List Received) : List Received := results.filter isTold

/-- What a reader makes of the rest of a stream. -/
def drain (r : LineReader) (stream : Bytes) (count : Nat) : List Received :=
  (LineSplitting.results r stream count).filterMap (Option.map StreamTransport.ofLine)

private theorem drain_succ {r after : LineReader} {stream rest : Bytes} {line : Line}
    (called : r.next stream true = (some line, after, rest)) (count : Nat) :
    drain r stream (count + 1) = StreamTransport.ofLine line :: drain after rest count := by
  rw [drain, LineSplitting.results, called]
  rfl

private theorem drain_congr {r after : LineReader} {stream rest : Bytes}
    (same : r.next stream true = after.next rest true) (count : Nat) :
    drain r stream count = drain after rest count := by
  cases count with
  | zero => rfl
  | succ count => rw [drain, LineSplitting.results, same, drain, LineSplitting.results]

private theorem isTold_ofLine (line : Line) : isTold (StreamTransport.ofLine line) = true := by
  cases line with
  | data bytes =>
    simp only [StreamTransport.ofLine, Message.ofLine]
    cases Message.unmarshal bytes <;> rfl
  | tooLong => rfl
  | finished => rfl

section
variable {l : Lock} {ticket : Nat}

theorem acquire_alone (free : l.holder = none) (alone : l.waiting = []) :
    l.acquire.2.holder = some l.acquire.1 ∧ l.acquire.2.waiting = [] := by
  rw [Lock.acquire, free]
  exact ⟨rfl, alone⟩

theorem release_alone (held : l.holder = some ticket) (alone : l.waiting = []) :
    (l.release ticket).holder = none ∧ (l.release ticket).waiting = [] := by
  have is : l.isHeldBy ticket = true := decide_eq_true held
  rw [Lock.release, if_pos is, Lock.handOn, alone]
  exact ⟨rfl, rfl⟩

end

/-- A look of a receive that has the reader, and whose context is live. -/
theorem poll_live (t : StreamTransport) (ticket : Nat) :
    t.poll ticket none =
      match t.lines.next t.input t.inputEnded with
      | (some line, lines, input) =>
        (some (StreamTransport.ofLine line), { t with lines, input, lock := t.lock.release ticket })
      | (none, lines, input) => (none, { t with lines, input }) := by
  simp only [StreamTransport.poll, StreamTransport.nextLine]
  rcases t.lines.next t.input t.inputEnded with ⟨_ | line, lines, input⟩ <;> rfl

inductive Took (s : Reading) : Event → Reading → Prop where
  | arrive {chunk : Bytes} (live : s.transport.inputEnded = false) :
      Took s (.arrive chunk) { s with transport := s.transport.feed chunk, arrived := s.arrived ++ chunk }
  | close : Took s .close { s with transport := { s.transport with inputEnded := true } }
  | refuse (why : ContextError) :
      Took s (.enter (some why)) { s with results := s.results ++ [.error (.context why)] }
  | enter (idle : s.current = none) :
      Took s (.enter none)
        { s with
          transport := { s.transport with lock := s.transport.lock.acquire.2 }
          current := some s.transport.lock.acquire.1 }
  | stop {ticket : Nat} (current : s.current = some ticket) (why : ContextError) :
      Took s (.look (some why))
        { s with
          transport := s.transport.leave ticket
          current := none
          results := s.results ++ [.error (.context why)] }
  | wait {lines : LineReader} {input : Bytes}
      (called : s.transport.lines.next s.transport.input s.transport.inputEnded = (none, lines, input)) :
      Took s (.look none) { s with transport := { s.transport with lines, input } }
  | find {ticket : Nat} {line : Line} {lines : LineReader} {input : Bytes}
      (current : s.current = some ticket)
      (called : s.transport.lines.next s.transport.input s.transport.inputEnded =
        (some line, lines, input)) :
      Took s (.look none)
        { s with
          transport := { s.transport with lines, input, lock := s.transport.lock.release ticket }
          current := none
          results := s.results ++ [StreamTransport.ofLine line] }
  | drop {ticket : Nat} (current : s.current = some ticket) :
      Took s .drop { s with transport := s.transport.leave ticket, current := none }

theorem step_took {s after : Reading} {event : Event} (moved : s.step event = some after) :
    Took s event after := by
  cases event with
  | arrive chunk =>
    simp only [Reading.step] at moved
    split at moved <;> cases moved
    next live => exact .arrive (by simpa using live)
  | close =>
    cases moved
    exact .close
  | enter ended =>
    simp only [Reading.step] at moved
    split at moved
    · cases moved
    next idle =>
    cases ended <;> cases moved
    · exact .enter idle
    · exact .refuse _
  | look ended =>
    simp only [Reading.step] at moved
    split at moved
    · cases moved
    next ticket current =>
    split at moved
    next =>
      cases ended with
      | some why =>
        cases moved
        exact .stop current why
      | none =>
        rw [poll_live] at moved
        rcases called : s.transport.lines.next s.transport.input s.transport.inputEnded with
          ⟨_ | line, lines, input⟩ <;> rw [called] at moved <;> cases moved
        · exact .wait called
        · exact .find current called
    next => cases moved
  | drop =>
    simp only [Reading.step] at moved
    split at moved <;> cases moved
    next current => exact .drop current

private theorem receives_eq_drain (count : Nat) (t : StreamTransport) (free : t.lock.holder = none)
    (alone : t.lock.waiting = []) (ended : t.inputEnded = true) :
    receives t count = drain t.lines t.input count := by
  induction count generalizing t with
  | zero => rfl
  | succ count ih =>
    obtain ⟨line, after, rest, called⟩ := next_ended t.lines t.input
    obtain ⟨held, single⟩ := acquire_alone free alone
    obtain ⟨freed, last⟩ := release_alone held single
    have has : t.lock.acquire.2.isHeldBy t.lock.acquire.1 = true := decide_eq_true held
    simp only [receives, StreamTransport.enter, StreamTransport.hasReader, has, if_true, poll_live, ended,
      called, drain_succ called]
    rw [ih _ freed last rfl]

/-- Nothing interrupted, receives give the messages and the errors of the lines, and then the end for
ever. -/
theorem receives_whole (stream : Bytes) (count : Nat) :
    receives (whole stream) count =
      ((LineSplitting.split maxLineBytes stream).map StreamTransport.ofLine ++
        List.replicate count (Except.error TransportError.inputClosed)).take count := by
  let lines := LineSplitting.split maxLineBytes stream
  have reports : LineSplitting.results {} stream count =
      ((lines ++ List.replicate count Line.finished).take count).map some := by
    rw [LineSplitting.reports_split maxLineBytes stream count, List.map_take, List.map_append,
      List.map_replicate]
  calc receives (whole stream) count
    _ = drain {} stream count := receives_eq_drain count (whole stream) rfl rfl rfl
    _ = ((lines ++ List.replicate count Line.finished).take count).map StreamTransport.ofLine := by
      rw [drain, reports, List.filterMap_map]
      exact congrFun List.filterMap_eq_map _
    _ = _ := by
      rw [List.map_take, List.map_append, List.map_replicate]
      rfl

/-! ### What has been returned and what is still to come -/

/-- Nothing of the stream is lost and nothing is read twice: what has been returned, and what the transport
would give, is what the stream has from its start. -/
structure Faithful (s : Reading) : Prop where
  held : s.transport.lock.holder = s.current
  alone : s.transport.lock.waiting = []
  same : ∀ later count, (s.transport.inputEnded = true → later = []) →
    drain {} (s.arrived ++ later) ((told s.results).length + count) =
      told s.results ++ drain s.transport.lines (s.transport.input ++ later) count

private theorem told_context (results : List Received) (why : ContextError) :
    told (results ++ [.error (.context why)]) = told results := by
  rw [told, List.filter_append]
  exact List.append_nil _

private theorem told_line (results : List Received) (line : Line) :
    told (results ++ [StreamTransport.ofLine line]) = told results ++ [StreamTransport.ofLine line] := by
  rw [told, List.filter_append, List.filter_cons_of_pos (isTold_ofLine line)]
  rfl

section
variable {s middle after : Reading}

private theorem leave_preserves (faithful : Faithful s) {ticket : Nat} (current : s.current = some ticket) :
    Faithful { s with transport := s.transport.leave ticket, current := none } := by
  obtain ⟨free, alone⟩ := release_alone (faithful.held.trans current) faithful.alone
  exact ⟨free, alone, faithful.same⟩

private theorem context_preserves (faithful : Faithful s) (why : ContextError) :
    Faithful { s with results := s.results ++ [.error (.context why)] } := by
  refine ⟨faithful.held, faithful.alone, ?_⟩
  simp only [told_context]
  exact faithful.same

theorem step_preserves (faithful : Faithful s) {event : Event} (moved : s.step event = some after) :
    Faithful after := by
  cases step_took moved with
  | @arrive chunk live =>
    refine ⟨faithful.held, faithful.alone, fun later count _ => ?_⟩
    have goesOn := faithful.same (chunk ++ later) count fun ended => by simp [live] at ended
    simpa only [StreamTransport.feed, List.append_assoc] using goesOn
  | close =>
    refine ⟨faithful.held, faithful.alone, fun later count complete => ?_⟩
    exact faithful.same later count fun _ => complete rfl
  | refuse why => exact context_preserves faithful why
  | enter idle =>
    obtain ⟨holds, alone⟩ := acquire_alone (faithful.held.trans idle) faithful.alone
    exact ⟨holds, alone, faithful.same⟩
  | stop current why => exact context_preserves (leave_preserves faithful current) why
  | wait called =>
    refine ⟨faithful.held, faithful.alone, fun later count complete => ?_⟩
    rw [← drain_congr (next_waits called later)]
    exact faithful.same later count complete
  | find current called =>
    obtain ⟨free, alone⟩ := release_alone (faithful.held.trans current) faithful.alone
    refine ⟨free, alone, fun later count complete => ?_⟩
    have found := drain_succ (next_append called complete) count
    have goesOn := faithful.same later (count + 1) complete
    rw [found] at goesOn
    simp only [told_line, List.length_append, List.length_singleton, List.append_assoc,
      List.singleton_append]
    rw [Nat.add_assoc, Nat.add_comm 1 count]
    exact goesOn
  | drop current => exact leave_preserves faithful current

private theorem faithful_initial : Faithful {} := by
  refine ⟨rfl, rfl, fun later count _ => ?_⟩
  rw [show (told ({} : Reading).results).length + count = count from Nat.zero_add count]
  rfl

private theorem Faithful.of_reachable (reached : Reachable s) : Faithful s :=
  reached.invariant Faithful faithful_initial fun _ _ _ faithful moved => step_preserves faithful moved

private theorem Faithful.receives (faithful : Faithful s) {later : Bytes}
    (complete : s.transport.inputEnded = true → later = []) (count : Nat) :
    receives (whole (s.arrived ++ later)) ((told s.results).length + count) =
      told s.results ++ receives (s.unread later) count := by
  rw [receives_eq_drain _ (whole (s.arrived ++ later)) rfl rfl rfl,
    receives_eq_drain count (s.unread later) rfl rfl rfl]
  exact faithful.same later count complete

/-- What has arrived stays, and what is at its end stays there. -/
def Grown (s after : Reading) : Prop :=
  ∃ fresh, after.arrived = s.arrived ++ fresh ∧
    (s.transport.inputEnded = true → fresh = [] ∧ after.transport.inputEnded = true)

private theorem Grown.step (grown : Grown s middle) {event : Event} (moved : middle.step event = some after) :
    Grown s after := by
  obtain ⟨fresh, arrived, complete⟩ := grown
  cases step_took moved with
  | @arrive chunk live =>
    refine ⟨fresh ++ chunk, ?_, fun ended => by simp [(complete ended).2] at live⟩
    rw [arrived, List.append_assoc]
  | close => exact ⟨fresh, arrived, fun ended => ⟨(complete ended).1, rfl⟩⟩
  | _ => exact ⟨fresh, arrived, complete⟩

private theorem Grown.of_leads (led : Leads Reading.step s after) : Grown s after :=
  led.invariant (Grown s) ⟨[], (List.append_nil _).symm, fun ended => ⟨rfl, ended⟩⟩
    fun _ _ _ grown moved => grown.step moved

end

/-- Whatever pieces a stream arrives in, and whatever receives are given up, those that are not give what
the whole stream gives from its start, and what is left gives the rest of it. Until one of them gives
something, however many are given up, the rest stays the same. A receive never waits for another. -/
theorem reads_regardless_of_interruptions {s : Reading} (reached : Reachable s) :
    (∀ later count, (s.transport.inputEnded = true → later = []) →
      receives (whole (s.arrived ++ later)) ((told s.results).length + count) =
        told s.results ++ receives (s.unread later) count) ∧
    (∀ after, Leads Reading.step s after → told after.results = told s.results →
      ∃ fresh, after.arrived = s.arrived ++ fresh ∧
        ∀ later count, (after.transport.inputEnded = true → later = []) →
          receives (s.unread (fresh ++ later)) count = receives (after.unread later) count) ∧
    ∀ ticket, s.current = some ticket → s.transport.hasReader ticket = true := by
  have faithful := Faithful.of_reachable reached
  refine ⟨fun later count complete => faithful.receives complete count, ?_, ?_⟩
  · intro after led same
    obtain ⟨fresh, arrived, complete⟩ := Grown.of_leads led
    refine ⟨fresh, arrived, fun later count ended => ?_⟩
    have nothing : s.transport.inputEnded = true → fresh ++ later = [] := by
      intro before
      obtain ⟨rfl, still⟩ := complete before
      exact ended still
    have before := faithful.receives nothing count
    have reachedAfter : Reachable after := Leads.trans reached led
    have afterwards := (Faithful.of_reachable reachedAfter).receives ended count
    rw [arrived, same, List.append_assoc] at afterwards
    exact List.append_cancel_left (before.symm.trans afterwards)
  · intro ticket current
    exact decide_eq_true (faithful.held.trans current)

/-- One receive has been given up in the middle of a line and one before it started, and a third is about to
look. -/
def interrupted : Reading where
  transport :=
    { lines := { pending := [97], size := 1 }
      input := [98, 10, 99]
      lock := { holder := some 1, nextTicket := 2 } }
  arrived := [97, 98, 10, 99]
  current := some 1
  results := [.error (.context .cancelled), .error (.context .deadlineExceeded)]

private theorem interrupted_reachable : Reachable interrupted :=
  ⟨[.arrive [97], .enter none, .look none, .look (some .cancelled), .arrive [98, 10, 99],
    .enter (some .deadlineExceeded), .enter none], by cbv⟩

/-- Nothing has been told yet, and nothing is lost. -/
theorem interrupted_reads :
    Reachable interrupted ∧ ∀ later count,
      receives (whole ([97, 98, 10, 99] ++ later)) count = receives (interrupted.unread later) count := by
  refine ⟨interrupted_reachable, fun later count => ?_⟩
  have reads := (reads_regardless_of_interruptions interrupted_reachable).1 later count nofun
  rw [show (told interrupted.results).length + count = count from Nat.zero_add count] at reads
  exact reads

end Courier.Proofs.StreamReceiving
