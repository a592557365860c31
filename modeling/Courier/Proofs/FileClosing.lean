import Courier.Proofs.FileLocks

/-! The end of a transport over a file. What is refused has not touched the file, and once closing has returned, nothing
does that the transport does. -/

namespace Courier.Proofs.FileClosing
open FileCalls FileLocks FileDelivery

/-! ### Who writes -/

def caller (s : Site) : Event → Option Nat
  | .start _ _ => some s.calls.length
  | .move n _ => some n
  | .write _ _ => none

/-- Where the call is that has changed files. -/
inductive Writes : Stage → Prop where
  | moving (record : Bytes) (ticket : Nat) : Writes (.within (.send record) .moving ticket)
  | done : Writes (.finished (.ok none))
  | failed (text : String) : Writes (.finished (.error (FileTransport.failure text)))

section
variable {t handled : FileTransport} {files later : Config.Files} {job : Job} {phase : Phase} {move : Move}
  {turn : Turn}

private theorem sending_writes {record : Bytes} {writing : Bool}
    (acted : sending t files record phase move = some (writing, later, turn))
    (touches : phase = .moving ∨ later ≠ files) (ticket : Nat) : Writes (turn.stage (.send record) ticket) := by
  rcases sending_cases acted with ⟨still, same, _⟩ | ⟨bytes, _, rfl | rfl | ⟨text, rfl⟩⟩
  · exact absurd same (touches.resolve_left still)
  · exact .moving record ticket
  · exact .done
  · exact .failed text

private theorem act_writes (acted : job.act t files phase move = some (handled, later, turn))
    (touches : (∃ record, job = .send record ∧ phase = .moving) ∨ later ≠ files) (ticket : Nat) :
    Writes (turn.stage job ticket) := by
  cases job with
  | send record =>
    obtain ⟨_, sent, same⟩ := Option.map_eq_some_iff.mp acted
    cases same
    apply sending_writes sent
    rcases touches with ⟨_, _, moving⟩ | changed
    · exact .inl moving
    · exact .inr changed
  | receive | dropWriter | dropReader =>
    obtain ⟨_, _, same⟩ := Option.map_eq_some_iff.mp acted
    cases same
    rcases touches with ⟨_, other, _⟩ | changed
    · cases other
    · exact absurd rfl changed

end

section
variable {s after : Site} {event : Event} {n : Nat} {op : Operation} {stage : Stage}

theorem step_writes (moved : s.step event = some after) (found : s.calls[n]? = some ⟨op, stage⟩)
    (writes : Writes stage) : ∃ stage, after.calls[n]? = some ⟨op, stage⟩ ∧ Writes stage := by
  rcases call_cases moved found with
    same | ⟨job, _, rfl, _⟩ | ⟨job, phase, ticket, move, transport, files, turn, rfl, _, acted, there⟩
  · exact ⟨stage, same, writes⟩
  · cases writes
  · refine ⟨turn.stage job ticket, there, ?_⟩
    cases writes with
    | moving record => exact act_writes acted (.inl ⟨record, rfl, rfl⟩) ticket

private theorem step_changes (moved : s.step event = some after) (called : caller s event = some n)
    (changed : after.files ≠ s.files) : ∃ op stage, after.calls[n]? = some ⟨op, stage⟩ ∧ Writes stage := by
  cases event with
  | write path bytes => cases called
  | start ended op =>
    cases moved
    exact absurd rfl changed
  | move m move =>
    cases called
    rcases move_cases moved with
      ⟨op, job, _, _, rfl⟩ | ⟨op, job, phase, ticket, transport, files, turn, found, _, acted, rfl⟩
    · exact absurd rfl changed
    · rw [settle_files] at changed
      refine ⟨op, turn.stage job ticket, ?_, act_writes acted (.inr changed) ticket⟩
      rw [settle_calls]
      exact found_self found _

end

private theorem history_writes {first s : Site} {passages : List (Passage Site Event)}
    (ran : History Site.step first passages s) :
    ∀ p ∈ passages, ∀ n, caller p.before p.event = some n → p.after.files ≠ p.before.files →
      ∃ op stage, s.calls[n]? = some ⟨op, stage⟩ ∧ Writes stage := by
  induction ran with
  | start =>
    intro p member
    cases member
  | go prior moved ih =>
    intro p member n called changed
    rcases List.mem_append.mp member with before | now
    · obtain ⟨op, stage, found, writes⟩ := ih p before n called changed
      obtain ⟨later, there, still⟩ := step_writes moved found writes
      exact ⟨op, later, there, still⟩
    · obtain rfl := List.mem_singleton.mp now
      exact step_changes moved called changed

/-! ### After the flag is set -/

def refused : Stage := .finished (.error (.closed FileTransport.name))

/-- A call has not got further than the line for its lock. -/
inductive Waits (job : Job) : Stage → Prop where
  | admitted : Waits job (.admitted job)
  | queued (ticket : Nat) : Waits job (.within job .queued ticket)

def Stage.Spares (handle : Handle) : Stage → Prop
  | .within job phase _ => job.handle = handle → job.uses = true → phase = .queued
  | _ => True

def Idle (handle : Handle) (s : Site) : Prop := ∀ call ∈ s.calls, Stage.Spares handle call.stage

private theorem spares_outside {stage : Stage} (outside : ∀ job phase ticket, stage ≠ .within job phase ticket)
    (handle : Handle) : Stage.Spares handle stage := by
  cases stage with
  | within job phase ticket => exact absurd rfl (outside job phase ticket)
  | admitted | finished => trivial

section
variable {s after : Site} {event : Event} {n : Nat} {op : Operation} {job : Job} {handle : Handle} {stage : Stage}

private theorem begin_closed (t : FileTransport) (closed : t.closed = true) (ended : Option ContextError) (op : Operation) :
    (begin t ended op).1 = t := by
  cases op with
  | send | receive =>
    rw [begin]
    split <;> rfl
  | close => rw [begin, if_pos closed]

theorem step_closed (closed : s.transport.closed = true) (moved : s.step event = some after) :
    after.transport.closed = true := by
  cases event with
  | start ended op =>
    cases moved
    have same : (s.call ended op).transport = s.transport := begin_closed s.transport closed ended op
    rwa [same]
  | write path bytes =>
    obtain rfl := write_cases moved
    exact closed
  | move m move =>
    rcases move_cases moved with
      ⟨op, job, _, _, rfl⟩ | ⟨op, job, phase, ticket, transport, files, turn, _, _, acted, rfl⟩
    · exact closed
    · obtain ⟨writing, reader, rfl⟩ := act_handles acted
      rw [settle_transport]
      exact closed

theorem step_idle (closed : s.transport.closed = true) (idle : Idle handle s) (moved : s.step event = some after) :
    Idle handle after := by
  intro call member
  cases event with
  | start ended op =>
    cases moved
    rcases List.mem_append.mp member with before | now
    · exact idle call before
    · rw [List.mem_singleton.mp now]
      exact spares_outside (begin_outside s.transport ended op) handle
  | write path bytes =>
    obtain rfl := write_cases moved
    exact idle call member
  | move m move =>
    rcases move_cases moved with
      ⟨op, job, _, _, rfl⟩ | ⟨op, job, phase, ticket, transport, files, turn, found, _, acted, rfl⟩
    · rcases List.mem_or_eq_of_mem_set member with before | rfl
      · exact idle call before
      · exact fun _ _ => rfl
    · rw [settle_calls] at member
      rcases List.mem_or_eq_of_mem_set member with before | rfl
      · exact idle call before
      · cases turn with
        | ends | passes => trivial
        | stays later =>
          intro kind uses
          -- Whoever waited is refused, so the call used the handle before.
          obtain rfl : phase = .queued := idle _ (List.mem_of_getElem? found) kind uses
          obtain ⟨_, other⟩ := act_refused closed uses acted
          cases other

private theorem step_waits (closed : s.transport.closed = true) (uses : job.uses = true)
    (found : s.calls[n]? = some ⟨op, stage⟩) (waits : stage = refused ∨ Waits job stage)
    (moved : s.step event = some after) :
    ∃ now, after.calls[n]? = some ⟨op, now⟩ ∧ (now = refused ∨ Waits job now) := by
  rcases call_cases moved found with
    same | ⟨_, ticket, rfl, there⟩ | ⟨_, phase, ticket, move, transport, files, turn, rfl, _, acted, there⟩
  · exact ⟨stage, same, waits⟩
  · rcases waits with other | waits
    · cases other
    · cases waits
      exact ⟨_, there, .inr (.queued ticket)⟩
  · rcases waits with other | waits
    · cases other
    · cases waits
      obtain ⟨_, rfl⟩ := act_refused closed uses acted
      exact ⟨_, there, .inl rfl⟩

/-- Whoever gets the lock then is refused at its next move. -/
theorem go_refused (closed : s.transport.closed = true) (uses : job.uses = true) {ticket : Nat}
    (found : s.calls[n]? = some ⟨op, .within job .queued ticket⟩)
    (held : (s.locks job.handle).isHeldBy ticket = true) :
    ∃ after, s.step (.move n .go) = some after ∧ after.calls[n]? = some ⟨op, refused⟩ := by
  have acted : ∃ acted, job.act s.transport s.files .queued .go = some acted := by
    cases job with
    | send | receive => exact ⟨_, rfl⟩
    | dropWriter | dropReader => cases uses
  obtain ⟨⟨transport, files, turn⟩, acted⟩ := acted
  obtain ⟨_, rfl⟩ := act_refused closed uses acted
  refine ⟨_, step_act found (fun _ => held) acted, ?_⟩
  rw [settle_calls]
  exact found_self found _

private theorem call_refused (closed : s.transport.closed = true) (other : op ≠ .close) :
    s.step (.start none op) = some { s with calls := s.calls ++ [⟨op, refused⟩] } := by
  have shut := ensureOpen_closed closed
  have begun : begin s.transport none op = (s.transport, refused) := by
    cases op with
    | close => exact absurd rfl other
    | send m =>
      simp only [begin, FileTransport.prepare, FileTransport.enter, shut]
      rfl
    | receive =>
      simp only [begin, FileTransport.enter, shut]
      rfl
  rw [Site.step, Site.call, begun]

end

/-! ### Closing -/

/-- How far a call is that closes, and which handles nobody uses any more. -/
inductive Progress (s : Site) : Stage → Prop where
  | begun : Progress s (.admitted .dropWriter)
  | inLine (ticket : Nat) : Progress s (.within .dropWriter .queued ticket)
  | flushing (ticket : Nat) : Idle .writer s → Progress s (.within .dropWriter .moving ticket)
  | half (failed : Option String) : Idle .writer s → Progress s (.admitted (.dropReader failed))
  | inSecondLine (failed : Option String) (ticket : Nat) : Idle .writer s →
      Progress s (.within (.dropReader failed) .queued ticket)
  | returned (reply : Reply) : Idle .writer s → Idle .reader s → Progress s (.finished reply)

/-- The transport is being closed, or has been closed, by a call. -/
structure Closing (closer : Nat) (s : Site) : Prop where
  owned : Owned s
  closed : s.transport.closed = true
  progress : ∃ stage, s.calls[closer]? = some ⟨.close, stage⟩ ∧ Progress s stage

section
variable {s after : Site} {event : Event} {n closer : Nat} {op : Operation} {job : Job} {phase : Phase} {ticket : Nat}
  {stage : Stage}

theorem Progress.kept (progress : Progress s stage) (kept : ∀ handle, Idle handle s → Idle handle after) :
    Progress after stage := by
  cases progress with
  | begun => exact .begun
  | inLine ticket => exact .inLine ticket
  | flushing ticket writer => exact .flushing ticket (kept _ writer)
  | half failed writer => exact .half failed (kept _ writer)
  | inSecondLine failed ticket writer => exact .inSecondLine failed ticket (kept _ writer)
  | returned reply writer reader => exact .returned reply (kept _ writer) (kept _ reader)

private theorem idle_of_held (owned : Owned s) (found : s.calls[n]? = some ⟨op, .within job phase ticket⟩)
    (drops : job.uses = false) (held : (s.locks job.handle).isHeldBy ticket = true) : Idle job.handle s := by
  rintro ⟨other, stage⟩ member
  cases stage with
  | admitted | finished => trivial
  | within user later mine =>
    intro kind uses
    apply Decidable.byContradiction
    intro busy
    obtain ⟨m, there⟩ := List.mem_iff_getElem?.mp member
    have has : Has s m job.handle later mine := ⟨other, user, there, kind⟩
    obtain rfl := held_once held (owned.holds has busy)
    obtain rfl : n = m := owned.distinct ⟨op, job, found, rfl⟩ has
    cases found.symm.trans there
    rw [drops] at uses
    cases uses

theorem step_closing (closing : Closing closer s) (moved : s.step event = some after) : Closing closer after := by
  refine ⟨step_owned closing.owned moved, step_closed closing.closed moved, ?_⟩
  obtain ⟨stage, found, progress⟩ := closing.progress
  have kept (handle : Handle) (idle : Idle handle s) : Idle handle after := step_idle closing.closed idle moved
  rcases call_cases moved found with
    same | ⟨job, ticket, rfl, there⟩ | ⟨job, phase, ticket, move, transport, files, turn, rfl, may, acted, there⟩
  · exact ⟨stage, same, progress.kept kept⟩
  · refine ⟨_, there, ?_⟩
    cases progress with
    | begun => exact .inLine ticket
    | half failed writer => exact .inSecondLine failed ticket (kept _ writer)
  · refine ⟨_, there, ?_⟩
    cases progress with
    | inLine =>
      have writer := kept _ (idle_of_held closing.owned found rfl (may rfl))
      rcases dropWriter_cases acted with ⟨_, rfl⟩ | ⟨failed, rfl⟩
      · exact .flushing ticket writer
      · exact .half failed writer
    | flushing _ writer =>
      rcases dropWriter_cases acted with ⟨other, _⟩ | ⟨failed, rfl⟩
      · cases other
      · exact .half failed (kept _ writer)
    | inSecondLine failed _ writer =>
      have reader := kept _ (idle_of_held closing.owned found rfl (may rfl))
      obtain ⟨reply, rfl⟩ := dropReader_cases acted
      exact .returned reply (kept _ writer) reader

end

/-! ### After closing -/

def own : Event → Bool
  | .write _ _ => false
  | _ => true

/-- Files after an event that can only change them if it is the writing of someone else. -/
def written (files : Config.Files) : Event → Config.Files
  | .write path bytes => files.write path bytes
  | _ => files

/-- From here on only others write files, and whatever happens on the transport happens whatever is in them. -/
def Apart (s : Site) : Prop :=
  ∀ (events : List Event) (after : Site), events.foldlM Site.step s = some after →
    after.files = events.foldl written s.files ∧
    ∀ other, (events.filter own).foldlM Site.step { s with files := other } = some { after with files := other }

structure Rested (s : Site) : Prop where
  closed : s.transport.closed = true
  idle : ∀ handle, Idle handle s

section
variable {s after : Site} {event : Event}

theorem step_rested (rested : Rested s) (moved : s.step event = some after) : Rested after :=
  ⟨step_closed rested.closed moved, fun handle => step_idle rested.closed (rested.idle handle) moved⟩

private theorem move_apart (rested : Rested s) {n : Nat} {move : Move} (moved : s.step (.move n move) = some after) :
    after.files = s.files ∧
      ∀ other, Site.step { s with files := other } (.move n move) = some { after with files := other } := by
  rcases move_cases moved with
    ⟨op, job, found, rfl, rfl⟩ | ⟨op, job, phase, ticket, transport, files, turn, found, may, acted, rfl⟩
  · exact ⟨rfl, fun other => step_ask found⟩
  · have quiet := rested.idle job.handle _ (List.mem_of_getElem? found) rfl
    obtain ⟨rfl, alike⟩ := act_apart quiet acted
    refine ⟨settle_files, ?_⟩
    intro other
    rw [step_act (s := { s with files := other }) found may (alike other)]
    cases turn <;> rfl

theorem run_apart (rested : Rested s) : Apart s := by
  intro events
  induction events generalizing s with
  | nil =>
    intro after ran
    cases ran
    exact ⟨rfl, fun _ => rfl⟩
  | cons event events ih =>
    intro after ran
    rw [List.foldlM_cons] at ran
    obtain ⟨next, moved, ran⟩ := Option.bind_eq_some_iff.mp ran
    obtain ⟨files, alike⟩ := ih (step_rested rested moved) after ran
    cases event with
    | write path bytes =>
      obtain rfl := write_cases moved
      exact ⟨files, alike⟩
    | start ended op =>
      cases moved
      exact ⟨files, alike⟩
    | move n move =>
      obtain ⟨same, apart⟩ := move_apart rested moved
      rw [same] at files
      refine ⟨files, ?_⟩
      intro other
      rw [List.filter_cons_of_pos rfl, List.foldlM_cons, apart other]
      exact alike other

end

/-! ### All operations -/

/-- The errors that a send returns before it has its file. -/
inductive Refuses : TransportError → Prop where
  | context (cause : ContextError) : Refuses (.context cause)
  | closed (name : String) : Refuses (.closed name)
  | marshal (name : String) (cause : ProtocolError) : Refuses (.marshal name cause)

/-- A call that waited when the transport was closed waits still, and is refused as soon as it has the lock, or has been
refused. -/
def Refusable (s : Site) (n : Nat) (op : Operation) (job : Job) : Prop :=
  s.calls[n]? = some ⟨op, refused⟩ ∨
  ∃ stage, s.calls[n]? = some ⟨op, stage⟩ ∧ Waits job stage ∧
    ∀ ticket, stage = .within job .queued ticket → (s.locks job.handle).isHeldBy ticket = true →
      ∃ after, s.step (.move n .go) = some after ∧ after.calls[n]? = some ⟨op, refused⟩

section
variable {s after : Site} {n closer : Nat} {op : Operation} {job : Job} {stage : Stage} {ended : Option ContextError}

private theorem start_owned (files : Config.Files) (path : String) : Owned { files, transport := { path } } := by
  refine ⟨?_, ?_, ?_⟩
  · rintro n handle phase ticket ⟨_, _, none, _⟩
    cases none
  · rintro n m handle phase other ticket ⟨_, _, none, _⟩
    cases none
  · rintro n handle phase ticket ⟨_, _, none, _⟩
    cases none

private theorem closing_of_start (owned : Owned s) (opened : s.transport.closed = false)
    (called : s.step (.start ended .close) = some after) : Closing s.calls.length after := by
  have begun : begin s.transport ended .close = (s.transport.shut, .admitted .dropWriter) := by
    rw [begin, opened]
    rfl
  have later := step_owned owned called
  rw [Site.step, Site.call, begun] at called
  cases called
  exact ⟨later, rfl, _, List.getElem?_concat_length, .begun⟩

private theorem Closing.apart (closing : Closing closer s) {reply : Reply}
    (returned : s.calls[closer]? = some ⟨.close, .finished reply⟩) : Apart s := by
  obtain ⟨stage, found, progress⟩ := closing.progress
  cases found.symm.trans returned
  cases progress with
  | returned _ writer reader =>
    apply run_apart
    refine ⟨closing.closed, ?_⟩
    intro handle
    cases handle with
    | writer => exact writer
    | reader => exact reader

/-- Whoever waits when the flag is set can be refused wherever events lead. -/
theorem refusable_of_leads (closed : s.transport.closed = true) (uses : job.uses = true)
    (found : s.calls[n]? = some ⟨op, stage⟩) (waits : Waits job stage) (led : Leads Site.step s after) :
    Refusable after n op job := by
  have kept : after.transport.closed = true ∧
      ∃ now, after.calls[n]? = some ⟨op, now⟩ ∧ (now = refused ∨ Waits job now) := by
    apply led.invariant fun s => s.transport.closed = true ∧
      ∃ now, s.calls[n]? = some ⟨op, now⟩ ∧ (now = refused ∨ Waits job now)
    · exact ⟨closed, stage, found, .inr waits⟩
    · rintro before event after ⟨closed, now, there, stands⟩ moved
      exact ⟨step_closed closed moved, step_waits closed uses there stands moved⟩
  obtain ⟨closed, now, there, rfl | waits⟩ := kept
  · exact .inl there
  · refine .inr ⟨now, there, waits, ?_⟩
    rintro ticket rfl held
    exact go_refused closed uses there held

end

/-- A send that is refused has changed no file. Once a call has closed the transport, all that is called is refused, and
so is whatever had yet to look under its lock; when that call has returned, no file is touched and none is read. -/
theorem atomic_and_final {files : Config.Files} {path : String} {passages : List (Passage Site Event)} {s : Site}
    (ran : History Site.step { files, transport := { path } } passages s) :
    (∀ n m why, s.calls[n]? = some ⟨.send m, .finished (.error why)⟩ → Refuses why →
      ∀ p ∈ passages, caller p.before p.event = some n → p.after.files = p.before.files) ∧
    ∀ p ∈ passages, ∀ ended, p.event = .start ended .close → p.before.transport.closed = false →
      (∀ reply, s.calls[p.before.calls.length]? = some ⟨.close, .finished reply⟩ → Apart s) ∧
      (∀ op, op ≠ .close → s.step (.start none op) = some { s with calls := s.calls ++ [⟨op, refused⟩] }) ∧
      ∀ n op job stage, p.after.calls[n]? = some ⟨op, stage⟩ → Waits job stage → job.uses = true →
        Refusable s n op job := by
  refine ⟨?_, ?_⟩
  · intro n m why ended refuses p member called
    apply Classical.byContradiction
    intro changed
    obtain ⟨op, stage, found, writes⟩ := history_writes ran p member n called changed
    cases found.symm.trans ended
    cases writes
    cases refuses
  · intro p member ended closes opened
    obtain ⟨came, passed, goes⟩ := ran.passage member
    rw [closes] at passed
    have owned : Owned p.before := by
      apply came.invariant Owned (start_owned files path)
      intro before event after owned moved
      exact step_owned owned moved
    have begun := closing_of_start owned opened passed
    have closing : Closing p.before.calls.length s := by
      apply goes.invariant (Closing p.before.calls.length) begun
      intro before event after closing moved
      exact step_closing closing moved
    refine ⟨?_, ?_, ?_⟩
    · intro reply returned
      exact closing.apart returned
    · intro op other
      exact call_refused closing.closed other
    · intro n op job stage found waits uses
      exact refusable_of_leads begun.closed uses found waits goes

def called : Site where
  files := fun _ => .missing
  transport := { path := "run" }
  calls := [⟨.receive, .admitted .receive⟩, ⟨.send default, .finished (.error (.context .cancelled))⟩]

/-- The receive gets its lock while the transport is being closed. -/
def overtaken : List Event := [.move 2 .go, .move 2 .go, .move 0 .go, .move 2 .go, .move 0 .go, .move 2 .go]

theorem atomic_and_final_overtaken :
    ∃ passages s, History Site.step { files := fun _ => .missing, transport := { path := "run" } } passages s ∧
      s.calls = [⟨.receive, refused⟩, ⟨.send default, .finished (.error (.context .cancelled))⟩,
        ⟨.close, .finished (.ok none)⟩] ∧
      (∀ p ∈ passages, caller p.before p.event = some 1 → p.after.files = p.before.files) ∧
      Apart s ∧ Refusable s 0 .receive .receive ∧
      s.step (.start none .receive) = some { s with calls := s.calls ++ [⟨.receive, refused⟩] } := by
  have led : Leads Site.step { files := fun _ => .missing, transport := { path := "run" } } called :=
    ⟨[.start none .receive, .start (some .cancelled) (.send default)], rfl⟩
  obtain ⟨front, ran⟩ := led.history
  let closing := called.call none .close
  have shut : called.step (.start none .close) = some closing := rfl
  obtain ⟨s, went, calls⟩ : ∃ s, overtaken.foldlM Site.step closing = some s ∧
      s.calls = [⟨.receive, refused⟩, ⟨.send default, .finished (.error (.context .cancelled))⟩,
        ⟨.close, .finished (.ok none)⟩] := ⟨_, rfl, rfl⟩
  obtain ⟨back, ran⟩ := (ran.go shut).extend ⟨overtaken, went⟩
  obtain ⟨unchanged, final⟩ := atomic_and_final ran
  let p : Passage Site Event := ⟨called, .start none .close, closing⟩
  have member : p ∈ front ++ [p] ++ back :=
    List.mem_append_left _ (List.mem_append_right _ (List.mem_singleton_self p))
  obtain ⟨apart, refuses, waiting⟩ := final p member none rfl rfl
  refine ⟨_, s, ran, calls, ?_, ?_, ?_, refuses .receive nofun⟩
  · exact unchanged 1 default _ (by rw [calls]; rfl) (.context .cancelled)
  · exact apart (.ok none) (by rw [calls]; rfl)
  · exact waiting 0 .receive .receive (.admitted .receive) rfl .admitted rfl

end Courier.Proofs.FileClosing
