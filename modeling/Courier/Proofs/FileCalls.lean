import Courier.Proofs.FileDelivery
import Courier.Proofs.Runs
import Courier.Transport.Lock

/-! Operations on a transport over a file that overlap. One lock guards the handle for writing, another one the handle
for reading. Between any two moves of an operation the others move, and so does whoever else writes files. -/

namespace Courier.Proofs.FileCalls
open FileReading FileDelivery

inductive Handle where
  | writer
  | reader
deriving DecidableEq

/-- What is left of an operation that has been let in. Closing takes away one handle after the other. -/
inductive Job where
  | send (record : Bytes)
  | receive
  | dropWriter
  /-- The text tells why what was written before could not be flushed. -/
  | dropReader (failed : Option String)

namespace Job

def handle : Job → Handle
  | send _ => .writer
  | receive => .reader
  | dropWriter => .writer
  | dropReader _ => .reader

def uses : Job → Bool
  | send _ => true
  | receive => true
  | _ => false

end Job

inductive Phase where
  /-- In line for the lock, or with the lock and yet to look whether the transport is open. -/
  | queued
  | opening
  | moving
deriving DecidableEq

inductive Stage where
  | admitted (job : Job)
  | within (job : Job) (phase : Phase) (ticket : Nat)
  | finished (reply : Reply)

structure Call where
  op : Operation
  stage : Stage

inductive Move where
  | go
  /-- The system below fails, maybe after it has taken a part of a record. -/
  | fault (taken : Nat) (text : String)
  | expire (why : ContextError)
deriving DecidableEq

/-- What a move comes to: another phase under the same lock, or the end of a job, and the lock is given up. -/
inductive Turn where
  | stays (phase : Phase)
  | ends (reply : Reply)
  | passes (next : Job)

def Turn.stage (job : Job) (ticket : Nat) : Turn → Stage
  | stays phase => .within job phase ticket
  | ends reply => .finished reply
  | passes next => .admitted next

/-! ### One move -/

section
variable (t : FileTransport) (files : Config.Files)

/-- The look at the flag of whoever has got a lock. -/
def entry (there : Bool) : Turn :=
  match t.ensureOpen with
  | .error why => .ends (.error why)
  | .ok () => .stays (if there then .moving else .opening)

def sending (record : Bytes) : Phase → Move → Option (Bool × Config.Files × Turn)
  | .queued, .go => some (t.writing, files, entry t t.writing)
  | .opening, .go =>
    match files t.path with
    | .content _ => some (true, files, .stays .moving)
    | .directory => some (t.writing, files, .ends (.error FileTransport.isADirectory))
    | .barred _ why => some (t.writing, files, .ends (.error (FileTransport.failure why.message)))
    | .missing =>
      if files.canCreate t.path then some (true, files.write t.path [], .stays .moving)
      else some (t.writing, files, .ends (.error (FileTransport.absent files t.path)))
  | .opening, .fault _ text => some (t.writing, files, .ends (.error (FileTransport.failure text)))
  | .moving, .go => some (t.writing, files.write t.path (contentOf (files t.path) ++ record), .ends (.ok none))
  | .moving, .fault taken text =>
    some (t.writing, files.write t.path (contentOf (files t.path) ++ record.take taken),
      .ends (.error (FileTransport.failure text)))
  | _, _ => none

def readable : Except TransportError Bytes :=
  match files t.path with
  | .content bytes => .ok bytes
  | .directory => .error FileTransport.isADirectory
  | .barred _ why => .error (FileTransport.failure why.message)
  | .missing => .error (FileTransport.absent files t.path)

def receiving : Phase → Move → Option (Option FileReader × Turn)
  | .queued, .go => some (t.reader, entry t t.reader.isSome)
  | .opening, .go =>
    match readable t files with
    | .error why => some (t.reader, .ends (.error why))
    | .ok _ => some (some {}, .stays .moving)
  | .opening, .fault _ text => some (t.reader, .ends (.error (FileTransport.failure text)))
  | .moving, .go =>
    match readable t files with
    | .error why => some (t.reader, .ends (.error why))
    | .ok bytes =>
      let (line, reader) := look (t.reader.getD {}) bytes
      some (some reader,
        match line with
        | none => .stays .moving
        | some line => .ends ((lineResult line).map some))
  | .moving, .fault _ text => some (t.reader, .ends (.error (FileTransport.failure text)))
  | .moving, .expire why => some (t.reader, .ends (.error (.context why)))
  | _, _ => none

/-- The handle is taken at once, and flushed if it was open. -/
def droppingWriter (writing : Bool) : Phase → Move → Option Turn
  | .queued, .go => some (if writing then .stays .moving else .passes (.dropReader none))
  | .moving, .go => some (.passes (.dropReader none))
  | .moving, .fault _ text => some (.passes (.dropReader (some text)))
  | _, _ => none

def droppingReader (failed : Option String) : Phase → Move → Option Turn
  | .queued, .go =>
    match failed with
    | none => some (.ends (.ok none))
    | some text => some (.ends (.error (FileTransport.failure text)))
  | _, _ => none

def Job.act (phase : Phase) (move : Move) : Job → Option (FileTransport × Config.Files × Turn)
  | .send record =>
    (sending t files record phase move).map fun (writing, files, turn) => ({ t with writing }, files, turn)
  | .receive => (receiving t files phase move).map fun (reader, turn) => ({ t with reader }, files, turn)
  | .dropWriter =>
    (droppingWriter t.writing phase move).map fun turn => ({ t with writing := false }, files, turn)
  | .dropReader failed =>
    (droppingReader failed phase move).map fun turn => ({ t with reader := none }, files, turn)

end

section
variable {t after : FileTransport} {files later : Config.Files} {job : Job} {phase : Phase} {move : Move} {turn : Turn}

theorem ensureOpen_closed (closed : t.closed = true) : t.ensureOpen = .error (.closed FileTransport.name) := by
  rw [FileTransport.ensureOpen, closed]
  rfl

theorem entry_closed (closed : t.closed = true) (there : Bool) :
    entry t there = .ends (.error (.closed FileTransport.name)) := by
  rw [entry, ensureOpen_closed closed]

/-- A move of a send leaves files alone, and what it opens is there, or it writes to its file. -/
theorem sending_cases {record : Bytes} {writing : Bool}
    (acted : sending t files record phase move = some (writing, later, turn)) :
    (phase ≠ .moving ∧ later = files ∧
      (writing = true → t.writing = true ∨ ∃ bytes, files t.path = .content bytes)) ∨
    ∃ bytes, later = files.write t.path bytes ∧
      (turn = .stays .moving ∨ turn = .ends (.ok none) ∨
        ∃ text, turn = .ends (.error (FileTransport.failure text))) := by
  unfold sending at acted
  split at acted
  next =>
    cases acted
    exact .inl ⟨Phase.noConfusion, rfl, .inl⟩
  next =>
    split at acted
    next bytes file =>
      cases acted
      exact .inl ⟨Phase.noConfusion, rfl, fun _ => .inr ⟨bytes, file⟩⟩
    next =>
      cases acted
      exact .inl ⟨Phase.noConfusion, rfl, .inl⟩
    next =>
      cases acted
      exact .inl ⟨Phase.noConfusion, rfl, .inl⟩
    next =>
      split at acted <;> cases acted
      · exact .inr ⟨_, rfl, .inl rfl⟩
      · exact .inl ⟨Phase.noConfusion, rfl, .inl⟩
  next =>
    cases acted
    exact .inl ⟨Phase.noConfusion, rfl, .inl⟩
  next =>
    cases acted
    exact .inr ⟨_, rfl, .inr (.inl rfl)⟩
  next taken text =>
    cases acted
    exact .inr ⟨_, rfl, .inr (.inr ⟨text, rfl⟩)⟩
  next => cases acted

theorem dropWriter_cases (acted : Job.dropWriter.act t files phase move = some (after, later, turn)) :
    phase = .queued ∧ turn = .stays .moving ∨ ∃ failed, turn = .passes (.dropReader failed) := by
  obtain ⟨_, dropped, same⟩ := Option.map_eq_some_iff.mp acted
  cases same
  unfold droppingWriter at dropped
  split at dropped
  next =>
    cases writing : t.writing <;> rw [writing] at dropped <;> cases dropped
    · exact .inr ⟨none, rfl⟩
    · exact .inl ⟨rfl, rfl⟩
  next =>
    cases dropped
    exact .inr ⟨none, rfl⟩
  next taken text =>
    cases dropped
    exact .inr ⟨some text, rfl⟩
  next => cases dropped

theorem dropReader_cases {failed : Option String}
    (acted : (Job.dropReader failed).act t files phase move = some (after, later, turn)) :
    ∃ reply, turn = .ends reply := by
  obtain ⟨_, dropped, same⟩ := Option.map_eq_some_iff.mp acted
  cases same
  unfold droppingReader at dropped
  split at dropped
  next =>
    split at dropped <;> cases dropped
    · exact ⟨_, rfl⟩
    · exact ⟨_, rfl⟩
  next => cases dropped

/-- A move changes nothing of a transport but its handles. -/
theorem act_handles (acted : job.act t files phase move = some (after, later, turn)) :
    ∃ writing reader, after = { t with writing, reader } := by
  cases job with
  | send | receive | dropWriter | dropReader =>
    obtain ⟨_, _, same⟩ := Option.map_eq_some_iff.mp acted
    cases same
    exact ⟨_, _, rfl⟩

/-- Once the transport is closed, a job that has not got further than the lock is refused. -/
theorem act_refused (closed : t.closed = true) (uses : job.uses = true)
    (acted : job.act t files .queued move = some (after, later, turn)) :
    move = .go ∧ turn = .ends (.error (.closed FileTransport.name)) := by
  have refused := entry_closed closed
  cases job with
  | dropWriter | dropReader => cases uses
  | send record | receive =>
    cases move <;> cases acted
    exact ⟨rfl, refused _⟩

/-- What is taken away is taken away without a look at files, and what is refused has not seen them. -/
theorem act_apart (quiet : job.uses = true → phase = .queued)
    (acted : job.act t files phase move = some (after, later, turn)) :
    later = files ∧ ∀ other, job.act t other phase move = some (after, other, turn) := by
  cases job with
  | send record =>
    obtain rfl := quiet rfl
    cases move <;> cases acted
    exact ⟨rfl, fun _ => rfl⟩
  | receive =>
    obtain rfl := quiet rfl
    cases move <;> cases acted
    exact ⟨rfl, fun _ => rfl⟩
  | dropWriter | dropReader =>
    obtain ⟨_, dropped, same⟩ := Option.map_eq_some_iff.mp acted
    cases same
    exact ⟨rfl, fun other => Option.map_eq_some_iff.mpr ⟨_, dropped, rfl⟩⟩

end

/-! ### All operations -/

/-- Files, a transport on one of them with its two locks, and all operations that have been called. -/
structure Site where
  files : Config.Files
  transport : FileTransport
  locks : Handle → Lock := fun _ => {}
  calls : List Call := []

inductive Event where
  | start (ended : Option ContextError) (op : Operation)
  | move (n : Nat) (move : Move)
  | write (path : String) (bytes : Bytes)

/-- What an operation does at once, before it asks for a lock. -/
def begin (t : FileTransport) (ended : Option ContextError) : Operation → FileTransport × Stage
  | .send m =>
    match t.prepare ended m with
    | .error why => (t, .finished (.error why))
    | .ok record => (t, .admitted (.send record))
  | .receive =>
    match t.enter ended with
    | .error why => (t, .finished (.error why))
    | .ok () => (t, .admitted .receive)
  | .close => if t.closed then (t, .finished (.ok none)) else (t.shut, .admitted .dropWriter)

namespace Site

def call (s : Site) (ended : Option ContextError) (op : Operation) : Site :=
  { s with
    transport := (begin s.transport ended op).1
    calls := s.calls ++ [⟨op, (begin s.transport ended op).2⟩] }

def setLock (s : Site) (handle : Handle) (lock : Lock) : Site :=
  { s with locks := fun other => if other = handle then lock else s.locks other }

def setCall (s : Site) (n : Nat) (op : Operation) (stage : Stage) : Site :=
  { s with calls := s.calls.set n ⟨op, stage⟩ }

def release (s : Site) (handle : Handle) (ticket : Nat) : Site := s.setLock handle ((s.locks handle).release ticket)

def ask (s : Site) (n : Nat) (op : Operation) (job : Job) : Site :=
  let (ticket, lock) := (s.locks job.handle).acquire
  (s.setLock job.handle lock).setCall n op (.within job .queued ticket)

def settle (s : Site) (n : Nat) (op : Operation) (job : Job) (ticket : Nat) (turn : Turn) : Site :=
  (match turn with
    | .stays _ => s
    | _ => s.release job.handle ticket).setCall n op (turn.stage job ticket)

def step (s : Site) : Event → Option Site
  | .start ended op => some (s.call ended op)
  | .move n move =>
    match s.calls[n]? with
    | some ⟨op, .admitted job⟩ => if move = .go then some (s.ask n op job) else none
    | some ⟨op, .within job phase ticket⟩ =>
      if phase = .queued ∧ ¬ (s.locks job.handle).isHeldBy ticket then none
      else
        (job.act s.transport s.files phase move).map fun (transport, files, turn) =>
          ({ s with transport, files } : Site).settle n op job ticket turn
    | _ => none
  | .write path bytes =>
    if s.files path = .directory then none else some { s with files := s.files.write path bytes }

end Site

section
variable {s after : Site} {n : Nat} {op : Operation} {job : Job} {ticket : Nat} {turn : Turn} {move : Move}

theorem settle_calls : (s.settle n op job ticket turn).calls = s.calls.set n ⟨op, turn.stage job ticket⟩ := by
  cases turn <;> rfl

theorem settle_files : (s.settle n op job ticket turn).files = s.files := by
  cases turn <;> rfl

theorem settle_transport : (s.settle n op job ticket turn).transport = s.transport := by
  cases turn <;> rfl

theorem step_ask (found : s.calls[n]? = some ⟨op, .admitted job⟩) :
    s.step (.move n .go) = some (s.ask n op job) := by
  simp [Site.step, found]

theorem step_act {phase : Phase} {transport : FileTransport} {files : Config.Files}
    (found : s.calls[n]? = some ⟨op, .within job phase ticket⟩)
    (may : phase = .queued → (s.locks job.handle).isHeldBy ticket = true)
    (acted : job.act s.transport s.files phase move = some (transport, files, turn)) :
    s.step (.move n move) = some (Site.settle { s with transport, files } n op job ticket turn) := by
  simp only [Site.step, found]
  rw [if_neg fun stuck => stuck.2 (may stuck.1), acted]
  rfl

theorem move_cases (moved : s.step (.move n move) = some after) :
    (∃ op job, s.calls[n]? = some ⟨op, .admitted job⟩ ∧ move = .go ∧ after = s.ask n op job) ∨
    ∃ op job phase ticket transport files turn, s.calls[n]? = some ⟨op, .within job phase ticket⟩ ∧
      (phase = .queued → (s.locks job.handle).isHeldBy ticket = true) ∧
      job.act s.transport s.files phase move = some (transport, files, turn) ∧
      after = ({ s with transport, files } : Site).settle n op job ticket turn := by
  simp only [Site.step] at moved
  split at moved
  next op job found =>
    split at moved <;> cases moved
    next go => exact .inl ⟨op, job, found, go, rfl⟩
  next op job phase ticket found =>
    split at moved
    next => cases moved
    next may =>
      obtain ⟨⟨transport, files, turn⟩, acted, rfl⟩ := Option.map_eq_some_iff.mp moved
      refine .inr ⟨op, job, phase, ticket, transport, files, turn, found, ?_, acted, rfl⟩
      intro queued
      exact Decidable.of_not_not fun other => may ⟨queued, other⟩
  next => cases moved

theorem write_cases {path : String} {bytes : Bytes} (moved : s.step (.write path bytes) = some after) :
    after = { s with files := s.files.write path bytes } := by
  simp only [Site.step] at moved
  split at moved <;> cases moved
  rfl

theorem call_cases {event : Event} {stage : Stage} (moved : s.step event = some after)
    (found : s.calls[n]? = some ⟨op, stage⟩) :
    after.calls[n]? = some ⟨op, stage⟩ ∨
    (∃ job ticket, stage = .admitted job ∧ after.calls[n]? = some ⟨op, .within job .queued ticket⟩) ∨
    ∃ job phase ticket move transport files turn, stage = .within job phase ticket ∧
      (phase = .queued → (s.locks job.handle).isHeldBy ticket = true) ∧
      job.act s.transport s.files phase move = some (transport, files, turn) ∧
      after.calls[n]? = some ⟨op, turn.stage job ticket⟩ := by
  cases event with
  | start ended op =>
    cases moved
    exact .inl (found_before found _)
  | write path bytes =>
    obtain rfl := write_cases moved
    exact .inl found
  | move m move =>
    by_cases own : m = n
    · subst own
      rcases move_cases moved with
        ⟨_, job, there, _, rfl⟩ | ⟨_, job, phase, ticket, transport, files, turn, there, may, acted, rfl⟩
      · cases found.symm.trans there
        exact .inr (.inl ⟨job, _, rfl, found_self found _⟩)
      · cases found.symm.trans there
        refine .inr (.inr ⟨job, phase, ticket, move, transport, files, turn, rfl, may, acted, ?_⟩)
        rw [settle_calls]
        exact found_self found _
    · left
      rcases move_cases moved with
        ⟨_, job, _, _, rfl⟩ | ⟨_, job, phase, ticket, transport, files, turn, _, _, _, rfl⟩
      · exact (List.getElem?_set_ne own).trans found
      · rw [settle_calls, List.getElem?_set_ne own]
        exact found

end

end Courier.Proofs.FileCalls
