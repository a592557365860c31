import Courier.Proofs.FileCalls

/-! The handles of a transport over a file. An open handle is one of a file that is there, and under a lock a job does
what the transport does at once, unless others come in between. -/

namespace Courier.Proofs.FileHandles
open FileReading FileDelivery FileCalls

/-! ### Files that are there -/

/-- A handle is open only of a file that is there. -/
def There (t : FileTransport) (files : Config.Files) : Prop :=
  t.writing = true ∨ t.reader.isSome = true → ∃ bytes, files t.path = .content bytes

section
variable {t after : FileTransport} {files later : Config.Files} {job : Job} {phase : Phase} {move : Move} {turn : Turn}

private theorem write_self (files : Config.Files) (path : String) (bytes : Bytes) :
    files.write path bytes path = .content bytes := if_pos rfl

private theorem readable_ok {bytes : Bytes} (readable : readable t files = .ok bytes) : files t.path = .content bytes := by
  unfold FileCalls.readable at readable
  split at readable <;> cases readable
  next file => exact file

private theorem sending_there {record : Bytes} {writing : Bool} (there : There t files)
    (acted : sending t files record phase move = some (writing, later, turn)) : There { t with writing } later := by
  rcases sending_cases acted with ⟨_, rfl, opens⟩ | ⟨bytes, rfl, _⟩
  · rintro (opened | reading)
    · rcases opens opened with before | file
      · exact there (.inl before)
      · exact file
    · exact there (.inr reading)
  · exact fun _ => ⟨bytes, write_self files t.path bytes⟩

private theorem receiving_there {reader : Option FileReader} (there : There t files)
    (acted : receiving t files phase move = some (reader, turn)) : There { t with reader } files := by
  unfold receiving at acted
  split at acted
  next =>
    cases acted
    exact there
  next =>
    split at acted <;> cases acted
    · exact there
    next bytes found => exact fun _ => ⟨bytes, readable_ok found⟩
  next =>
    cases acted
    exact there
  next =>
    split at acted <;> cases acted
    · exact there
    next bytes found => exact fun _ => ⟨bytes, readable_ok found⟩
  next =>
    cases acted
    exact there
  next =>
    cases acted
    exact there
  next => cases acted

private theorem act_there (there : There t files) (acted : job.act t files phase move = some (after, later, turn)) :
    There after later := by
  cases job with
  | send record =>
    obtain ⟨_, sent, same⟩ := Option.map_eq_some_iff.mp acted
    cases same
    exact sending_there there sent
  | receive =>
    obtain ⟨_, received, same⟩ := Option.map_eq_some_iff.mp acted
    cases same
    exact receiving_there there received
  | dropWriter =>
    obtain ⟨_, _, same⟩ := Option.map_eq_some_iff.mp acted
    cases same
    exact fun opened => there (.inr (opened.resolve_left Bool.false_ne_true))
  | dropReader failed =>
    obtain ⟨_, _, same⟩ := Option.map_eq_some_iff.mp acted
    cases same
    exact fun opened => there (.inl (opened.resolve_right Bool.false_ne_true))

end

section
variable {s after : Site}

private theorem begin_handles (t : FileTransport) (ended : Option ContextError) (op : Operation) :
    ∃ closed, (begin t ended op).1 = { t with closed } := by
  cases op <;> rw [begin] <;> split <;> exact ⟨_, rfl⟩

theorem step_there {event : Event} (there : There s.transport s.files) (moved : s.step event = some after) :
    There after.transport after.files := by
  cases event with
  | start ended op =>
    cases moved
    obtain ⟨closed, same⟩ := begin_handles s.transport ended op
    have transport : (s.call ended op).transport = { s.transport with closed } := same
    rw [transport]
    exact there
  | write path bytes =>
    obtain rfl := write_cases moved
    intro opened
    obtain ⟨before, file⟩ := there opened
    by_cases own : s.transport.path = path
    · exact ⟨bytes, if_pos own⟩
    · exact ⟨before, (if_neg own).trans file⟩
  | move n move =>
    rcases move_cases moved with
      ⟨op, job, _, _, rfl⟩ | ⟨op, job, phase, ticket, transport, files, turn, _, _, acted, rfl⟩
    · exact there
    · rw [settle_transport, settle_files]
      exact act_there there acted

theorem there_of_leads {files : Config.Files} {path : String}
    (reached : Leads Site.step { files, transport := { path } } s) : There s.transport s.files := by
  apply reached.invariant fun s => There s.transport s.files
  · intro opened
    rcases opened with writing | reading
    · cases writing
    · cases reading
  · intro before event after there moved
    exact step_there there moved

end

/-! ### Jobs that nobody interferes with -/

/-- A job comes to its end, from one phase of it. -/
inductive Performs (job : Job) :
    FileTransport → Config.Files → Phase → FileTransport → Config.Files → Turn → Prop where
  | ends {t after : FileTransport} {files later : Config.Files} {phase : Phase} {reply : Reply} :
      job.act t files phase .go = some (after, later, .ends reply) →
      Performs job t files phase after later (.ends reply)
  | passes {t after : FileTransport} {files later : Config.Files} {phase : Phase} {next : Job} :
      job.act t files phase .go = some (after, later, .passes next) →
      Performs job t files phase after later (.passes next)
  | stays {t middle after : FileTransport} {files between later : Config.Files} {phase next : Phase} {turn : Turn} :
      job.act t files phase .go = some (middle, between, .stays next) →
      Performs job middle between next after later turn → Performs job t files phase after later turn

section
variable {t after : FileTransport} {files later : Config.Files} {turn : Turn} {record : Bytes}

private theorem write_write (files : Config.Files) (path : String) (first second : Bytes) :
    (files.write path first).write path second = files.write path second := by
  funext other
  simp only [Config.Files.write]
  split <;> rfl

/-- Without a file no handle is open. -/
theorem There.shut (there : There t files) (other : ∀ bytes, files t.path ≠ .content bytes) :
    t.writing = false ∧ t.reader.isSome = false := by
  have closed (opened : t.writing = true ∨ t.reader.isSome = true) : False := by
    obtain ⟨bytes, same⟩ := there opened
    exact other bytes same
  exact ⟨Bool.eq_false_iff.mpr fun writing => closed (.inl writing),
    Bool.eq_false_iff.mpr fun reading => closed (.inr reading)⟩

private theorem entry_opened (opened : t.closed = false) (there : Bool) :
    entry t there = .stays (if there then .moving else .opening) := by
  rw [entry, ensureOpen_eq opened]

private theorem performs_open (opened : t.closed = false)
    (rest : Performs (.send record) t files (if t.writing then .moving else .opening) after later turn) :
    Performs (.send record) t files .queued after later turn := by
  have admitted := entry_opened opened t.writing
  exact .stays (by simp only [Job.act, sending, admitted]; rfl) rest

/-- A send that has its lock appends. -/
theorem performs_append (there : There t files) (record : Bytes) :
    match t.append files record with
    | .ok (after, later, _) => Performs (.send record) t files .queued after later (.ends (.ok none))
    | .error why => Performs (.send record) t files .queued t files (.ends (.error why)) := by
  cases closed : t.closed with
  | true =>
    have refused := entry_closed closed t.writing
    simp only [FileTransport.append, ensureOpen_closed closed]
    exact .ends (by simp only [Job.act, sending, refused]; rfl)
  | false =>
    simp only [FileTransport.append, ensureOpen_eq closed]
    cases file : files t.path with
    | content bytes =>
      have opened : (Job.send record).act t files .opening .go =
          some ({ t with writing := true }, files, .stays .moving) := by
        simp only [Job.act, sending, file]
        rfl
      have written : Performs (.send record) { t with writing := true } files .moving { t with writing := true }
          (files.write t.path (bytes ++ record)) (.ends (.ok none)) :=
        .ends (by simp only [Job.act, sending, file]; rfl)
      apply performs_open closed
      cases writing : t.writing with
      | true =>
        have same : { t with writing := true } = t := by rw [← writing]
        rw [same] at written ⊢
        exact written
      | false => exact .stays opened written
    | directory | barred =>
      have shut : t.writing = false := (there.shut (by rw [file]; intro bytes same; cases same)).1
      apply performs_open closed
      rw [shut]
      exact .ends (by simp only [Job.act, sending, file]; rfl)
    | missing =>
      have shut : t.writing = false := (there.shut (by rw [file]; intro bytes same; cases same)).1
      cases creates : files.canCreate t.path with
      | true =>
        have opened : (Job.send record).act t files .opening .go =
            some ({ t with writing := true }, files.write t.path [], .stays .moving) := by
          simp only [Job.act, sending, file, creates]
          rfl
        have written : Performs (.send record) { t with writing := true } (files.write t.path []) .moving
            { t with writing := true } (files.write t.path record) (.ends (.ok none)) := by
          apply Performs.ends
          simp only [Job.act, sending, write_self, write_write]
          rfl
        apply performs_open closed
        rw [shut]
        exact .stays opened written
      | false =>
        apply performs_open closed
        rw [shut]
        exact .ends (by simp only [Job.act, sending, file, creates, Bool.false_eq_true, if_false]; rfl)

private theorem look_inside {r after : FileReader} {content : Bytes} (looked : look r content = (none, after)) :
    r.offset < content.length := by
  rw [look] at looked
  split at looked
  next => cases looked
  next =>
    split at looked
    next => cases looked
    next b more rest =>
      have left := congrArg List.length rest
      rw [List.length_drop, List.length_cons] at left
      omega

private theorem performs_looks {t : FileTransport} {bytes : Bytes} (file : files t.path = .content bytes) :
    Performs .receive t files .moving { t with reader := some ((t.reader.getD {}).next bytes).2 } files
      (.ends ((lineResult ((t.reader.getD {}).next bytes).1).map some)) := by
  have steps := next_look (t.reader.getD {}) bytes
  rcases looked : look (t.reader.getD {}) bytes with ⟨_ | line, reader⟩ <;> simp only [looked] at steps
  · have advances := look_advances looked
    have inside := look_inside looked
    have moved : Job.receive.act t files .moving .go =
        some ({ t with reader := some reader }, files, .stays .moving) := by
      simp only [Job.act, receiving, readable, file, looked]
      rfl
    rw [steps]
    exact .stays moved (performs_looks (t := { t with reader := some reader }) file)
  · rw [steps]
    exact .ends (by simp only [Job.act, receiving, readable, file, looked]; rfl)
termination_by bytes.length - (t.reader.getD {}).offset

/-- A receive that has its lock reads a line. -/
theorem performs_read (there : There t files) :
    Performs .receive t files .queued (t.read files).2 files (.ends ((t.read files).1.map some)) := by
  cases closed : t.closed with
  | true =>
    have refused := entry_closed closed t.reader.isSome
    simp only [FileTransport.read, ensureOpen_closed closed]
    exact .ends (by simp only [Job.act, receiving, refused]; rfl)
  | false =>
    have admitted := entry_opened closed t.reader.isSome
    have queued : Job.receive.act t files .queued .go =
        some (t, files, .stays (if t.reader.isSome then .moving else .opening)) := by
      simp only [Job.act, receiving, admitted]
      rfl
    cases file : files t.path with
    | content bytes =>
      rw [read_content closed file]
      cases opened : t.reader with
      | some reader =>
        rw [opened] at queued
        rw [← opened]
        exact .stays queued (performs_looks file)
      | none =>
        rw [opened] at queued
        have opening : Job.receive.act t files .opening .go =
            some ({ t with reader := some {} }, files, .stays .moving) := by
          simp only [Job.act, receiving, readable, file]
          rfl
        exact .stays queued (.stays opening (performs_looks (t := { t with reader := some {} }) file))
    | directory | barred =>
      have shut : t.reader.isSome = false := (there.shut (by rw [file]; intro bytes same; cases same)).2
      rw [shut] at queued
      simp only [FileTransport.read, ensureOpen_eq closed, file]
      exact .stays queued (.ends (by simp only [Job.act, receiving, readable, file]; rfl))
    | missing =>
      have shut : t.reader.isSome = false := (there.shut (by rw [file]; intro bytes same; cases same)).2
      rw [shut] at queued
      rw [read_missing closed file]
      exact .stays queued (.ends (by simp only [Job.act, receiving, readable, file]; rfl))

/-- Closing lets go of both handles. -/
theorem performs_letGo (t : FileTransport) (files : Config.Files) :
    Performs .dropWriter t files .queued { t with writing := false } files (.passes (.dropReader none)) ∧
      Performs (.dropReader none) { t with writing := false } files .queued t.letGo files (.ends (.ok none)) := by
  refine ⟨?_, .ends rfl⟩
  cases writing : t.writing with
  | true => exact .stays (by simp only [Job.act, droppingWriter, writing]; rfl) (.passes rfl)
  | false => exact .passes (by simp only [Job.act, droppingWriter, writing]; rfl)

end

end Courier.Proofs.FileHandles
