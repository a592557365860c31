import Courier.Proofs.FileDelivery

/-! Transports that share a file. Each appends records to it and reads from its start, at its own pace. The
file is what it was and the records after it. Every transport is given the same results in the same
order, those of the lines of the file, and what the others read makes no difference to it. -/

namespace Courier.Proofs.FileJournal
open LineSplitting StreamReceiving FileReading FileDelivery MessageRoundTrip

/-- A transport, whether a receive is in progress on it, and what receives have returned, the last one
last. -/
structure Client where
  transport : FileTransport
  receiving : Bool := false
  results : List Received := []

namespace Client

def enter (c : Client) : Option Client :=
  if c.receiving then none
  else
    match c.transport.enter none with
    | .error why => some { c with results := c.results ++ [.error why] }
    | .ok () => some { c with receiving := true }

def look (c : Client) (files : Config.Files) : Option Client :=
  if c.receiving then
    let (answer, transport) := lookIn c.transport files
    some { transport, receiving := answer.isNone, results := c.results ++ answer.toList }
  else none

end Client

structure Journal where
  files : Config.Files
  clients : List Client
  sent : List Sendable := []

inductive Event where
  | send (n : Nat) (m : Sendable)
  | enter (n : Nat)
  | look (n : Nat)

namespace Journal

def start (files : Config.Files) (path : String) (count : Nat) : Journal :=
  { files, clients := List.replicate count { transport := { path } } }

def replace (s : Journal) (n : Nat) (c : Client) : Journal := { s with clients := s.clients.set n c }

def step (s : Journal) : Event → Option Journal
  | .send n m =>
    s.clients[n]?.map fun c =>
      match sendIn c.transport s.files m.message with
      | .error _ => s
      | .ok (transport, files) =>
        { files, clients := s.clients.set n { c with transport }, sent := s.sent ++ [m] }
  | .enter n => s.clients[n]?.bind fun c => c.enter.map (s.replace n)
  | .look n => s.clients[n]?.bind fun c => (c.look s.files).map (s.replace n)

end Journal

theorem step_send {s : Journal} {n : Nat} {m : Sendable} {c : Client} {transport : FileTransport}
    {files : Config.Files} (found : s.clients[n]? = some c)
    (sent : sendIn c.transport s.files m.message = .ok (transport, files)) :
    s.step (.send n m) =
      some { files, clients := s.clients.set n { c with transport }, sent := s.sent ++ [m] } := by
  simp only [Journal.step, found, Option.map_some, sent]

/-- A file that is absent, or whose last line is complete. -/
inductive Appendable : Config.FileState → Prop where
  | missing : Appendable .missing
  | content {bytes : Bytes} (ends : EndsLine bytes) : Appendable (.content bytes)

def grown (original : Config.FileState) : List Sendable → Config.FileState
  | [] => original
  | sent => .content (contentOf original ++ sent.flatMap Sendable.record)

section
variable {original : Config.FileState} {sent : List Sendable}

private theorem endsLine_records (sent : List Sendable) : EndsLine (sent.flatMap Sendable.record) := by
  induction sent with
  | nil => exact .inl rfl
  | cons m sent ih => exact m.endsLine_record.append ih

private theorem Appendable.endsLine (appendable : Appendable original) : EndsLine (contentOf original) := by
  cases appendable with
  | missing => exact .inl rfl
  | content ends => exact ends

private theorem contentOf_grown (original : Config.FileState) (sent : List Sendable) :
    contentOf (grown original sent) = contentOf original ++ sent.flatMap Sendable.record := by
  cases sent with
  | nil => exact (List.append_nil _).symm
  | cons m sent => rfl

private theorem appendable_grown (appendable : Appendable original) (sent : List Sendable) :
    Appendable (grown original sent) := by
  cases sent with
  | nil => exact appendable
  | cons m sent => exact .content (appendable.endsLine.append (endsLine_records _))

private theorem grown_append (original : Config.FileState) (sent : List Sendable) (m : Sendable) :
    grown original (sent ++ [m]) = .content (contentOf (grown original sent) ++ m.record) := by
  have some : grown original (sent ++ [m]) =
      .content (contentOf original ++ (sent ++ [m]).flatMap Sendable.record) := by
    cases sent <;> rfl
  rw [some, contentOf_grown, List.flatMap_append, List.flatMap_singleton, List.append_assoc]

private theorem results_grown (appendable : Appendable original) (sent : List Sendable) :
    (split maxLineBytes (contentOf (grown original sent))).map lineResult =
      (split maxLineBytes (contentOf original)).map lineResult ++ sent.map fun m => .ok m.message := by
  have records : (split maxLineBytes (sent.flatMap Sendable.record)).map lineResult =
      sent.map fun m => .ok m.message := by
    induction sent with
    | nil => rfl
    | cons m sent ih =>
      rw [List.flatMap_cons, split_endsLine m.endsLine_record, List.map_append, m.results_record, ih]
      rfl
  rw [contentOf_grown, split_endsLine appendable.endsLine, List.map_append, records]

end

/-- The file has grown by what was sent, and everyone is somewhere in it. -/
structure Kept (original : Config.FileState) (path : String) (s : Journal) : Prop where
  file : s.files path = grown original s.sent
  clients : ∀ c ∈ s.clients, Following path (contentOf (s.files path)) c.transport c.results

section
variable {original : Config.FileState} {path : String} {s after : Journal} {c : Client}

private theorem kept_start {files : Config.Files} (appendable : Appendable (files path)) (count : Nat) :
    Kept (files path) path (.start files path count) := by
  refine ⟨rfl, ?_⟩
  intro c member
  rw [List.eq_of_mem_replicate member]
  exact following_start appendable.endsLine

private theorem Kept.replace (kept : Kept original path s) (n : Nat)
    (following : Following path (contentOf (s.files path)) c.transport c.results) :
    Kept original path (s.replace n c) := by
  refine ⟨kept.file, ?_⟩
  intro other member
  rcases List.mem_or_eq_of_mem_set member with old | rfl
  · exact kept.clients other old
  · exact following

private theorem enter_follows {content : Bytes} (following : Following path content c.transport c.results)
    {entered : Client} (entering : c.enter = some entered) :
    Following path content entered.transport entered.results := by
  have opened : c.transport.enter none = .ok () := ensureOpen_eq following.opened
  rw [Client.enter, opened] at entering
  split at entering <;> cases entering
  exact following

private theorem look_missing (following : Following path [] c.transport c.results) {files : Config.Files}
    (file : files path = .missing) {looked : Client} (looking : c.look files = some looked) :
    looked.transport = c.transport ∧
      looked.results = c.results ++ [.error (FileTransport.absent files path)] := by
  have missing : files c.transport.path = .missing := by rwa [following.path]
  rw [Client.look, lookIn_missing following.opened missing, following.path] at looking
  split at looking <;> cases looking
  exact ⟨rfl, rfl⟩

private theorem look_follows (appendable : Appendable (s.files path))
    (following : Following path (contentOf (s.files path)) c.transport c.results) {looked : Client}
    (looking : c.look s.files = some looked) :
    Following path (contentOf (s.files path)) looked.transport looked.results := by
  cases file : s.files path with
  | directory | barred =>
    rw [file] at appendable
    cases appendable
  | missing =>
    rw [file] at following
    obtain ⟨same, results⟩ := look_missing following file looking
    rw [same, results]
    refine ⟨following.path, following.opened, ?_⟩
    rw [delivered_absent]
    exact following.reads
  | content bytes =>
    rw [file] at following
    rw [Client.look] at looking
    split at looking <;> cases looking
    exact (following.look file rfl).1

theorem step_preserves (appendable : Appendable original) (kept : Kept original path s) {event : Event}
    (moved : s.step event = some after) : Kept original path after := by
  have now : Appendable (s.files path) := by
    rw [kept.file]
    exact appendable_grown appendable s.sent
  cases event with
  | enter n =>
    obtain ⟨c, found, moved⟩ := Option.bind_eq_some_iff.mp moved
    obtain ⟨entered, entering, rfl⟩ := Option.map_eq_some_iff.mp moved
    exact kept.replace n (enter_follows (kept.clients c (List.mem_of_getElem? found)) entering)
  | look n =>
    obtain ⟨c, found, moved⟩ := Option.bind_eq_some_iff.mp moved
    obtain ⟨looked, looking, rfl⟩ := Option.map_eq_some_iff.mp moved
    exact kept.replace n (look_follows now (kept.clients c (List.mem_of_getElem? found)) looking)
  | send n m =>
    obtain ⟨c, found, moved⟩ := Option.map_eq_some_iff.mp moved
    have following := kept.clients c (List.mem_of_getElem? found)
    split at moved <;> cases moved
    next => exact kept
    next transport files sent =>
      obtain ⟨rfl, rfl⟩ := sendIn_ok sent
      have grew : Config.Files.write s.files c.transport.path
          (contentOf (s.files c.transport.path) ++ m.record) path =
          .content (contentOf (s.files path) ++ m.record) := by
        rw [following.path]
        exact if_pos rfl
      -- The record comes after all that anyone has before them; the sender's reader stays where it is.
      refine ⟨grew.trans ?_, ?_⟩
      · rw [grown_append, kept.file]
      · intro other member
        simp only [grew]
        rcases List.mem_or_eq_of_mem_set member with old | rfl
        · exact (kept.clients other old).append now.endsLine m _
        · exact following.append now.endsLine m true

theorem reachable_kept {files : Config.Files} {count : Nat} (appendable : Appendable (files path))
    (reached : Leads Journal.step (.start files path count) s) : Kept (files path) path s := by
  apply reached.invariant (Kept (files path) path) (kept_start appendable count)
  intro before event after kept moved
  exact step_preserves appendable kept moved

/-- The results of all lines of a file after sends. -/
def lineResults (original : Config.FileState) (sent : List Sendable) : List Received :=
  (split maxLineBytes (contentOf original)).map lineResult ++ sent.map fun m => .ok m.message

private theorem isOfLine_lineResults (original : Config.FileState) (sent : List Sendable) :
    ∀ result ∈ lineResults original sent, isOfLine result = true := by
  intro result member
  rcases List.mem_append.mp member with old | new
  · obtain ⟨line, there, rfl⟩ := List.mem_map.mp old
    apply isOfLine_lineResult
    rintro rfl
    exact finished_not_mem_split _ _ there
  · obtain ⟨m, _, rfl⟩ := List.mem_map.mp new
    rfl

private theorem nextResult_end {lines results : List Received} (known : ∀ result ∈ lines, isOfLine result = true)
    (before : delivered results <+: lines) :
    nextResult lines results = .error .noMoreMessages ↔ delivered results = lines := by
  obtain ⟨rest, rfl⟩ := before
  cases rest with
  | nil => simp [nextResult]
  | cons next rest =>
    have other : next ≠ .error .noMoreMessages := by
      rintro rfl
      exact absurd (known _ (List.mem_append_right _ List.mem_cons_self)) Bool.false_ne_true
    simp [nextResult, other]

/-- What a receive returns that now comes to its end, and how it leaves the transport. -/
def Answers (path : String) (lines : List Received) (s : Journal) (c : Client) (result : Received)
    (after : FileTransport) : Prop :=
  match s.files path with
  | .content _ => result = nextResult lines c.results ∧
    (result = .error .noMoreMessages ↔ delivered c.results = lines)
  | _ => result = .error (FileTransport.absent s.files path) ∧ after = c.transport

private theorem Kept.delivered_lines (appendable : Appendable original) (kept : Kept original path s)
    (member : c ∈ s.clients) : delivered c.results <+: lineResults original s.sent := by
  have before := (kept.clients c member).begins
  rwa [kept.file, results_grown appendable] at before

private theorem Kept.answers (appendable : Appendable original) (kept : Kept original path s) (member : c ∈ s.clients)
    {result : Received} {after : FileTransport}
    (ends : c.transport.read s.files = (result, after) ∨ lookIn c.transport s.files = (some result, after)) :
    Answers path (lineResults original s.sent) s c result after := by
  have following := kept.clients c member
  have now := appendable_grown appendable s.sent
  rw [← kept.file] at now
  have lines : lineResults original s.sent =
      (split maxLineBytes (contentOf (s.files path))).map lineResult := by
    rw [kept.file]
    exact (results_grown appendable s.sent).symm
  have before := kept.delivered_lines appendable member
  have known := isOfLine_lineResults original s.sent
  rw [lines] at before known ⊢
  rw [Answers]
  cases file : s.files path with
  | directory | barred =>
    rw [file] at now
    cases now
  | missing =>
    have missing : s.files c.transport.path = .missing := by rwa [following.path]
    rcases ends with whole | last
    · rw [read_missing following.opened missing, following.path] at whole
      cases whole
      exact ⟨rfl, rfl⟩
    · rw [lookIn_missing following.opened missing, following.path] at last
      cases last
      exact ⟨rfl, rfl⟩
  | content bytes =>
    rw [file] at following
    have next : result = nextResult ((split maxLineBytes bytes).map lineResult) c.results := by
      rcases ends with whole | last
      · exact (congrArg Prod.fst whole).symm.trans (following.read file)
      · exact (following.look file last).2 result rfl
    rw [file] at before known
    refine ⟨next, ?_⟩
    rw [next]
    exact nextResult_end known before

end

/-! ### What the others read -/

/-- Whether an event is a send, or an event of one transport. -/
def Event.concerns (n : Nat) : Event → Bool
  | .send _ _ => true
  | .enter k => k = n
  | .look k => k = n

def Client.writer (c : Client) : FileTransport := { c.transport with reader := none }

/-- States that differ in what others than one transport have read. -/
structure Alike (n : Nat) (s other : Journal) : Prop where
  files : other.files = s.files
  sent : other.sent = s.sent
  writers : other.clients.map Client.writer = s.clients.map Client.writer
  own : other.clients[n]? = s.clients[n]?

section
variable {n : Nat} {s other after : Journal} {c d : Client}

private theorem enter_writer (entering : c.enter = some d) : d.writer = c.writer := by
  rw [Client.enter] at entering
  split at entering
  · cases entering
  · split at entering <;> cases entering <;> rfl

private theorem lookIn_writer (t : FileTransport) (files : Config.Files) :
    { (lookIn t files).2 with reader := none } = { t with reader := none } := by
  unfold lookIn
  cases t.ensureOpen with
  | error why => rfl
  | ok _ => cases files t.path <;> rfl

private theorem look_writer {files : Config.Files} (looking : c.look files = some d) : d.writer = c.writer := by
  rw [Client.look] at looking
  split at looking <;> cases looking
  exact lookIn_writer c.transport files

private theorem sendIn_writer (t : FileTransport) (files : Config.Files) (m : Message) :
    sendIn t files m =
      (sendIn { t with reader := none } files m).map fun (after, files) =>
        ({ after with reader := t.reader }, files) := by
  have prepares : FileTransport.prepare { t with reader := none } none m = t.prepare none m := rfl
  unfold sendIn
  rw [prepares]
  cases t.prepare none m with
  | error why => rfl
  | ok record =>
    have opens : FileTransport.ensureOpen { t with reader := none } = t.ensureOpen := rfl
    simp only [FileTransport.append, opens]
    cases t.ensureOpen with
    | error why => rfl
    | ok _ =>
      cases file : files t.path with
      | directory | barred | content => rfl
      | missing =>
        cases files.canCreate t.path <;> rfl

private theorem set_same {α : Type} {items : List α} {k : Nat} {a : α} (found : items[k]? = some a) :
    items.set k a = items := by
  obtain ⟨inside, rfl⟩ := List.getElem?_eq_some_iff.mp found
  exact List.set_getElem_self inside

private theorem map_set_writer {clients : List Client} {k : Nat} (found : clients[k]? = some c)
    (same : d.writer = c.writer) : (clients.set k d).map Client.writer = clients.map Client.writer := by
  rw [List.map_set, same]
  apply set_same
  rw [List.getElem?_map, found]
  rfl

private theorem Alike.replace_other (alike : Alike n s other) {k : Nat} (found : s.clients[k]? = some c)
    (same : d.writer = c.writer) (others : k ≠ n) : Alike n (s.replace k d) other := by
  refine ⟨alike.files, alike.sent, ?_, ?_⟩
  · rw [Journal.replace, map_set_writer found same]
    exact alike.writers
  · rw [alike.own, Journal.replace, List.getElem?_set_ne others]

private theorem Alike.replace (alike : Alike n s other) (k : Nat) (same : d.writer = c.writer) (own : k = n → d = c) :
    Alike n (s.replace k c) (other.replace k d) := by
  refine ⟨alike.files, alike.sent, ?_, ?_⟩
  · simp only [Journal.replace, List.map_set, same, alike.writers]
  · by_cases here : k = n
    · rw [own here, here]
      simp only [Journal.replace, List.getElem?_set_self', alike.own]
    · simp only [Journal.replace, List.getElem?_set_ne here, alike.own]

private theorem Alike.found (alike : Alike n s other) {k : Nat} (found : s.clients[k]? = some c) :
    ∃ d, other.clients[k]? = some d ∧ d.writer = c.writer ∧ (k = n → d = c) := by
  have same : (other.clients.map Client.writer)[k]? = some c.writer := by
    rw [alike.writers, List.getElem?_map, found]
    rfl
  rw [List.getElem?_map] at same
  obtain ⟨d, there, writer⟩ := Option.map_eq_some_iff.mp same
  refine ⟨d, there, writer, ?_⟩
  rintro rfl
  rw [alike.own, found] at there
  exact (Option.some.inj there).symm

/-- What a transport does for itself alone, whether it starts a receive or looks. -/
theorem Alike.turn (alike : Alike n s other) {k : Nat} {act : Client → Option Client}
    (reads : ∀ c d, act c = some d → d.writer = c.writer)
    (moved : (s.clients[k]?.bind fun c => (act c).map (s.replace k)) = some after) :
    if k = n then ∃ next, (other.clients[k]?.bind fun c => (act c).map (other.replace k)) = some next ∧
      Alike n after next
    else Alike n after other := by
  obtain ⟨c, found, moved⟩ := Option.bind_eq_some_iff.mp moved
  obtain ⟨d, acting, rfl⟩ := Option.map_eq_some_iff.mp moved
  split
  next here =>
    subst here
    have there : other.clients[k]? = some c := alike.own.trans found
    refine ⟨other.replace k d, ?_, alike.replace k rfl fun _ => rfl⟩
    simp only [there, Option.bind_some, acting, Option.map_some]
  next others => exact alike.replace_other found (reads c d acting) others

/-- A send is seen by all alike, and what others read is not seen at all. -/
theorem Alike.step (alike : Alike n s other) {event : Event} (moved : s.step event = some after) :
    if event.concerns n then ∃ next, other.step event = some next ∧ Alike n after next
    else Alike n after other := by
  cases event with
  | send k m =>
    obtain ⟨c, found, moved⟩ := Option.map_eq_some_iff.mp moved
    obtain ⟨d, there, writer, own⟩ := alike.found found
    refine ⟨_, Option.map_eq_some_iff.mpr ⟨d, there, rfl⟩, ?_⟩
    -- The senders may have read different parts of the file, which sending does not look at.
    have same : sendIn { d.transport with reader := none } s.files m.message =
        sendIn { c.transport with reader := none } s.files m.message :=
      congrArg (fun t => sendIn t s.files m.message) writer
    rw [sendIn_writer] at moved
    rw [alike.files, sendIn_writer, same]
    cases sending : sendIn { c.transport with reader := none } s.files m.message with
    | error why =>
      rw [sending] at moved
      cases moved
      exact alike
    | ok pair =>
      rw [sending] at moved
      cases moved
      have both : Alike n (s.replace k { c with transport := { pair.1 with reader := c.transport.reader } })
          (other.replace k { d with transport := { pair.1 with reader := d.transport.reader } }) := by
        refine alike.replace k rfl ?_
        intro here
        rw [own here]
      exact ⟨rfl, congrArg (· ++ [m]) alike.sent, both.writers, both.own⟩
  | enter k =>
    simp only [Event.concerns, decide_eq_true_eq]
    exact alike.turn (fun _ _ => enter_writer) moved
  | look k =>
    simp only [Event.concerns, decide_eq_true_eq, Journal.step, alike.files]
    exact alike.turn (fun _ _ => look_writer) moved

/-- Whoever leaves out what the others have read comes to the same file and the same transport. -/
theorem Alike.run (alike : Alike n s other) {events : List Event}
    (ran : events.foldlM Journal.step s = some after) :
    ∃ next, (events.filter (Event.concerns n)).foldlM Journal.step other = some next ∧
      Alike n after next := by
  induction events generalizing s other with
  | nil =>
    cases ran
    exact ⟨other, rfl, alike⟩
  | cons event events ih =>
    rw [List.foldlM_cons] at ran
    obtain ⟨middle, moved, ran⟩ := Option.bind_eq_some_iff.mp ran
    have step := alike.step moved
    by_cases concerned : event.concerns n = true
    · rw [if_pos concerned] at step
      obtain ⟨next, there, alike⟩ := step
      obtain ⟨last, rest, alike⟩ := ih alike ran
      refine ⟨last, ?_, alike⟩
      rw [List.filter_cons_of_pos concerned, List.foldlM_cons, there]
      exact rest
    · rw [if_neg concerned] at step
      rw [List.filter_cons_of_neg concerned]
      exact ih step ran

end

/-- The file is always what it was and the records of the sends that have succeeded. Every transport delivers
the results of the lines from the first on, each once. A receive gives the next of them, or the end if
there is none, and before the file exists it fails and changes nothing. What the others read makes no
difference to any of this. -/
theorem delivers_journal {files : Config.Files} {path : String} {count : Nat} {events : List Event}
    {s : Journal} (appendable : Appendable (files path))
    (ran : events.foldlM Journal.step (.start files path count) = some s) :
    let lines := lineResults (files path) s.sent
    s.files path = grown (files path) s.sent ∧
      (∀ c ∈ s.clients, delivered c.results <+: lines) ∧
      (∀ c ∈ s.clients, ∀ result after,
        c.transport.read s.files = (result, after) ∨ lookIn c.transport s.files = (some result, after) →
          Answers path lines s c result after) ∧
      ∀ n, ∃ other, (events.filter (Event.concerns n)).foldlM Journal.step (.start files path count) =
          some other ∧
        other.files = s.files ∧ other.sent = s.sent ∧ other.clients[n]? = s.clients[n]? := by
  have kept := reachable_kept appendable ⟨events, ran⟩
  refine ⟨kept.file, ?_, ?_, ?_⟩
  · intro c member
    exact kept.delivered_lines appendable member
  · intro c member result after ends
    exact kept.answers appendable member ends
  · intro n
    obtain ⟨other, alone, alike⟩ := Alike.run ⟨rfl, rfl, rfl, rfl⟩ ran
    exact ⟨other, alone, alike.files, alike.sent, alike.own⟩

def awkwardRecord : Sendable where
  message := awkward
  wire := Message.codec.write awkward
  marshaled := marshal_eq awkward_writable
  writable := awkward_writable
  version := by decide
  id := by decide
  source := by decide
  kind := by decide
  unbroken := by decide +kernel
  short := by decide +kernel

/-- After a send into a file that holds a blank line, both transports have the message before them. -/
theorem delivers_journal_awkward :
    Appendable (.content [0x0A]) ∧
      ∃ s, [Event.send 1 awkwardRecord].foldlM Journal.step (.start (fun _ => .content [0x0A]) "run" 2) =
          some s ∧
        s.clients.length = 2 ∧ ∀ c ∈ s.clients, (c.transport.read s.files).1 = .ok awkward := by
  let files : Config.Files := fun _ => .content [0x0A]
  have appendable : Appendable (files "run") := .content (.inr rfl)
  have file : files "run" = .content [0x0A] := rfl
  have sends := sendIn_content (t := { path := "run" }) rfl file awkwardRecord
  obtain ⟨s, moved, clients, sent⟩ :
      ∃ s, Journal.step (.start files "run" 2) (.send 1 awkwardRecord) = some s ∧
        s.clients = (List.replicate 2 { transport := { path := "run" } }).set 1
          { transport := { path := "run", writing := true } } ∧ s.sent = [awkwardRecord] :=
    ⟨_, step_send rfl sends, rfl, rfl⟩
  have ran : [Event.send 1 awkwardRecord].foldlM Journal.step (.start files "run" 2) = some s := by
    rw [List.foldlM_cons, moved]
    rfl
  refine ⟨appendable, s, ran, by rw [clients]; rfl, ?_⟩
  intro c member
  obtain ⟨file, _, answers, _⟩ := delivers_journal appendable ran
  rcases whole : c.transport.read s.files with ⟨result, after⟩
  have next := answers c member result after (.inl whole)
  have fresh : c.results = [] := by
    rw [clients] at member
    rcases List.mem_or_eq_of_mem_set member with other | rfl
    · rw [List.eq_of_mem_replicate other]
    · rfl
  have lines : lineResults (files "run") [awkwardRecord] = [.ok awkward] := rfl
  rw [sent] at file next
  rw [Answers, file, fresh, lines] at next
  exact next.1

end Courier.Proofs.FileJournal
