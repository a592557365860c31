import Courier.Config

/-! Which configurations are valid, and what is known of one that was read from a text: it is valid, and its
durations are whole milliseconds that fit into a machine word. -/

namespace Courier.Proofs.ConfigValidity
open Config

/-! ### Rules -/

private theorem demand_ok {condition : Bool} {fault : Fault} : demand condition fault = .ok () ↔ condition = true := by
  cases condition <;> simp [demand]

private theorem then_ok {first next : Except Fault Unit} :
    (do first; next) = .ok () ↔ first = .ok () ∧ next = .ok () := by
  cases first with
  | error fault => exact ⟨nofun, fun both => nomatch both.1⟩
  | ok done => exact ⟨fun last => ⟨rfl, last⟩, fun both => both.2⟩

structure RetryRules (r : Config.Retry) : Prop where
  attempts : r.maxAttempts ≠ 0
  multiplier : r.multiplier.isFinite = true ∧ (Binary64.ofNat 1).le r.multiplier = true
  jitter : Binary64.zero.le r.jitter = true ∧ r.jitter.le (.ofNat 1) = true
  waits : r.initialWait ≤ r.maxWait

structure ReconnectRules (r : Config.Reconnect) : Prop where
  positive : r.initialWait.isZero = false
  waits : r.initialWait ≤ r.maxWait

private theorem retry_valid_iff {r : Config.Retry} : r.validate = .ok () ↔ RetryRules r := by
  simp only [Retry.validate, then_ok, demand_ok, Bool.and_eq_true, bne_iff_ne, decide_eq_true_eq]
  constructor
  · intro ⟨attempts, multiplier, jitter, waits⟩
    exact ⟨attempts, multiplier, jitter, waits⟩
  · intro ⟨attempts, multiplier, jitter, waits⟩
    exact ⟨attempts, multiplier, jitter, waits⟩

private theorem reconnect_valid_iff {r : Config.Reconnect} : r.validate = .ok () ↔ ReconnectRules r := by
  simp only [Reconnect.validate, then_ok, demand_ok, Bool.not_eq_true', decide_eq_true_eq]
  constructor
  · intro ⟨positive, waits⟩
    exact ⟨positive, waits⟩
  · intro ⟨positive, waits⟩
    exact ⟨positive, waits⟩

structure Rules (c : Config) : Prop where
  source : (Text.trim c.source).isEmpty = false
  transport : c.transport.validate = .ok ()
  retry : RetryRules c.retry
  breaker : c.breaker.validate = .ok ()
  reconnect : ReconnectRules c.reconnect

theorem valid_iff {c : Config} : c.validate = .ok () ↔ Rules c := by
  simp only [Config.validate, then_ok, demand_ok, retry_valid_iff, reconnect_valid_iff, Bool.not_eq_true']
  constructor
  · intro ⟨source, transport, retry, breaker, reconnect⟩
    exact ⟨source, transport, retry, breaker, reconnect⟩
  · intro ⟨source, transport, retry, breaker, reconnect⟩
    exact ⟨source, transport, retry, breaker, reconnect⟩

/-! ### Durations -/

def durations (c : Config) : List Duration :=
  [c.transport.httpTimeout, c.retry.initialWait, c.retry.maxWait, c.breaker.timeout, c.reconnect.initialWait,
    c.reconnect.maxWait]

/-- Whole milliseconds that fit into a machine word. -/
def InMillis (d : Duration) : Prop := ∃ ms < UInt64.size, d = .ofMillis ms

private theorem millis_inMillis {node : Toml.Node} {d : Duration} (read : millis? node = some d) : InMillis d := by
  obtain ⟨ms, natural, rfl⟩ := Option.map_eq_some_iff.mp read
  cases node with
  | integer i =>
    simp only [word64?, natural?] at natural
    split at natural <;> cases natural
    next bounds =>
    obtain ⟨_, small⟩ : 0 ≤ i ∧ i ≤ 18446744073709551615 := by simpa using bounds
    have inside : i.toNat < UInt64.size := by
      simp only [UInt64.size]
      omega
    exact ⟨i.toNat, inside, rfl⟩
  | _ => cases natural

theorem standard_inMillis : ∀ d ∈ durations {}, InMillis d := by
  intro d member
  simp only [durations, List.mem_cons, List.not_mem_nil, or_false] at member
  rcases member with rfl | rfl | rfl | rfl | rfl | rfl
  · exact ⟨10000, by decide, rfl⟩
  · exact ⟨100, by decide, rfl⟩
  · exact ⟨5000, by decide, rfl⟩
  · exact ⟨30000, by decide, rfl⟩
  · exact ⟨100, by decide, rfl⟩
  · exact ⟨30000, by decide, rfl⟩

/-! ### What is read -/

private theorem setting_keeps {α : Type} (property : α → Prop) {read : Toml.Node → Option α} {standard a : α}
    {node : Option Toml.Node} (usual : property standard)
    (kept : ∀ {node a}, read node = some a → property a) (found : setting read standard node = some a) :
    property a := by
  cases node with
  | none =>
    cases found
    exact usual
  | some node => exact kept found

private theorem setting_inMillis {standard d : Duration} {node : Option Toml.Node} (usual : standard ∈ durations {})
    (found : setting millis? standard node = some d) : InMillis d :=
  setting_keeps InMillis (standard_inMillis standard usual) millis_inMillis found

private theorem transport_inMillis {node : Toml.Node} {t : Config.Transport} (read : transport? node = some t) :
    InMillis t.httpTimeout := by
  simp only [transport?, Option.bind_eq_bind, Option.bind_eq_some_iff] at read
  obtain ⟨settings, _, read⟩ := read
  split at read
  next =>
    simp only [Option.bind_eq_some_iff, Option.pure_def] at read
    obtain ⟨_, _, timeout, found, _, _, _, _, _, _, same⟩ := read
    cases same
    exact setting_inMillis (by decide) found
  next => cases read

private theorem retry_inMillis {node : Toml.Node} {r : Config.Retry} (read : retry? node = some r) :
    InMillis r.initialWait ∧ InMillis r.maxWait := by
  simp only [Option.bind_eq_bind, retry?, Option.bind_eq_some_iff] at read
  obtain ⟨settings, _, read⟩ := read
  split at read
  next =>
    simp only [Option.bind_eq_some_iff, Option.pure_def] at read
    obtain ⟨_, _, initial, first, longest, last, _, _, _, _, same⟩ := read
    cases same
    exact ⟨setting_inMillis (by decide) first, setting_inMillis (by decide) last⟩
  next => cases read

private theorem breaker_inMillis {node : Toml.Node} {b : Config.Breaker} (read : breaker? node = some b) :
    InMillis b.timeout := by
  simp only [breaker?, Option.bind_eq_bind, Option.bind_eq_some_iff] at read
  obtain ⟨settings, _, read⟩ := read
  split at read
  next =>
    simp only [Option.bind_eq_some_iff, Option.pure_def] at read
    obtain ⟨_, _, timeout, found, _, _, same⟩ := read
    cases same
    exact setting_inMillis (by decide) found
  next => cases read

private theorem reconnect_inMillis {node : Toml.Node} {r : Config.Reconnect} (read : reconnect? node = some r) :
    InMillis r.initialWait ∧ InMillis r.maxWait := by
  simp only [reconnect?, Option.bind_eq_bind, Option.bind_eq_some_iff] at read
  obtain ⟨settings, _, read⟩ := read
  split at read
  next =>
    simp only [Option.bind_eq_some_iff, Option.pure_def] at read
    obtain ⟨initial, first, longest, last, same⟩ := read
    cases same
    exact ⟨setting_inMillis (by decide) first, setting_inMillis (by decide) last⟩
  next => cases read

private theorem ofEntries_inMillis {entries : Toml.Entries} {c : Config} (read : ofEntries? entries = some c) :
    ∀ d ∈ durations c, InMillis d := by
  simp only [ofEntries?, Option.bind_eq_bind, Option.bind_eq_some_iff, Option.pure_def] at read
  obtain ⟨_, _, _, _, transport, sends, retry, repeats, breaker, breaks, reconnect, redials, same⟩ := read
  cases same
  have usual (d : Duration) (member : d ∈ durations {}) : InMillis d := standard_inMillis d member
  have timeout : InMillis transport.httpTimeout :=
    setting_keeps (fun t => InMillis t.httpTimeout) (usual _ (by decide)) transport_inMillis sends
  have retries : InMillis retry.initialWait ∧ InMillis retry.maxWait :=
    setting_keeps (fun r => InMillis r.initialWait ∧ InMillis r.maxWait)
      ⟨usual _ (by decide), usual _ (by decide)⟩ retry_inMillis repeats
  have pause : InMillis breaker.timeout :=
    setting_keeps (fun b => InMillis b.timeout) (usual _ (by decide)) breaker_inMillis breaks
  have reconnects : InMillis reconnect.initialWait ∧ InMillis reconnect.maxWait :=
    setting_keeps (fun r => InMillis r.initialWait ∧ InMillis r.maxWait)
      ⟨usual _ (by decide), usual _ (by decide)⟩ reconnect_inMillis redials
  simp only [durations, List.forall_mem_cons]
  exact ⟨timeout, retries.1, retries.2, pause, reconnects.1, reconnects.2, nofun⟩

/-- A configuration that was read from a text is valid, and all its durations are whole milliseconds. -/
theorem ofText_valid {file : Option String} {document : String} {c : Config}
    (read : ofText file document = .ok c) : c.validate = .ok () ∧ ∀ d ∈ durations c, InMillis d := by
  unfold ofText at read
  split at read
  next => cases read
  next config parsed =>
    split at read <;> cases read
    next valid =>
    obtain ⟨entries, _, ofEntries⟩ := Option.bind_eq_some_iff.mp parsed
    exact ⟨valid, ofEntries_inMillis ofEntries⟩

end Courier.Proofs.ConfigValidity
