import Courier.Proofs.ConfigValidity
import Courier.Proofs.TextTrimming

/-! Where a configuration comes from. The file that the environment names decides, or else the first candidate
that is seen to exist, and nothing else is looked at: what is wrong with that file is an error. Only where there is
no such file do the defaults stand in. A name in the environment that is no text counts as none, and a file whose
status cannot be read is not seen. -/

namespace Courier.Proofs.ConfigSources
open Config ConfigValidity

/-! ### The file that decides -/

def Blank (name : String) : Prop := ∀ c ∈ name.toList, Text.isBlank c = true

/-- The value of the environment variable is this text. -/
def Gives (override : Option Bytes) (name : String) : Prop :=
  ∃ bytes, override = some bytes ∧ Utf8.toString? bytes = some name

/-- The environment variable is not set, or its value is blank or no text at all. -/
def Unnamed (override : Option Bytes) : Prop := ∀ name, Gives override name → Blank name

/-- Something stands at a path, and its status can be read. -/
inductive Seen : FileState → Prop where
  | directory : Seen .directory
  | content {bytes : Bytes} : Seen (.content bytes)
  | barred {why : ReadFault} : Seen (.barred true why)

/-- Which file decides, if any does. -/
inductive Source (files : Files) (override : Option Bytes) (candidates : List String) : Option String → Prop where
  | named {file : String} (given : Gives override file) (visible : ¬ Blank file) :
      Source files override candidates (some file)
  | first {before after : List String} {file : String} (unnamed : Unnamed override)
      (listed : candidates = before ++ file :: after) (unseen : ∀ other ∈ before, ¬ Seen (files other))
      (seen : Seen (files file)) : Source files override candidates (some file)
  | nowhere (unnamed : Unnamed override) (unseen : ∀ file ∈ candidates, ¬ Seen (files file)) :
      Source files override candidates none

section
variable {files : Files} {override : Option Bytes} {candidates : List String} {file : String}
  {source : Option String}

private theorem isThere_iff {state : FileState} : state.isThere = true ↔ Seen state := by
  constructor
  · intro there
    match state, there with
    | .directory, _ => exact .directory
    | .content _, _ => exact .content
    | .barred true _, _ => exact .barred
  · intro seen
    cases seen <;> rfl

private theorem gives_iff {name : String} : override.bind Utf8.toString? = some name ↔ Gives override name :=
  Option.bind_eq_some_iff

private theorem isEmpty_trim {name : String} : (Text.trim name).isEmpty = true ↔ Blank name := by
  rw [Text.trim, String.isEmpty_iff, String.ofList_eq_empty_iff]
  exact TextTrimming.trimChars_eq_nil

private theorem chosenFile_none : chosenFile? override = none ↔ Unnamed override := by
  simp only [chosenFile?, Option.filter_eq_none_iff, Bool.not_eq_true, Bool.not_eq_false', isEmpty_trim, gives_iff]
  exact Iff.rfl

private theorem chosenFile_some : chosenFile? override = some file ↔ Gives override file ∧ ¬ Blank file := by
  rw [chosenFile?, Option.filter_eq_some_iff, gives_iff, Bool.not_eq_true', Bool.eq_false_iff, ne_eq, isEmpty_trim]

private theorem choose_source (files : Files) (override : Option Bytes) (candidates : List String) :
    Source files override candidates (choose files override candidates) := by
  unfold choose
  cases chosen : chosenFile? override with
  | some file =>
    obtain ⟨given, visible⟩ := chosenFile_some.mp chosen
    exact .named given visible
  | none =>
    have unnamed := chosenFile_none.mp chosen
    simp only
    cases found : candidates.find? fun file => (files file).isThere with
    | none =>
      apply Source.nowhere unnamed
      intro file member seen
      exact List.find?_eq_none.mp found file member (isThere_iff.mpr seen)
    | some file =>
      obtain ⟨there, before, after, listed, gone⟩ := List.find?_eq_some_iff_append.mp found
      apply Source.first unnamed listed _ (isThere_iff.mp there)
      intro other member seen
      have unseen := gone other member
      rw [isThere_iff.mpr seen] at unseen
      cases unseen

/-- No other file can decide. -/
private theorem Source.eq_choose (decides : Source files override candidates source) :
    source = choose files override candidates := by
  unfold choose
  cases decides with
  | named given visible => rw [chosenFile_some.mpr ⟨given, visible⟩]
  | @first before after file unnamed listed unseen seen =>
    have found : (candidates.find? fun file => (files file).isThere) = some file := by
      apply List.find?_eq_some_iff_append.mpr
      refine ⟨isThere_iff.mpr seen, before, after, listed, ?_⟩
      intro other member
      have gone : (files other).isThere = false := by
        rw [← Bool.not_eq_true, isThere_iff]
        exact unseen other member
      rw [gone]
      rfl
    rw [chosenFile_none.mpr unnamed, found]
  | nowhere unnamed unseen =>
    have found : (candidates.find? fun file => (files file).isThere) = none := by
      apply List.find?_eq_none.mpr
      intro file member there
      exact unseen file member (isThere_iff.mp there)
    rw [chosenFile_none.mpr unnamed, found]

private theorem isOffered_eq (files : Files) (override : Option Bytes) (candidates : List String) :
    isOffered files override candidates = (choose files override candidates).isSome := by
  unfold isOffered choose
  cases chosenFile? override with
  | some file => rfl
  | none => exact List.isSome_find?.symm

end

/-! ### What becomes of it -/

inductive Unreadable (files : Files) (file : String) : ReadFault → Prop where
  | absent (missing : files file = .missing) : Unreadable files file (files.absence file)
  | directory (found : files file = .directory) : Unreadable files file .isADirectory
  | barred {visible : Bool} {why : ReadFault} (found : files file = .barred visible why) : Unreadable files file why
  | noText {bytes : Bytes} (content : files file = .content bytes) (strange : Utf8.toString? bytes = none) :
      Unreadable files file .noText

def Holds (files : Files) (file document : String) : Prop :=
  ∃ bytes, files file = .content bytes ∧ Utf8.toString? bytes = some document

def Spells (document : String) (c : Config) : Prop := (Toml.parse? document).bind ofEntries? = some c

/-- What reading a file comes to. It depends on nothing but this file. -/
inductive Reads (files : Files) (file : String) : Except LoadError Config → Prop where
  | unreadable {why : ReadFault} (fault : Unreadable files file why) :
      Reads files file (.error (.unreadable file why))
  | unparsable {document : String} (holds : Holds files file document) (strange : ∀ c, ¬ Spells document c) :
      Reads files file (.error (.unparsable (some file)))
  | invalid {document : String} {c : Config} {fault : Fault} (holds : Holds files file document)
      (spells : Spells document c) (refused : c.validate = .error fault) :
      Reads files file (.error (.invalid fault))
  | valid {document : String} {c : Config} (holds : Holds files file document) (spells : Spells document c)
      (accepted : c.validate = .ok ()) : Reads files file (.ok c)

section
variable {files : Files} {file document : String} {c : Config} {result : Except LoadError Config}

private theorem ofFile_unreadable {why : ReadFault} (fault : Unreadable files file why) :
    ofFile files file = .error (.unreadable file why) := by
  unfold ofFile
  cases fault with
  | absent missing => rw [missing]
  | directory found => rw [found]
  | barred found => rw [found]
  | noText content strange => simp only [content, strange]

private theorem ofFile_holds (holds : Holds files file document) : ofFile files file = ofText (some file) document := by
  obtain ⟨bytes, content, text⟩ := holds
  simp only [ofFile, content, text]

private theorem ofText_spells (origin : Option String) (spells : Spells document c) :
    ofText origin document = (c.validate.mapError LoadError.invalid).map fun _ => c := by
  rw [Spells] at spells
  simp only [ofText, spells]
  cases c.validate <;> rfl

private theorem reads_iff : Reads files file result ↔ ofFile files file = result := by
  constructor
  · intro reads
    cases reads with
    | unreadable fault => exact ofFile_unreadable fault
    | unparsable holds strange =>
      rw [ofFile_holds holds, ofText, Option.eq_none_iff_forall_ne_some.mpr strange]
      rfl
    | invalid holds spells refused => rw [ofFile_holds holds, ofText_spells _ spells, refused]; rfl
    | valid holds spells accepted => rw [ofFile_holds holds, ofText_spells _ spells, accepted]; rfl
  · rintro rfl
    cases content : files file with
    | missing =>
      have fault := Unreadable.absent content
      rw [ofFile_unreadable fault]
      exact .unreadable fault
    | directory =>
      have fault := Unreadable.directory content
      rw [ofFile_unreadable fault]
      exact .unreadable fault
    | barred visible why =>
      have fault := Unreadable.barred content
      rw [ofFile_unreadable fault]
      exact .unreadable fault
    | content bytes =>
      cases text : Utf8.toString? bytes with
      | none =>
        have fault := Unreadable.noText content text
        rw [ofFile_unreadable fault]
        exact .unreadable fault
      | some document =>
        have holds : Holds files file document := ⟨bytes, content, text⟩
        rw [ofFile_holds holds]
        cases spelled : (Toml.parse? document).bind ofEntries? with
        | none =>
          rw [ofText, spelled]
          exact .unparsable holds (Option.eq_none_iff_forall_ne_some.mp spelled)
        | some c =>
          rw [ofText_spells _ spelled]
          cases checked : c.validate with
          | error fault => exact .invalid holds spelled checked
          | ok done => exact .valid holds spelled checked

end

/-- The entries of a document that sets everything, each setting to something other than its default. -/
example :
    let settings (all : List (String × Toml.Node)) : Toml.Node := .table .header all
    ofEntries?
      [("source", .text "relay"),
        ("logging", settings [("directory", .text "log"), ("format", .text "pretty"), ("file_prefix", .text "p")]),
        ("transport", settings [("channel_capacity", .integer 1), ("http_timeout_ms", .integer 2),
          ("http_inbox_capacity", .integer 3), ("http_max_body_bytes", .integer 4), ("listen", .text "10.0.0.9:5")]),
        ("retry", settings [("max_attempts", .integer 6), ("initial_wait_ms", .integer 7), ("max_wait_ms", .integer 8),
          ("multiplier", .integer 9), ("jitter", .integer 1)]),
        ("breaker", settings [("threshold", .integer 10), ("timeout_ms", .integer 11), ("half_open_max", .integer 12)]),
        ("reconnect", settings [("initial_wait_ms", .integer 13), ("max_wait_ms", .integer 14)])] =
      some
        { source := "relay", logging := ⟨some "log", .pretty, some "p"⟩
          transport := ⟨1, .ofMillis 2, 3, 4, .v4 10 0 0 9 5⟩
          retry := ⟨6, .ofMillis 7, .ofMillis 8, .ofNat 9, .ofNat 1⟩
          breaker := ⟨10, .ofMillis 11, 12⟩, reconnect := ⟨.ofMillis 13, .ofMillis 14⟩ } := by
  decide +kernel

/-! ### Loading -/

private theorem Reads.valid_of_ok {files : Files} {file : String} {c : Config} (reads : Reads files file (.ok c)) :
    c.validate = .ok () := by
  cases reads with
  | valid holds spells accepted => exact accepted

private theorem standard_valid : ({} : Config).validate = .ok () := by
  decide +kernel

section
variable {files : Files} {override : Option Bytes} {candidates : List String} {file : String} {c : Config}

private theorem loadOrDefault_nowhere (nowhere : choose files override candidates = none) :
    loadOrDefault files override candidates = .ok {} ∧
      load files override candidates = .error (.notFound candidates) := by
  constructor
  · rw [loadOrDefault, isOffered_eq, nowhere]
    rfl
  · rw [load, loadWithFile, nowhere]
    rfl

private theorem load_chosen (chosen : choose files override candidates = some file) :
    load files override candidates = ofFile files file := by
  simp only [load, loadWithFile, chosen]
  cases ofFile files file <;> rfl

private theorem loadWithFile_chosen (chosen : choose files override candidates = some file) :
    loadWithFile files override candidates = (load files override candidates).map (·, file) := by
  rw [load_chosen chosen, loadWithFile, chosen]

private theorem loadOrDefault_chosen (chosen : choose files override candidates = some file) :
    loadOrDefault files override candidates = load files override candidates := by
  rw [loadOrDefault, isOffered_eq, chosen]
  rfl

private theorem load_valid (loaded : load files override candidates = .ok c) : c.validate = .ok () := by
  cases chosen : choose files override candidates with
  | none =>
    rw [(loadOrDefault_nowhere chosen).2] at loaded
    cases loaded
  | some file =>
    rw [load_chosen chosen] at loaded
    exact (reads_iff.mpr loaded).valid_of_ok

private theorem loadOrDefault_valid (loaded : loadOrDefault files override candidates = .ok c) : c.validate = .ok () := by
  cases chosen : choose files override candidates with
  | none =>
    rw [(loadOrDefault_nowhere chosen).1] at loaded
    cases loaded
    exact standard_valid
  | some file =>
    rw [loadOrDefault_chosen chosen] at loaded
    exact load_valid loaded

end

/-- One file decides, or none. If none does, loading fails and the defaults stand in. If one does, the defaults do
not, and loading comes to what reading this file comes to, whatever else there is. All that is given out is
valid. -/
theorem seen_file_decides (files : Files) (override : Option Bytes) (candidates : List String) :
    (∃ source, Source files override candidates source ∧
      (∀ other, Source files override candidates other → other = source) ∧
      match source with
      | none =>
        loadOrDefault files override candidates = .ok {} ∧
          load files override candidates = .error (.notFound candidates)
      | some file =>
        loadOrDefault files override candidates = load files override candidates ∧
          loadWithFile files override candidates = (load files override candidates).map (·, file) ∧
          ∀ result, Reads files file result ↔ load files override candidates = result) ∧
    (∀ c, load files override candidates = .ok c → c.validate = .ok ()) ∧
    (∀ c, loadOrDefault files override candidates = .ok c → c.validate = .ok ()) ∧
    ∀ document c, ofText none document = .ok c → c.validate = .ok () := by
  refine ⟨⟨choose files override candidates, choose_source files override candidates, ?_, ?_⟩, ?_, ?_, ?_⟩
  · intro other decides
    exact decides.eq_choose
  · cases chosen : choose files override candidates with
    | none => exact loadOrDefault_nowhere chosen
    | some file =>
      refine ⟨loadOrDefault_chosen chosen, loadWithFile_chosen chosen, ?_⟩
      intro result
      rw [load_chosen chosen]
      exact reads_iff
  · intro c loaded
    exact load_valid loaded
  · intro c loaded
    exact loadOrDefault_valid loaded
  · intro document c read
    exact (ofText_valid read).1

/-- The defaults stand in for a file whose name in the environment, a slash and the byte FF, is no text, and for a
candidate that is there and whose status cannot be read. -/
theorem defaults_hide_unseen :
    (¬ ∀ override : Option Bytes,
      loadOrDefault (fun _ => .missing) override [] = load (fun _ => .missing) override [] ∨
        override = none ∨ ∃ name, Gives override name ∧ Blank name) ∧
    ¬ ∀ files : Files, loadOrDefault files none ["a"] = load files none ["a"] ∨ files "a" = .missing := by
  constructor
  · intro hidden
    rcases hidden (some [0x2F, 0xFF]) with same | unset | ⟨name, ⟨bytes, same, text⟩, _⟩
    · revert same
      decide +kernel
    · cases unset
    · cases same
      have strange : Utf8.toString? [0x2F, 0xFF] = none := by decide +kernel
      cases strange.symm.trans text
  · intro hidden
    rcases hidden fun _ => .barred false .forbidden with same | missing
    · revert same
      decide +kernel
    · cases missing

/-- The first file is no text, and the one after it is valid. -/
example :
    let files : Files := fun file => if file = "b" then .content [0xFF] else if file = "c" then .content [] else .missing
    Except.isOk (loadOrDefault files (some [0x20]) ["a", "b", "c"]) = false ∧
      loadOrDefault files none ["a", "c"] = .ok {} ∧ loadOrDefault files none ["a"] = .ok {} := by
  decide +kernel

end Courier.Proofs.ConfigSources
