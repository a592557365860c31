import Courier.Proofs.JsonReadings

/-! What records are read from. An object has the members that are given, each once, among others that are passed
over; a list has the first members in order. Whatever is not given has a default. -/

namespace Courier.Proofs.JsonListings
open Json JsonGrammar JsonScanning JsonAcceptance JsonStrings JsonRecords JsonObjects JsonOrigins JsonReadings

/-! ### Between members -/

private theorem blanks_of_skipBlanks {bytes rest : Bytes} (start : skipBlanks bytes = rest) :
    ∃ blanks, Blank blanks ∧ bytes = blanks ++ rest := by
  obtain ⟨blanks, blank, same, -⟩ := skipBlanks_cases bytes
  exact ⟨blanks, blank, start ▸ same⟩

private theorem readColon_ok {bytes rest : Bytes} (read : readColon bytes = .ok rest) :
    ∃ after, Blank after ∧ bytes = after ++ (ascii ":" ++ rest) := by
  unfold readColon at read
  split at read
  next => cases read
  next b left start =>
    split at read
    next colon =>
      cases read
      subst colon
      exact blanks_of_skipBlanks start
    next => cases read

private theorem readEnd_ok {bracket : UInt8} {bytes rest : Bytes} (read : readEnd bracket bytes = .ok rest) :
    ∃ blanks, Blank blanks ∧ bytes = blanks ++ bracket :: rest := by
  unfold readEnd at read
  split at read
  next => cases read
  next b left start =>
    split at read
    next same =>
      cases read
      subst same
      exact blanks_of_skipBlanks start
    next => cases read

private theorem nextItem_some {first : Bool} {bytes item : Bytes} (next : nextItem first bytes = .ok (some item)) :
    ∃ behind before, Blank behind ∧ Blank before ∧ bytes = behind ++ (comma first ++ (before ++ item)) := by
  unfold nextItem at next
  split at next
  next => cases next
  next b rest start =>
    obtain ⟨behind, blank, same⟩ := blanks_of_skipBlanks start
    split at next
    next => cases next
    split at next
    next isFirst =>
      cases next
      rw [isFirst]
      exact ⟨behind, [], blank, blank_nil, same⟩
    next isFirst =>
      rw [Bool.not_eq_true] at isFirst
      split at next
      next isComma =>
        split at next
        next => cases next
        next c left start =>
          obtain ⟨before, solid, after⟩ := blanks_of_skipBlanks start
          split at next
          next => cases next
          next =>
            cases next
            rw [isFirst, same, after, isComma]
            exact ⟨behind, before, blank, solid, rfl⟩
      next => cases next

private theorem nextItem_none {first : Bool} {bytes : Bytes} (next : nextItem first bytes = .ok none) :
    ∃ blanks rest, Blank blanks ∧ bytes = blanks ++ 0x5D :: rest := by
  unfold nextItem at next
  split at next
  next => cases next
  next b rest start =>
    obtain ⟨blanks, blank, same⟩ := blanks_of_skipBlanks start
    split at next
    next ends => exact ⟨blanks, rest, blank, ends ▸ same⟩
    repeat' split at next
    all_goals cases next

private theorem nextName_some {first : Bool} {bytes rest : Bytes} {name : String}
    (next : nextName first bytes = .ok (some (name, rest))) :
    ∃ behind before body, Blank behind ∧ Blank before ∧ Spells body name.toList ∧
      bytes = behind ++ (comma first ++ (before ++ (quoted body ++ rest))) := by
  have named {b : UInt8} {left : Bytes}
      (found : (if b = 0x22 then (readString left).map some else .error .unnamedMember) =
        .ok (some (name, rest))) : ∃ body, Spells body name.toList ∧ b :: left = quoted body ++ rest := by
    split at found
    next quote =>
      cases read : readString left with
      | error why =>
        rw [read] at found
        cases found
      | ok result =>
        rw [read] at found
        cases found
        obtain ⟨body, same, spelled⟩ := readString_spelled read
        exact ⟨body, spelled, by rw [quoted_append, same, quote]⟩
    next => cases found
  unfold nextName at next
  dsimp only at next
  split at next
  next => cases next
  next b left start =>
    obtain ⟨behind, blank, same⟩ := blanks_of_skipBlanks start
    split at next
    next => cases next
    split at next
    next isFirst =>
      obtain ⟨body, spelled, shape⟩ := named next
      rw [isFirst, same, shape]
      exact ⟨behind, [], body, blank, blank_nil, spelled, rfl⟩
    next isFirst =>
      rw [Bool.not_eq_true] at isFirst
      split at next
      next isComma =>
        split at next
        next c left start =>
          obtain ⟨before, solid, after⟩ := blanks_of_skipBlanks start
          split at next
          next => cases next
          next =>
            obtain ⟨body, spelled, shape⟩ := named next
            rw [isFirst, same, after, isComma, shape]
            exact ⟨behind, before, body, blank, solid, spelled, rfl⟩
        next => cases next
      next => cases next

/-! ### Members -/

def Yielding (depth : Nat) : {types : List Type} → Members types → Styles types → Prop
  | _, .nil, () => True
  | _, .cons _ codec _ _ more, (style, styles) => Yields (codec.read depth) style ∧ Yielding depth more styles

/-- The members that have been read so far, under their names in the order of the declaration. -/
def Stored : {types : List Type} → Members types → Styles types → Slots types → List (String × Bytes) → Prop
  | _, .nil, (), (), given => given = []
  | _, .cons name _ _ _ more, (style, styles), (slot, slots), given =>
    slot = none ∧ Stored more styles slots given ∨
    ∃ a value rest, slot = some a ∧ given = (name, value) :: rest ∧ style value a ∧ Stored more styles slots rest

section
variable {types : List Type} {members : Members types} {styles : Styles types} {depth : Nat}

private theorem stored_empty : Stored members styles members.empty [] := by
  induction members with
  | nil => rfl
  | cons name codec absent omits more ih => exact .inl ⟨rfl, ih⟩

/-- What becomes of the members that were read so far with a further one: it is stored in its place among them, or
it is none of the record and is passed over. -/
inductive Keeps (members : Members types) (styles : Styles types) (name : String) (value : Bytes)
    (given : List (String × Bytes)) (after : Slots types) : Prop where
  | stored {more : List (String × Bytes)} : more.Perm ((name, value) :: given) → Stored members styles after more →
      Keeps members styles name value given after
  | passed : name ∉ names members → Derives .value value → Stored members styles after given →
      Keeps members styles name value given after

section
variable {α : Type} {own name : String} {codec : Codec α} {absent : Option α} {omits : α → Bool}
  {style : Bytes → α → Prop} {value : Bytes} {given : List (String × Bytes)} {after : Slots types}

private theorem not_mem_names_cons (different : own ≠ name) (unknown : name ∉ names members) :
    name ∉ names (.cons own codec absent omits members) := fun listed =>
  (List.mem_cons.mp listed).elim (fun same => different same.symm) unknown

private theorem Keeps.behind_none (kept : Keeps members styles name value given after) (different : own ≠ name) :
    @Keeps (α :: types) (.cons own codec absent omits members) (style, styles) name value given (none, after) := by
  cases kept with
  | stored order stored => exact .stored order (.inl ⟨rfl, stored⟩)
  | passed unknown derived stored =>
    exact .passed (not_mem_names_cons different unknown) derived (.inl ⟨rfl, stored⟩)

private theorem Keeps.behind_some {a : α} {text : Bytes} (kept : Keeps members styles name value given after)
    (different : own ≠ name) (spelled : style text a) :
    @Keeps (α :: types) (.cons own codec absent omits members) (style, styles) name value ((own, text) :: given)
      (some a, after) := by
  cases kept with
  | stored order stored =>
    have order := (order.cons (own, text)).trans (List.Perm.swap _ _ _)
    exact .stored order (.inr ⟨a, text, _, rfl, rfl, spelled, stored⟩)
  | passed unknown derived stored =>
    exact .passed (not_mem_names_cons different unknown) derived (.inr ⟨a, text, given, rfl, rfl, spelled, stored⟩)

end

/-- Behind the name of a member stand a colon and a value. -/
theorem readNamed_keeps (yielding : Yielding depth members styles) {name : String} {bytes rest : Bytes}
    {slots after : Slots types} {given : List (String × Bytes)} (stored : Stored members styles slots given)
    (read : members.readNamed depth name bytes slots = .ok (after, rest)) :
    ∃ behind between value, Blank behind ∧ Blank between ∧
      bytes = behind ++ (ascii ":" ++ (between ++ (value ++ rest))) ∧
      Keeps members styles name value given after := by
  induction members generalizing rest given with
  | nil =>
    obtain ⟨colon, found, read⟩ := ok_of_bind read
    obtain ⟨left, passed, read⟩ := ok_of_bind read
    cases read
    obtain ⟨behind, behind_blank, rfl⟩ := readColon_ok found
    obtain ⟨between, value, between_blank, derived, rfl⟩ := skipValue_derives passed
    exact ⟨behind, between, value, behind_blank, between_blank, rfl, .passed List.not_mem_nil derived stored⟩
  | cons own codec absent omits more ih =>
    obtain ⟨slot, slots⟩ := slots
    obtain ⟨style, styles⟩ := styles
    obtain ⟨yields, others⟩ := yielding
    rw [Members.readNamed] at read
    split at read
    next same =>
      subst same
      split at read
      next => cases read
      next empty =>
        obtain ⟨colon, found, read⟩ := ok_of_bind read
        obtain ⟨⟨a, left⟩, valued, read⟩ := ok_of_bind read
        cases read
        obtain ⟨behind, behind_blank, rfl⟩ := readColon_ok found
        obtain ⟨between, value, between_blank, spelled, rfl⟩ := yields _ _ _ valued
        refine ⟨behind, between, value, behind_blank, between_blank, rfl, .stored (List.Perm.refl _) ?_⟩
        rcases stored with ⟨-, stored⟩ | ⟨b, _, _, rfl, -⟩
        · exact .inr ⟨a, value, given, rfl, rfl, spelled, stored⟩
        · exact absurd rfl empty
    next different =>
      obtain ⟨⟨filled, left⟩, found, read⟩ := ok_of_bind read
      cases read
      rcases stored with ⟨rfl, stored⟩ | ⟨a, held, given, rfl, rfl, spelled, stored⟩
      · obtain ⟨behind, between, value, behind_blank, between_blank, same, kept⟩ := ih others stored found
        exact ⟨behind, between, value, behind_blank, between_blank, same, kept.behind_none different⟩
      · obtain ⟨behind, between, value, behind_blank, between_blank, same, kept⟩ := ih others stored found
        exact ⟨behind, between, value, behind_blank, between_blank, same, kept.behind_some different spelled⟩

private theorem complete_spelled {slots : Slots types} {tuple : Tuple types} {given : List (String × Bytes)}
    (stored : Stored members styles slots given) (complete : members.complete slots = .ok tuple) :
    Spelled members styles tuple given := by
  induction members generalizing given with
  | nil => exact stored
  | cons name codec absent omits more ih =>
    obtain ⟨slot, slots⟩ := slots
    obtain ⟨style, styles⟩ := styles
    have rest (a : _) (same : (more.complete slots).map (a, ·) = .ok tuple) :
        ∃ later, tuple = (a, later) ∧ more.complete slots = .ok later := by
      cases found : more.complete slots with
      | error why =>
        rw [found] at same
        cases same
      | ok later =>
        rw [found] at same
        cases same
        exact ⟨later, rfl, rfl⟩
    rcases stored with ⟨rfl, stored⟩ | ⟨a, value, given, rfl, rfl, spelled, stored⟩
    · cases absent with
      | none => cases complete
      | some a =>
        obtain ⟨later, rfl, found⟩ := rest a complete
        exact .inr ⟨rfl, ih stored found⟩
    · obtain ⟨later, rfl, found⟩ := rest a complete
      exact .inl ⟨value, given, rfl, spelled, ih stored found⟩

/-! ### Objects -/

/-- What an object lists are the members that were read, and others that were passed over. -/
def Sorts (members : Members types) (styles : Styles types) (listed : List (String × Bytes))
    (slots : Slots types) : Prop :=
  ∃ given others, Stored members styles slots given ∧
    (∀ entry ∈ others, entry.1 ∉ names members ∧ Derives .value entry.2) ∧ listed.Perm (given ++ others)

/-- The rest of an object, up to its closing brace and what is behind it. -/
inductive Unclosed (first : Bool) (tail : Bytes) : List (String × Bytes) → Bytes → Prop where
  | ended {blanks : Bytes} : Blank blanks → Unclosed first tail [] (blanks ++ 0x7D :: tail)
  | listed {behind inner : Bytes} {entries : List (String × Bytes)} : Blank behind → Entries entries inner →
      Unclosed first tail entries (behind ++ (comma first ++ (inner ++ 0x7D :: tail)))

private theorem Unclosed.entry {first : Bool} {tail behind before body after between value left : Bytes} {name : String}
    {entries : List (String × Bytes)} (behind_blank : Blank behind) (before_blank : Blank before)
    (spelled : Spells body name.toList) (after_blank : Blank after) (between_blank : Blank between)
    (others : Unclosed false tail entries left) :
    Unclosed first tail ((name, value) :: entries)
      (behind ++ (comma first ++
        (before ++ (quoted body ++ (after ++ (ascii ":" ++ (between ++ (value ++ left)))))))) := by
  cases others with
  | @ended blanks blank =>
    have listed : Unclosed first tail [(name, value)] _ :=
      .listed behind_blank (.last (.of before_blank spelled after_blank between_blank blank))
    simpa only [List.append_assoc] using listed
  | @listed blanks inner _ blank entries =>
    have listed : Unclosed first tail ((name, value) :: _) _ :=
      .listed behind_blank (.more (.of before_blank spelled after_blank between_blank blank) entries)
    simp only [List.append_assoc] at listed
    exact listed

private theorem readNames_listed (yielding : Yielding depth members styles) {fuel bytes rest tail : Bytes} {first : Bool}
    {slots after : Slots types} {before : List (String × Bytes)} (sorted : Sorts members styles before slots)
    (read : members.readNames depth fuel first bytes slots = .ok (after, rest))
    (closed : readEnd 0x7D rest = .ok tail) :
    ∃ listed, Sorts members styles (before ++ listed) after ∧ Unclosed first tail listed bytes := by
  -- The reader is called with one byte of fuel for each entry, so the induction is on the entries.
  induction fuel generalizing first bytes slots before with
  | nil => cases read
  | cons used fuel ih =>
    rw [Members.readNames] at read
    obtain ⟨next, named, read⟩ := ok_of_bind read
    cases next with
    | none =>
      cases read
      obtain ⟨blanks, blank, rfl⟩ := readEnd_ok closed
      exact ⟨[], by rwa [List.append_nil], .ended blank⟩
    | some found =>
      obtain ⟨name, start⟩ := found
      obtain ⟨behind, front, body, behind_blank, front_blank, spelled, shape⟩ := nextName_some named
      obtain ⟨⟨middle, left⟩, taken, read⟩ := ok_of_bind read
      obtain ⟨given, others, stored, unknown, order⟩ := sorted
      obtain ⟨after, between, value, after_blank, between_blank, same, kept⟩ :=
        readNamed_keeps yielding stored taken
      have longer : (before ++ [(name, value)]).Perm ((name, value) :: (given ++ others)) :=
        List.perm_append_singleton _ _ |>.trans (order.cons _)
      have sorted : Sorts members styles (before ++ [(name, value)]) middle := by
        cases kept with
        | stored grown stored => exact ⟨_, others, stored, unknown, longer.trans (grown.append_right others).symm⟩
        | passed unnamed derived stored =>
          refine ⟨given, (name, value) :: others, stored, ?_, longer.trans List.perm_middle.symm⟩
          exact List.forall_mem_cons.mpr ⟨⟨unnamed, derived⟩, unknown⟩
      obtain ⟨listed, sorted, unclosed⟩ := ih sorted read
      rw [List.append_assoc, List.singleton_append] at sorted
      refine ⟨(name, value) :: listed, sorted, ?_⟩
      rw [shape, same]
      exact .entry behind_blank front_blank spelled after_blank between_blank unclosed

/-! ### Lists -/

/-- The rest of a list, up to its closing bracket and what is behind it. -/
inductive Unfinished (first : Bool) (tail : Bytes) : List Bytes → Bytes → Prop where
  | ended {blanks : Bytes} : Blank blanks → Unfinished first tail [] (blanks ++ 0x5D :: tail)
  | items {behind inner : Bytes} {values : List Bytes} : Blank behind → Items values inner →
      Unfinished first tail values (behind ++ (comma first ++ (inner ++ 0x5D :: tail)))

private theorem Unfinished.item {first : Bool} {tail behind before value left : Bytes} {values : List Bytes}
    (behind_blank : Blank behind) (before_blank : Blank before) (others : Unfinished false tail values left) :
    Unfinished first tail (value :: values) (behind ++ (comma first ++ (before ++ (value ++ left)))) := by
  cases others with
  | @ended blanks blank =>
    have listed : Unfinished first tail [value] _ := .items behind_blank (.last before_blank blank)
    simpa only [List.append_assoc] using listed
  | @items blanks inner _ blank values =>
    have listed : Unfinished first tail (value :: _) _ := .items behind_blank (.more before_blank blank values)
    simp only [List.append_assoc] at listed
    exact listed

private theorem readOrdered_ended {record : String} {size done : Nat} {blanks tail rest : Bytes} {tuple : Tuple types}
    (blank : Blank blanks)
    (read : members.readOrdered record size depth done (blanks ++ 0x5D :: tail) = .ok (tuple, rest)) :
    rest = blanks ++ 0x5D :: tail ∧ Heads members styles tuple [] := by
  induction members generalizing done with
  | nil =>
    cases read
    exact ⟨rfl, rfl⟩
  | cons name codec absent omits more ih =>
    obtain ⟨style, styles⟩ := styles
    rw [Members.readOrdered.eq_def] at read
    simp only [nextItem_end _ blank, bind, Except.bind] at read
    cases absent with
    | none => cases read
    | some a =>
      obtain ⟨⟨later, left⟩, found, read⟩ := ok_of_bind read
      cases read
      obtain ⟨same, heads⟩ : _ ∧ Heads more styles later [] := ih found
      exact ⟨same, .inr ⟨rfl, rfl, heads⟩⟩

private theorem readOrdered_listed (yielding : Yielding depth members styles) {record : String} {size done : Nat}
    {bytes rest tail : Bytes} {tuple : Tuple types}
    (read : members.readOrdered record size depth done bytes = .ok (tuple, rest))
    (closed : readEnd 0x5D rest = .ok tail) :
    ∃ values, Heads members styles tuple values ∧ Unfinished (decide (done = 0)) tail values bytes := by
  induction members generalizing done bytes with
  | nil =>
    cases read
    obtain ⟨blanks, blank, rfl⟩ := readEnd_ok closed
    exact ⟨[], rfl, .ended blank⟩
  | cons name codec absent omits more ih =>
    obtain ⟨style, styles⟩ := styles
    obtain ⟨yields, others⟩ := yielding
    rw [Members.readOrdered.eq_def] at read
    dsimp only at read
    obtain ⟨next, found, read⟩ := ok_of_bind read
    cases next with
    | none =>
      obtain ⟨blanks, more, blank, rfl⟩ := nextItem_none found
      cases absent with
      | none => cases read
      | some a =>
        obtain ⟨⟨later, left⟩, ended, read⟩ := ok_of_bind read
        cases read
        obtain ⟨rfl, heads⟩ : _ ∧ Heads _ styles later [] := readOrdered_ended blank ended
        rw [readEnd_bracket rfl blank] at closed
        cases closed
        exact ⟨[], .inr ⟨rfl, rfl, heads⟩, .ended blank⟩
    | some item =>
      obtain ⟨⟨a, start⟩, first, read⟩ := ok_of_bind read
      obtain ⟨⟨later, left⟩, listed, read⟩ := ok_of_bind read
      cases read
      obtain ⟨behind, before, behind_blank, before_blank, shape⟩ := nextItem_some found
      obtain ⟨blanks, value, blank, spelled, same⟩ := yields _ _ _ first
      obtain ⟨values, heads, unfinished⟩ := ih others listed
      refine ⟨value :: values, .inl ⟨value, values, rfl, spelled, heads⟩, ?_⟩
      rw [shape, same, ← List.append_assoc before]
      exact .item behind_blank (List.forall_mem_append.mpr ⟨before_blank, blank⟩) unfinished

/-! ### Records -/

private theorem entries_blank {listed : List (String × Bytes)} {blanks inner : Bytes} (blank : Blank blanks)
    (entries : Entries listed inner) : Entries listed (blanks ++ inner) := by
  have entry {entry : String × Bytes} {text : Bytes} (listed : Entry entry text) :
      Entry entry (blanks ++ text) := by
    cases listed with
    | of before_blank spelled after_blank between_blank last_blank =>
      rw [← List.append_assoc]
      exact .of (List.forall_mem_append.mpr ⟨blank, before_blank⟩) spelled after_blank between_blank last_blank
  cases entries with
  | last first => exact .last (entry first)
  | more first others =>
    rw [← List.append_assoc]
    exact .more (entry first) others

private theorem items_blank {values : List Bytes} {blanks inner : Bytes} (blank : Blank blanks)
    (items : Items values inner) : Items values (blanks ++ inner) := by
  cases items with
  | last before_blank last_blank =>
    rw [← List.append_assoc]
    exact .last (List.forall_mem_append.mpr ⟨blank, before_blank⟩) last_blank
  | more before_blank last_blank others =>
    rw [← List.append_assoc]
    exact .more (List.forall_mem_append.mpr ⟨blank, before_blank⟩) last_blank others

/-- An object is no shorter than the values in it. -/
theorem length_le_entries {listed : List (String × Bytes)} {text : Bytes} (entries : Entries listed text)
    {entry : String × Bytes} (member : entry ∈ listed) : entry.2.length ≤ text.length := by
  have own {entry : String × Bytes} {text : Bytes} (listed : Entry entry text) : entry.2.length ≤ text.length := by
    cases listed
    simp only [List.length_append]
    omega
  induction entries with
  | last first =>
    obtain rfl := List.mem_singleton.mp member
    exact own first
  | more first _ ih =>
    rw [List.length_append, List.length_append]
    rcases List.mem_cons.mp member with rfl | later
    · have := own first
      omega
    · have := ih later
      omega

/-- A list is no shorter than the items in it. -/
theorem length_le_items {values : List Bytes} {text : Bytes} (items : Items values text) {value : Bytes}
    (member : value ∈ values) : value.length ≤ text.length := by
  induction items with
  | last _ _ =>
    obtain rfl := List.mem_singleton.mp member
    simp only [List.length_append]
    omega
  | more _ _ _ ih =>
    simp only [List.length_append]
    rcases List.mem_cons.mp member with rfl | later
    · omega
    · have := ih later
      omega

/-- The texts of a record, without blanks around them. -/
inductive Texts (members : Members types) (styles : Styles types) (tuple : Tuple types) : Bytes → Prop where
  | object {given others listed : List (String × Bytes)} {text : Bytes} : Spelled members styles tuple given →
      (∀ entry ∈ others, entry.1 ∉ names members ∧ Derives .value entry.2) → listed.Perm (given ++ others) →
      Entries listed text → Texts members styles tuple (ascii "\x7b" ++ (text ++ ascii "\x7d"))
  | emptyObject {blanks : Bytes} : Spelled members styles tuple [] → Blank blanks →
      Texts members styles tuple (ascii "\x7b" ++ (blanks ++ ascii "\x7d"))
  | list {values : List Bytes} {text : Bytes} : Heads members styles tuple values → Items values text →
      Texts members styles tuple (ascii "[" ++ (text ++ ascii "]"))
  | emptyList {blanks : Bytes} : Heads members styles tuple [] → Blank blanks →
      Texts members styles tuple (ascii "[" ++ (blanks ++ ascii "]"))

/-- A record is read from nothing but its texts, if its members are. -/
theorem record_yields (yielding : Yielding depth members styles) (record : String) :
    Yields ((Codec.record record members).read (depth + 1)) fun text tuple => Texts members styles tuple text := by
  intro bytes tuple rest read
  obtain ⟨blanks, blank, same, -⟩ := skipBlanks_cases bytes
  simp only [Codec.record, atValue] at read
  split at read
  next => cases read
  next b left start =>
    rw [start] at same
    split at read
    next bracket =>
      obtain ⟨⟨found, after⟩, ordered, read⟩ := ok_of_bind read
      obtain ⟨tail, closed, read⟩ := ok_of_bind read
      cases read
      obtain ⟨values, heads, unfinished⟩ := readOrdered_listed yielding ordered closed
      cases unfinished with
      | @ended inner inner_blank =>
        refine ⟨blanks, _, blank, .emptyList heads inner_blank, ?_⟩
        rw [same, bracket]
        simp only [List.append_assoc]
        rfl
      | @items behind inner _ behind_blank items =>
        refine ⟨blanks, _, blank, .list heads (items_blank behind_blank items), ?_⟩
        rw [same, bracket]
        simp only [List.append_assoc]
        rfl
    split at read
    next brace =>
      obtain ⟨⟨slots, after⟩, named, read⟩ := ok_of_bind read
      obtain ⟨found, complete, read⟩ := ok_of_bind read
      obtain ⟨tail, closed, read⟩ := ok_of_bind read
      cases read
      have none : Sorts members styles [] members.empty :=
        ⟨[], [], stored_empty, List.forall_mem_nil _, List.Perm.refl _⟩
      obtain ⟨listed, ⟨given, others, stored, unknown, order⟩, unclosed⟩ :=
        readNames_listed yielding none named closed
      have spelled := complete_spelled stored complete
      cases unclosed with
      | @ended inner inner_blank =>
        have empty := List.append_eq_nil_iff.mp (List.nil_perm.mp order)
        rw [empty.1] at spelled
        refine ⟨blanks, _, blank, .emptyObject spelled inner_blank, ?_⟩
        rw [same, brace]
        simp only [List.append_assoc]
        rfl
      | @listed behind inner _ behind_blank entries =>
        refine ⟨blanks, _, blank, .object spelled unknown order (entries_blank behind_blank entries), ?_⟩
        rw [same, brace]
        simp only [List.append_assoc]
        rfl
    next => cases read

end

end Courier.Proofs.JsonListings
