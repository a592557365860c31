import Courier.Proofs.JsonRecords

/-! The texts of a record. As an object it may list its members in any order, with others among them that are
passed over, whatever their values are; as a list it has them in the order of the declaration. A member with
a default may be absent, in a list only at the end. -/

namespace Courier.Proofs.JsonObjects
open Json JsonGrammar JsonScanning JsonRecords

/-! ### Members -/

/-- A value starts with something that neither is blank nor ends a list. -/
def Opens (item : Bytes) : Prop := ∃ b more, item = b :: more ∧ isBlank b = false ∧ b ≠ 0x5D

theorem opens_value {value : Bytes} (derived : Derives .value value) : Opens value := by
  obtain ⟨b, more, rfl, solid⟩ := value_solid derived
  refine ⟨b, more, rfl, solid, ?_⟩
  rintro rfl
  cases derives_passes derived [] .value [] (.inl rfl) stops_nil

/-- For each member of a record, how its values may be spelled. -/
def Styles : List Type → Type
  | [] => Unit
  | α :: rest => (Bytes → α → Prop) × Styles rest

def Readable (depth : Nat) : {types : List Type} → Members types → Styles types → Prop
  | _, .nil, () => True
  | _, .cons _ codec _ _ more, (style, styles) =>
    (∀ value a, style value a → Opens value ∧ Reads (codec.read depth) value a) ∧ Readable depth more styles

/-- The values of a record, spelled out under their names in the order of the declaration. A member that is not
given equals its default. -/
def Spelled : {types : List Type} → Members types → Styles types → Tuple types → List (String × Bytes) → Prop
  | _, .nil, (), (), given => given = []
  | _, .cons name _ absent _ more, (style, styles), (a, tuple), given =>
    (∃ value rest, given = (name, value) :: rest ∧ style value a ∧ Spelled more styles tuple rest) ∨
    absent = some a ∧ Spelled more styles tuple given

/-- The values of the first members of a record. All others equal their defaults. -/
def Heads : {types : List Type} → Members types → Styles types → Tuple types → List Bytes → Prop
  | _, .nil, (), (), values => values = []
  | _, .cons _ _ absent _ more, (style, styles), (a, tuple), values =>
    (∃ value rest, values = value :: rest ∧ style value a ∧ Heads more styles tuple rest) ∨
    values = [] ∧ absent = some a ∧ Heads more styles tuple []

section
variable {types : List Type} {members : Members types} {styles : Styles types} {tuple : Tuple types}
  {given : List (String × Bytes)}

private theorem mem_names_of_spelled (spelled : Spelled members styles tuple given) {entry : String × Bytes}
    (member : entry ∈ given) : entry.1 ∈ names members := by
  induction members generalizing given with
  | nil =>
    cases spelled
    cases member
  | cons name codec absent omits more ih =>
    obtain ⟨a, tuple⟩ := tuple
    obtain ⟨style, styles⟩ := styles
    rcases spelled with ⟨value, rest, rfl, -, spelled⟩ | ⟨-, spelled⟩
    · rcases List.mem_cons.mp member with rfl | later
      · exact List.mem_cons_self
      · exact List.mem_cons_of_mem _ (ih spelled later)
    · exact List.mem_cons_of_mem _ (ih spelled member)

/-- The values of a list stand for the first members of the record. -/
theorem spelled_of_heads {values : List Bytes} (heads : Heads members styles tuple values) :
    ∃ given, Spelled members styles tuple given ∧ values = given.map Prod.snd ∧
      given.map Prod.fst <+: names members := by
  induction members generalizing values with
  | nil =>
    cases heads
    exact ⟨[], rfl, rfl, List.nil_prefix⟩
  | cons name codec absent omits more ih =>
    obtain ⟨a, tuple⟩ := tuple
    obtain ⟨style, styles⟩ := styles
    rcases heads with ⟨value, rest, rfl, told, heads⟩ | ⟨rfl, same, heads⟩
    · obtain ⟨given, spelled, rfl, first⟩ := ih heads
      exact ⟨(name, value) :: given, .inl ⟨value, given, rfl, told, spelled⟩, rfl,
        (List.prefix_cons_inj name).mpr first⟩
    · obtain ⟨given, spelled, empty, -⟩ := ih heads
      obtain rfl := List.map_eq_nil_iff.mp empty.symm
      exact ⟨[], .inr ⟨same, spelled⟩, rfl, List.nil_prefix⟩

theorem heads_of_spelled (distinct : (names members).Nodup) (spelled : Spelled members styles tuple given)
    (first : given.map Prod.fst <+: names members) : Heads members styles tuple (given.map Prod.snd) := by
  induction members generalizing given with
  | nil =>
    cases spelled
    rfl
  | cons name codec absent omits more ih =>
    obtain ⟨a, tuple⟩ := tuple
    obtain ⟨style, styles⟩ := styles
    obtain ⟨new, distinct⟩ := List.nodup_cons.mp distinct
    rcases spelled with ⟨value, rest, rfl, told, spelled⟩ | ⟨same, spelled⟩
    · exact .inl ⟨value, _, rfl, told, ih distinct spelled ((List.prefix_cons_inj name).mp first)⟩
    · -- A member that comes later cannot be the first one of the list.
      cases given with
      | nil => exact .inr ⟨rfl, same, ih distinct spelled List.nil_prefix⟩
      | cons entry rest =>
        obtain ⟨here, -⟩ := List.cons_prefix_cons.mp first
        exact absurd (here ▸ mem_names_of_spelled spelled List.mem_cons_self) new

end

/-! ### Objects -/

section
variable {types : List Type} {depth : Nat}

private theorem Fills.append {members : Members types} {first second : List (String × Bytes)}
    {slots middle filled : Slots types} (fills : Fills members depth first slots middle)
    (more : Fills members depth second middle filled) : Fills members depth (first ++ second) slots filled := by
  induction fills with
  | nil => exact more
  | cons takes _ ih => exact .cons takes (ih more)

theorem Fills.split {members : Members types} {first second : List (String × Bytes)} {slots filled : Slots types}
    (fills : Fills members depth (first ++ second) slots filled) :
    ∃ middle, Fills members depth first slots middle ∧ Fills members depth second middle filled := by
  induction first generalizing slots with
  | nil => exact ⟨slots, .nil, fills⟩
  | cons entry first ih =>
    cases fills with
    | cons takes fills =>
      obtain ⟨middle, before, after⟩ := ih fills
      exact ⟨middle, .cons takes before, after⟩

private theorem takes_other {name : String} {value : Bytes} (derived : Derives .value value) :
    Takes .nil depth (name, value) () () := by
  intro after between rest after_blank between_blank stops
  rw [Members.readNamed, readColon_colon after_blank]
  simp only [bind, Except.bind, skipValue_value derived between_blank stops]
  rfl

/-- In whatever order the members are listed, each finds its slot. The induction is on the declaration: the first
member of it may stand anywhere in the list. -/
theorem fills_spelled {members : Members types} {styles : Styles types} {tuple : Tuple types}
    {given others listed : List (String × Bytes)} (distinct : (names members).Nodup)
    (readable : Readable depth members styles) (spelled : Spelled members styles tuple given)
    (unknown : ∀ entry ∈ others, entry.1 ∉ names members ∧ Derives .value entry.2)
    (order : listed.Perm (given ++ others)) :
    ∃ filled, Fills members depth listed members.empty filled ∧ members.complete filled = .ok tuple := by
  induction members generalizing given listed with
  | nil =>
    cases spelled
    refine ⟨(), ?_, rfl⟩
    have passed : ∀ entry ∈ listed, Derives .value entry.2 := fun entry member =>
      (unknown entry (order.mem_iff.mp member)).2
    clear order
    induction listed with
    | nil => exact .nil
    | cons entry listed ih =>
      obtain ⟨derived, passed⟩ := List.forall_mem_cons.mp passed
      exact .cons (takes_other derived) (ih passed)
  | cons name codec absent omits more ih =>
    obtain ⟨a, tuple⟩ := tuple
    obtain ⟨style, styles⟩ := styles
    obtain ⟨own, readable⟩ := readable
    obtain ⟨new, distinct⟩ := List.nodup_cons.mp distinct
    have unnamed : ∀ entry ∈ others, entry.1 ∉ names more ∧ Derives .value entry.2 := fun entry member =>
      ⟨fun known => (unknown entry member).1 (List.mem_cons_of_mem _ known), (unknown entry member).2⟩
    have elsewhere {rest : List (String × Bytes)} (named : Spelled more styles tuple rest) :
        ∀ entry ∈ rest ++ others, entry.1 ≠ name := by
      rintro entry member rfl
      rcases List.mem_append.mp member with own | other
      · exact new (mem_names_of_spelled named own)
      · exact (unknown entry other).1 List.mem_cons_self
    rcases spelled with ⟨value, rest, rfl, told, spelled⟩ | ⟨same, spelled⟩
    · obtain ⟨before, after, rfl⟩ := List.append_of_mem (order.mem_iff.mpr List.mem_cons_self)
      have order : (before ++ after).Perm (rest ++ others) :=
        (List.perm_middle.symm.trans order).cons_inv
      have different : ∀ entry ∈ before ++ after, entry.1 ≠ name := fun entry member =>
        elsewhere spelled entry (order.mem_iff.mp member)
      obtain ⟨filled, fills, complete⟩ := ih distinct readable spelled unnamed order
      obtain ⟨middle, early, late⟩ := Fills.split fills
      refine ⟨(some a, filled), ?_, ?_⟩
      · have takes : Takes (.cons name codec absent omits more) depth (name, value) (none, middle)
            (some a, middle) := by
          intro after between rest after_blank between_blank stops
          rw [Members.readNamed, if_pos rfl]
          simp [readColon_colon after_blank, (own value a told).2 between rest between_blank stops, bind, Except.bind]
          rfl
        refine Fills.append (early.skip none ?_) (.cons takes (late.skip (some a) ?_))
        · exact fun entry member => different entry (List.mem_append_left _ member)
        · exact fun entry member => different entry (List.mem_append_right _ member)
      · rw [Members.complete, complete]
        rfl
    · obtain ⟨filled, fills, complete⟩ := ih distinct readable spelled unnamed order
      have different : ∀ entry ∈ listed, entry.1 ≠ name := fun entry member =>
        elsewhere spelled entry (order.mem_iff.mp member)
      refine ⟨(none, filled), fills.skip none different, ?_⟩
      rw [same, Members.complete, complete]
      rfl

/-- A record is read from every object that lists its members. -/
theorem object_reads (record : String) {members : Members types} {styles : Styles types} {tuple : Tuple types}
    {given others listed : List (String × Bytes)} {text : Bytes} (distinct : (names members).Nodup)
    (readable : Readable depth members styles) (spelled : Spelled members styles tuple given)
    (unknown : ∀ entry ∈ others, entry.1 ∉ names members ∧ Derives .value entry.2)
    (order : listed.Perm (given ++ others)) (entries : Entries listed text) :
    Reads ((Codec.record record members).read (depth + 1)) (ascii "\x7b" ++ (text ++ ascii "\x7d")) tuple := by
  obtain ⟨filled, fills, complete⟩ := fills_spelled distinct readable spelled unknown order
  exact record_reads members depth record entries fills complete

end

/-! ### Lists -/

/-- The text between the brackets of a list, given the texts of its items. -/
inductive Items : List Bytes → Bytes → Prop where
  | last {before item behind : Bytes} : Blank before → Blank behind → Items [item] (before ++ (item ++ behind))
  | more {before item behind rest : Bytes} {items : List Bytes} : Blank before → Blank behind → Items items rest →
      Items (item :: items) (before ++ (item ++ (behind ++ (ascii "," ++ rest))))

theorem nextItem_opens (first : Bool) {behind before item : Bytes} (behind_blank : Blank behind)
    (before_blank : Blank before) (opens : Opens item) (rest : Bytes) :
    nextItem first (behind ++ (comma first ++ (before ++ (item ++ rest)))) = .ok (some (item ++ rest)) := by
  obtain ⟨b, more, rfl, solid, other⟩ := opens
  have start : skipBlanks (before ++ b :: (more ++ rest)) = b :: (more ++ rest) := by
    rw [skipBlanks_append before_blank]
    exact skipBlanks_cons solid _
  rw [nextItem, skipBlanks_append behind_blank, List.cons_append]
  cases first with
  | true =>
    simp only [comma, if_true, List.nil_append, start]
    rw [if_neg other]
  | false =>
    have passed : skipBlanks (comma false ++ (before ++ b :: (more ++ rest))) =
        0x2C :: (before ++ b :: (more ++ rest)) := rfl
    simp only [passed, start]
    rw [if_neg (by decide), if_neg Bool.false_ne_true, if_pos trivial, if_neg other]

theorem nextItem_end (first : Bool) {blanks : Bytes} (blank : Blank blanks) (rest : Bytes) :
    nextItem first (blanks ++ 0x5D :: rest) = .ok none := by
  rw [nextItem, skipBlanks_append blank]
  rfl

section
variable {types : List Type} {depth : Nat} (record : String) (size : Nat)

private theorem readOrdered_end (depth : Nat) {members : Members types} {styles : Styles types} {tuple : Tuple types}
    (done : Nat) (heads : Heads members styles tuple []) {blanks : Bytes} (blank : Blank blanks) (rest : Bytes) :
    members.readOrdered record size depth done (blanks ++ 0x5D :: rest) = .ok (tuple, blanks ++ 0x5D :: rest) := by
  induction members generalizing done with
  | nil => rfl
  | cons name codec absent omits more ih =>
    obtain ⟨a, tuple⟩ := tuple
    obtain ⟨style, styles⟩ := styles
    rcases heads with ⟨value, values, none, -⟩ | ⟨-, rfl, heads⟩
    · cases none
    · simp only [Members.readOrdered, nextItem_end _ blank, bind, Except.bind, ih (done + 1) heads]
      rfl

private theorem readOrdered_items {members : Members types} {styles : Styles types} {tuple : Tuple types} (done : Nat)
    {values : List Bytes} {text behind : Bytes} (readable : Readable depth members styles)
    (heads : Heads members styles tuple values) (listed : Items values text) (blank : Blank behind) (rest : Bytes) :
    ∃ after, Blank after ∧
      members.readOrdered record size depth done
        (behind ++ (comma (decide (done = 0)) ++ (text ++ 0x5D :: rest))) = .ok (tuple, after ++ 0x5D :: rest) := by
  induction members generalizing done values text behind with
  | nil =>
    cases heads
    cases listed
  | cons name codec absent omits more ih =>
    obtain ⟨a, tuple⟩ := tuple
    obtain ⟨style, styles⟩ := styles
    obtain ⟨own, readable⟩ := readable
    rcases heads with ⟨value, values, rfl, told, heads⟩ | ⟨rfl, -⟩
    · obtain ⟨opens, reads⟩ := own value a told
      cases listed with
      | @last before _ last before_blank last_blank =>
        have stops : Stops (last ++ 0x5D :: rest) := Stops.blank last_blank (stops_cons (by decide) rest)
        have read := reads [] (last ++ 0x5D :: rest) blank_nil stops
        have ended := readOrdered_end record size depth (done + 1) heads last_blank rest
        refine ⟨last, last_blank, ?_⟩
        simp only [List.append_assoc, Members.readOrdered, nextItem_opens _ blank before_blank opens, bind, Except.bind]
        rw [List.nil_append] at read
        simp only [read, ended]
        rfl
      | @more before _ last others _ before_blank last_blank listed =>
        have stops : Stops (last ++ (ascii "," ++ (others ++ 0x5D :: rest))) :=
          Stops.blank last_blank (stops_cons (by decide) _)
        have read := reads [] (last ++ (ascii "," ++ (others ++ 0x5D :: rest))) blank_nil stops
        obtain ⟨after, after_blank, same⟩ := ih (done + 1) readable heads listed last_blank
        refine ⟨after, after_blank, ?_⟩
        simp only [List.append_assoc, Members.readOrdered, nextItem_opens _ blank before_blank opens, bind, Except.bind]
        rw [List.nil_append] at read
        have next : comma (decide (done + 1 = 0)) = ascii "," := rfl
        rw [next] at same
        simp only [read, same]
        rfl
    · cases listed

/-- A record is read from every list that has its first members in order, if the others have defaults. -/
theorem list_reads {members : Members types} {styles : Styles types} {tuple : Tuple types} {values : List Bytes}
    {text : Bytes} (readable : Readable depth members styles) (heads : Heads members styles tuple values)
    (listed : Items values text) :
    Reads ((Codec.record record members).read (depth + 1)) (ascii "[" ++ (text ++ ascii "]")) tuple := by
  intro before rest blank stops
  have start : skipBlanks (before ++ (ascii "[" ++ (text ++ ascii "]") ++ rest)) = 0x5B :: (text ++ 0x5D :: rest) :=
    skipBlanks_bracketed rfl blank text rest 0x5D
  obtain ⟨after, after_blank, read⟩ := readOrdered_items record members.size 0 readable heads listed blank_nil rest
  have bracket : readEnd 0x5D (after ++ 0x5D :: rest) = .ok rest := readEnd_bracket rfl after_blank rest
  simp only [List.nil_append, comma, decide_true, if_true] at read
  simp only [Codec.record, atValue, start, if_true]
  simp only [read, bracket, bind, Except.bind]
  rfl

end

end Courier.Proofs.JsonObjects
