import Courier.Proofs.JsonAcceptance
import Courier.Proofs.JsonIntegers
import Courier.Proofs.JsonOrigins
import Courier.Proofs.JsonRecords

/-! Objects that have a member of a record twice. A reader of a value takes from a text what the scanner passes
over, if it takes anything, so it always goes on at the next member, and comes to the second of two members of
one name. -/

namespace Courier.Proofs.JsonDuplicates
open Json JsonGrammar JsonScanning JsonRecords JsonStrings JsonOrigins

/-! ### What readers take -/

/-- What is read is what the scanner passes over. -/
def Consumes {α : Type} (read : Bytes → Except Error (α × Bytes)) : Prop :=
  ∀ bytes a rest, read bytes = .ok (a, rest) → skipValue bytes = .ok rest

private theorem scan_unit (stack : List Bracket) (isName : Bool) {a b c d : UInt8} {n : Nat} (read : hex4? a b c d = some n)
    (rest : Bytes) : scan stack (.string isName) (0x5C :: 0x75 :: a :: b :: c :: d :: rest) =
      scan stack (.string isName) rest := by
  rw [scan.eq_def]
  simp only [read, Option.isSome_some, if_true]
  rfl

private theorem scan_string (stack : List Bracket) (isName : Bool) {bytes done s after : Bytes}
    (read : stringBytes bytes done = .ok (s, after)) :
    scan stack (.string isName) bytes = if isName then scan stack .colon after else proceed stack after := by
  fun_induction stringBytes bytes done
  all_goals try cases read
  case case2 =>
    rw [scan.eq_def]
    cases isName with
    | true => rfl
    | false =>
      simp only [proceed]
      cases afterValue stack <;> rfl
  case case5 low whole kind ih => rw [scan_unit stack isName whole, ih read]
  case case8 high lead _ _ _ _ _ _ low trail _ _ ih =>
    rw [scan_unit stack isName lead, scan_unit stack isName trail, ih read]
  case case15 e rest done _ other b known ih =>
    have step : scan stack (.string isName) (0x5C :: e :: rest) = scan stack (.string isName) rest := by
      rw [scan.eq_def]
      simp [known]
    rw [step, ih read]
  case case18 b rest done quote last _ _ more printable ih =>
    have other : b ≠ 0x5C := by
      intro same
      cases rest with
      | nil => exact last same rfl
      | cons e rest => exact more e rest same rfl
    have step : scan stack (.string isName) (b :: rest) = scan stack (.string isName) rest := by
      rw [scan.eq_def]
      simp only [if_neg (show b ≠ 0x22 from quote), if_neg other, if_neg printable]
    rw [step, ih read]

private theorem stringBytes_of_readString {bytes rest : Bytes} {s : String} (read : readString bytes = .ok (s, rest)) :
    ∃ spelled, stringBytes bytes [] = .ok (spelled, rest) := by
  obtain ⟨⟨spelled, left⟩, found, read⟩ := ok_of_bind read
  dsimp only at read
  split at read
  · cases read
    exact ⟨spelled, found⟩
  · cases read

private theorem readString_body {body rest after : Bytes} {s : String} (derived : Body body)
    (read : readString (body ++ 0x22 :: rest) = .ok (s, after)) : after = rest := by
  obtain ⟨spelled, found⟩ := stringBytes_of_readString read
  have passed := scan_string [] false found
  rw [scan_body [] rest false derived] at passed
  exact (Except.ok.inj passed).symm

theorem skipValue_skipBlanks (bytes : Bytes) : skipValue bytes = scan [] .value (skipBlanks bytes) := by
  obtain ⟨blanks, blank, same, -⟩ := JsonAcceptance.skipBlanks_cases bytes
  conv => lhs; rw [same]
  exact scan_blanks _ _ (.inl (.inl rfl)) blank

theorem text_consumes (depth : Nat) : Consumes (Codec.text.read depth) := by
  intro bytes s rest read
  rw [skipValue_skipBlanks]
  simp only [Codec.text, atValue] at read
  split at read
  next => cases read
  next b left start =>
    split at read
    next quote =>
      subst quote
      obtain ⟨spelled, found⟩ := stringBytes_of_readString read
      have opened : openValue [] 0x22 = .ok ([], .string false) := rfl
      rw [start, scan_open [] _ (.inl rfl) opened]
      exact scan_string [] false found
    next => cases read

theorem raw_consumes : Consumes readRaw := by
  intro bytes raw rest read
  rw [skipValue_skipBlanks]
  obtain ⟨left, passed, read⟩ := ok_of_bind read
  dsimp only at read
  split at read <;> cases read
  exact passed

/-! Integers have neither a fraction nor an exponent. -/

theorem readExponent_double {negative : Bool} {n : Nat} {start i : Int} {bytes rest : Bytes} :
    readExponent negative n start bytes ≠ .ok (.integer i, rest) := by
  intro read
  unfold readExponent at read
  dsimp only at read
  repeat' split at read
  all_goals cases read

theorem readTail_integer {negative : Bool} {n extra : Nat} {bytes rest : Bytes} {i : Int}
    (read : readTail negative n extra bytes = .ok (.integer i, rest)) :
    rest = bytes ∧ ∀ b ∈ bytes.head?, b ∉ ascii ".eE" := by
  unfold readTail at read
  dsimp only at read
  split at read
  next digits =>
    split at read
    next => cases read
    next => cases read
    next =>
      split at read
      next => exact (readExponent_double read).elim
      next => exact (readExponent_double read).elim
      next => split at read <;> cases read
  next => exact (readExponent_double read).elim
  next => exact (readExponent_double read).elim
  next dot lower upper =>
    have outside : ∀ b ∈ bytes.head?, b ∉ ascii ".eE" := by
      intro b first member
      obtain ⟨more, rfl⟩ := List.head?_eq_some_iff.mp first
      have marks : ascii ".eE" = [0x2E, 0x65, 0x45] := rfl
      simp only [marks, List.mem_cons, List.not_mem_nil, or_false] at member
      rcases member with rfl | rfl | rfl
      · exact dot more rfl
      · exact lower more rfl
      · exact upper more rfl
    refine ⟨?_, outside⟩
    split at read
    next =>
      split at read
      next => exact (readExponent_double read).elim
      next => exact (readExponent_double read).elim
      next => split at read <;> cases read
    next =>
      split at read
      next =>
        cases read
        rfl
      next =>
        split at read <;> cases read
        rfl

theorem readNumber_integer {negative : Bool} {bytes rest : Bytes} {i : Int}
    (read : readNumber negative bytes = .ok (.integer i, rest)) :
    ∃ whole, Whole whole ∧ bytes = whole ++ rest ∧ Stops rest := by
  have stops {rest : Bytes} (digit : ∀ b ∈ rest.head?, isDigit b = false)
      (mark : ∀ b ∈ rest.head?, b ∉ ascii ".eE") : Stops rest := by
    intro b first member
    have letters : ascii "0123456789.eE" = ascii "0123456789" ++ ascii ".eE" := rfl
    rw [letters, List.mem_append, ← isDigit_iff] at member
    rcases member with isDigit | isMark
    · rw [digit b first] at isDigit
      cases isDigit
    · exact mark b first isMark
  cases bytes with
  | nil => cases read
  | cons b more =>
    rw [readNumber.eq_def] at read
    dsimp only at read
    split at read
    next zero =>
      subst zero
      obtain ⟨tail, digit⟩ : readTail negative 0 0 more = .ok (.integer i, rest) ∧
          ∀ b ∈ more.head?, isDigit b = false := by
        cases more with
        | nil => exact ⟨read, nofun⟩
        | cons c more =>
          dsimp only at read
          split at read
          next => cases read
          next other => exact ⟨read, fun b first => by cases first; simpa using other⟩
      obtain ⟨rfl, mark⟩ := readTail_integer tail
      exact ⟨ascii "0", .zero, rfl, stops digit mark⟩
    next nonzero =>
      split at read
      next digit =>
        obtain ⟨rfl, mark⟩ := readTail_integer read
        have digits : ascii "0123456789" = 0x30 :: ascii "123456789" := rfl
        have first : b ∈ ascii "123456789" := by
          have known := (isDigit_iff b).mp digit
          rw [digits] at known
          exact (List.mem_cons.mp known).resolve_left nonzero
        have taken : Digits (more.takeWhile isDigit) := fun c member =>
          (isDigit_iff c).mp (List.all_eq_true.mp List.all_takeWhile c member)
        refine ⟨b :: more.takeWhile isDigit, .positive first taken, ?_, stops ?_ mark⟩
        · rw [List.cons_append, List.dropWhile_cons_of_pos digit, List.takeWhile_append_dropWhile]
        · intro c head
          have solid := List.head?_dropWhile_not isDigit (b :: more)
          rw [Option.mem_def.mp head] at solid
          simpa using solid
      next => cases read

theorem integer_consumes (depth : Nat) (low high : Int) (expected : String) :
    Consumes ((Codec.integer low high expected).read depth) := by
  intro bytes i rest read
  rw [skipValue_skipBlanks]
  obtain ⟨⟨n, left⟩, found, read⟩ := ok_of_bind read
  obtain ⟨rfl, rfl⟩ : n = .integer i ∧ left = rest := by
    cases n with
    | integer j =>
      dsimp only at read
      split at read <;> cases read
      exact ⟨rfl, rfl⟩
    | double x => cases read
  have passed (sign : Bytes) {whole : Bytes} (signs : sign ∈ [[], ascii "-"]) (derived : Whole whole)
      (stops : Stops left) : scan [] .value (sign ++ (whole ++ left)) = .ok left := by
    have numeral := scan_numeral [] left (.inl rfl) (.of signs derived .none .none) stops
    rw [List.append_nil, List.append_nil, List.append_assoc] at numeral
    exact numeral
  simp only [Codec.readNumeric, atValue] at found
  split at found
  next => cases found
  next b more start =>
    rw [start]
    split at found
    next minus =>
      subst minus
      obtain ⟨whole, derived, rfl, stops⟩ := readNumber_integer found
      exact passed (ascii "-") (by simp) derived stops
    next =>
      split at found
      next =>
        obtain ⟨whole, derived, same, stops⟩ := readNumber_integer found
        rw [same]
        exact passed [] (by simp) derived stops
      next => cases found

/-! ### Members -/

def Consuming (depth : Nat) : {types : List Type} → Members types → Prop
  | _, .nil => True
  | _, .cons _ codec _ _ more => Consumes (codec.read depth) ∧ Consuming depth more

def Taken : {types : List Type} → Members types → Slots types → String → Prop
  | _, .nil, (), _ => False
  | _, .cons own _ _ _ more, (slot, slots), name => if own = name then slot.isSome = true else Taken more slots name

/-- What becomes of a member that is read: its value is passed over, and if it is one of the record's, it has not
been read before. -/
structure Advances {types : List Type} (members : Members types) (name : String) (slots after : Slots types) :
    Prop where
  keeps : ∀ other, Taken members slots other → Taken members after other
  fresh : name ∈ names members → ¬ Taken members slots name
  takes : name ∈ names members → Taken members after name

section
variable {types : List Type} {members : Members types} {depth : Nat}

private theorem readNamed_advances (consuming : Consuming depth members) {name : String} {bytes rest : Bytes}
    {slots after : Slots types} (read : members.readNamed depth name bytes slots = .ok (after, rest)) :
    Advances members name slots after ∧ ∃ value, readColon bytes = .ok value ∧ skipValue value = .ok rest := by
  induction members generalizing rest with
  | nil =>
    obtain ⟨value, colon, read⟩ := ok_of_bind read
    obtain ⟨left, passed, read⟩ := ok_of_bind read
    cases read
    exact ⟨⟨fun _ none => none, nofun, nofun⟩, value, colon, passed⟩
  | cons own codec absent omits more ih =>
    obtain ⟨slot, slots⟩ := slots
    obtain ⟨consumes, others⟩ := consuming
    rw [Members.readNamed] at read
    split at read
    next same =>
      subst same
      split at read
      next => cases read
      next empty =>
        obtain ⟨value, colon, read⟩ := ok_of_bind read
        obtain ⟨⟨a, left⟩, found, read⟩ := ok_of_bind read
        cases read
        refine ⟨⟨?_, ?_, ?_⟩, value, colon, consumes _ _ _ found⟩
        · intro other taken
          rw [Taken] at taken ⊢
          split
          · rfl
          next different => rwa [if_neg different] at taken
        · intro _ taken
          rw [Taken, if_pos rfl] at taken
          exact empty taken
        · intro _
          rw [Taken, if_pos rfl]
          rfl
    next different =>
      obtain ⟨⟨filled, left⟩, found, read⟩ := ok_of_bind read
      cases read
      obtain ⟨⟨keeps, fresh, takes⟩, passed⟩ := ih others found
      have later (listed : name ∈ names (.cons own codec absent omits more)) : name ∈ names more :=
        (List.mem_cons.mp listed).resolve_left (Ne.symm different)
      refine ⟨⟨?_, ?_, ?_⟩, passed⟩
      · intro other taken
        rw [Taken] at taken ⊢
        split
        next same => rwa [if_pos same] at taken
        next other' => exact keeps other (by rwa [if_neg other'] at taken)
      · intro listed taken
        rw [Taken, if_neg different] at taken
        exact fresh (later listed) taken
      · intro listed
        rw [Taken, if_neg different]
        exact takes (later listed)

end

/-! ### Objects -/

/-- A member of any object: the body of its name, and its value. -/
inductive Field : Bytes × Bytes → Bytes → Prop where
  | of {before name after between value behind : Bytes} : Blank before → Body name → Blank after → Blank between →
      Derives .value value → Blank behind →
      Field (name, value) (before ++ (quoted name ++ (after ++ (ascii ":" ++ (between ++ (value ++ behind))))))

/-- The text between the braces of an object, given its members. -/
inductive Fields : List (Bytes × Bytes) → Bytes → Prop where
  | last {field : Bytes × Bytes} {text : Bytes} : Field field text → Fields [field] text
  | more {field : Bytes × Bytes} {fields : List (Bytes × Bytes)} {text rest : Bytes} :
      Field field text → Fields fields rest → Fields (field :: fields) (text ++ (ascii "," ++ rest))

section
variable {types : List Type} {members : Members types} {depth : Nat}

/-- A reader that comes to the end of an object has gone over its first member to the next one. -/
theorem readNames_field (consuming : Consuming depth members) {first : Bool} {field : Bytes × Bytes}
    {text behind fuel rest : Bytes} {slots : Slots types} {result : Slots types × Bytes} (listed : Field field text)
    (blank : Blank behind) (stops : Stops rest)
    (read : members.readNames depth fuel first (behind ++ (comma first ++ (text ++ rest))) slots = .ok result) :
    ∃ name middle after left, (∀ other : String, Spells field.1 other.toList → other = name) ∧
      Advances members name slots middle ∧ Blank after ∧
      members.readNames depth left false (after ++ rest) middle = .ok result := by
  cases fuel with
  | nil => cases read
  | cons used fuel =>
    cases listed with
    | @of before body after between value last before_blank body_derived after_blank between_blank derived last_blank =>
      simp only [List.append_assoc, Members.readNames, nextName_string first blank before_blank] at read
      obtain ⟨named, found, read⟩ := ok_of_bind read
      cases string : readString (body ++ 0x22 :: (after ++ (ascii ":" ++ (between ++ (value ++ (last ++ rest)))))) with
      | error why =>
        rw [string] at found
        cases found
      | ok spelled =>
        obtain ⟨name, left⟩ := spelled
        obtain rfl := readString_body body_derived string
        rw [string] at found
        cases found
        obtain ⟨⟨middle, left⟩, taken, read⟩ := ok_of_bind read
        obtain ⟨advances, start, colon, passed⟩ := readNamed_advances consuming taken
        rw [readColon_colon after_blank] at colon
        cases colon
        rw [skipValue_value derived between_blank (stops.blank last_blank)] at passed
        cases passed
        refine ⟨name, middle, last, fuel, ?_, advances, last_blank, read⟩
        intro other spelled
        rw [readString_spells spelled, String.ofList_toList] at string
        cases string
        rfl

private theorem absent_of_taken (consuming : Consuming depth members) {first : Bool} {fields : List (Bytes × Bytes)}
    {text behind fuel rest : Bytes} {slots : Slots types} {result : Slots types × Bytes} (listed : Fields fields text)
    (blank : Blank behind)
    (read : members.readNames depth fuel first (behind ++ (comma first ++ (text ++ 0x7D :: rest))) slots = .ok result)
    {name : String} (known : name ∈ names members) (taken : Taken members slots name) :
    ∀ field ∈ fields, ¬ Spells field.1 name.toList := by
  induction listed generalizing first behind fuel slots with
  | last field =>
    obtain ⟨own, middle, after, left, spells, advances, -, -⟩ :=
      readNames_field consuming field blank (stops_cons (by decide) rest) read
    intro field member spelled
    rw [List.mem_singleton] at member
    subst member
    obtain rfl := spells name spelled
    exact advances.fresh known taken
  | @more _ fields _ others field _ ih =>
    simp only [List.append_assoc] at read
    obtain ⟨own, middle, after, left, spells, advances, after_blank, read⟩ :=
      readNames_field consuming field blank (stops_cons (by decide) _) read
    have later := ih after_blank read (advances.keeps name taken)
    refine List.forall_mem_cons.mpr ⟨?_, later⟩
    intro spelled
    obtain rfl := spells name spelled
    exact advances.fresh known taken

/-- No member of the record occurs twice in an object that is read to its end. -/
theorem absent_twice (consuming : Consuming depth members) {first : Bool} {fields : List (Bytes × Bytes)}
    {text behind fuel rest : Bytes} {slots : Slots types} {result : Slots types × Bytes} (listed : Fields fields text)
    (blank : Blank behind)
    (read : members.readNames depth fuel first (behind ++ (comma first ++ (text ++ 0x7D :: rest))) slots = .ok result)
    {name : String} (known : name ∈ names members) {one two : Bytes × Bytes} (both : [one, two].Sublist fields)
    (spelled : Spells one.1 name.toList) (spelledAgain : Spells two.1 name.toList) : False := by
  induction listed generalizing first behind fuel slots with
  | last field => exact absurd both.length_le (by simp)
  | @more _ fields _ others field more ih =>
    simp only [List.append_assoc] at read
    obtain ⟨own, middle, after, left, spells, advances, after_blank, read⟩ :=
      readNames_field consuming field blank (stops_cons (by decide) _) read
    cases both with
    | cons _ both => exact ih after_blank read both
    | cons_cons _ single =>
      obtain rfl := spells name spelled
      have member : two ∈ fields := single.subset List.mem_cons_self
      exact absent_of_taken consuming more after_blank read known (advances.takes known) two member spelledAgain

/-- An object that has a member of the record twice is refused. -/
theorem record_refuses (record : String) (consuming : Consuming depth members) {fields : List (Bytes × Bytes)}
    {text : Bytes} (listed : Fields fields text) {name : String} (known : name ∈ names members)
    {one two : Bytes × Bytes} (both : [one, two].Sublist fields) (spelled : Spells one.1 name.toList)
    (spelledAgain : Spells two.1 name.toList) {before : Bytes} (blank : Blank before) (rest : Bytes)
    (result : Tuple types × Bytes) :
    (Codec.record record members).read (depth + 1)
      (before ++ (ascii "\x7b" ++ (text ++ ascii "\x7d") ++ rest)) ≠ .ok result := by
  intro read
  have start : skipBlanks (before ++ (ascii "\x7b" ++ (text ++ ascii "\x7d") ++ rest)) =
      0x7B :: (text ++ 0x7D :: rest) := skipBlanks_bracketed rfl blank text rest 0x7D
  simp only [Codec.record, atValue, start] at read
  rw [if_neg (by decide), if_pos trivial] at read
  obtain ⟨filled, named, -⟩ := ok_of_bind read
  have named : members.readNames depth (0x7B :: (text ++ 0x7D :: rest)) true
      ([] ++ (comma true ++ (text ++ 0x7D :: rest))) members.empty = .ok filled := named
  exact absent_twice consuming listed blank_nil named known both spelled spelledAgain

end

end Courier.Proofs.JsonDuplicates
