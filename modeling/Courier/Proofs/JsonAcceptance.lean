import Courier.Proofs.JsonRemainders

/-! The scanner passes over nothing but values of the grammar. A byte that it accepts leads from what may
come before the byte to what may come after it; so all that it passes over is what may come where it
starts. -/

namespace Courier.Proofs.JsonAcceptance
open Json JsonGrammar JsonScanning JsonRemainders

/-- What may come after a byte; `none` stands for the end of the outermost value. -/
def Remains (stack : List Bracket) : Option Expect → Bytes → Prop
  | none, bytes => bytes = []
  | some next, bytes => Completes stack next bytes

private theorem closes_of_remains {stack : List Bracket} {bytes : Bytes}
    (remains : Remains stack (afterValue stack) bytes) : Closes stack bytes := by
  cases stack with
  | nil =>
    cases remains
    exact .none
  | cons bracket outer =>
    cases remains with
    | item finishes _ => cases finishes
    | empty same _ _ => cases bracket <;> cases same
    | past _ closes => exact closes

private theorem closes_of_none {stack : List Bracket} (ended : afterValue stack = none) : Closes stack [] := by
  cases stack with
  | nil => exact .none
  | cons bracket outer => cases ended

private theorem closes_of_some {stack : List Bracket} {next : Expect} {bytes : Bytes}
    (follows : afterValue stack = some next) (completes : Completes stack next bytes) : Closes stack bytes := by
  apply closes_of_remains
  rw [follows]
  exact completes

private theorem between_of_some {stack : List Bracket} {next : Expect} (follows : afterValue stack = some next) :
    Between next := by
  cases stack with
  | nil => cases follows
  | cons bracket outer =>
    cases follows
    exact .inr (.inr (.inr rfl))

private theorem closeValue_cases {stack inner : List Bracket} {b : UInt8} {next : Option Expect}
    (closed : closeValue stack b = .ok (inner, next)) :
    ∃ bracket outer, stack = bracket :: outer ∧
      (b = 0x2C ∧ inner = stack ∧ next = some (item bracket) ∨
        b = closing bracket ∧ inner = outer ∧ next = afterValue outer) := by
  cases stack with
  | nil => cases closed
  | cons bracket outer =>
    have known : closeValue (bracket :: outer) b =
        if b = 0x2C then .ok (bracket :: outer, some (item bracket))
        else if b = closing bracket then .ok (outer, afterValue outer)
        else .error .malformed := by
      cases bracket <;> rfl
    rw [known] at closed
    split at closed
    next comma =>
      cases closed
      exact ⟨bracket, outer, rfl, .inl ⟨comma, rfl, rfl⟩⟩
    split at closed
    next ends =>
      cases closed
      exact ⟨bracket, _, rfl, .inr ⟨ends, rfl, rfl⟩⟩
    next => cases closed

private theorem closeValue_closes {stack inner : List Bracket} {b : UInt8} {next : Option Expect} {bytes : Bytes}
    (closed : closeValue stack b = .ok (inner, next)) (remains : Remains inner next bytes) :
    Closes stack (b :: bytes) := by
  obtain ⟨bracket, outer, rfl, ⟨rfl, rfl, rfl⟩ | ⟨rfl, rfl, rfl⟩⟩ := closeValue_cases closed
  · obtain ⟨part, rest, rfl, finishes, closes⟩ :=
      finishes_of_completes (by cases bracket <;> rfl) remains
    obtain ⟨items, after, same, derived, closes⟩ := contents_of_closes finishes closes
    rw [same]
    exact .more blank_nil derived closes
  · exact .close blank_nil (closes_of_remains remains)

private theorem closeValue_empty {stack inner : List Bracket} (bracket : Bracket) {next : Option Expect}
    {bytes : Bytes} (closed : closeValue stack (closing bracket) = .ok (inner, next))
    (remains : Remains inner next bytes) :
    Completes stack (opened bracket) (closing bracket :: bytes) := by
  obtain ⟨found, outer, rfl, ⟨comma, _, _⟩ | ⟨same, rfl, rfl⟩⟩ := closeValue_cases closed
  · cases bracket <;> cases comma
  · have same : found = bracket := by
      cases bracket <;> cases found <;> first | rfl | cases same
    subst same
    exact .empty rfl blank_nil (closes_of_remains remains)

private theorem openValue_cases {stack inner : List Bracket} {b : UInt8} {next : Expect}
    (ok : openValue stack b = .ok (inner, next)) :
    (inner = stack ∧ inItem next = true ∧ ∀ part, Finishes next part → Derives .value (b :: part)) ∨
    ∃ bracket, inner = bracket :: stack ∧ next = opened bracket ∧ b = opening bracket := by
  have word (letters : Bytes) (known : b :: letters ∈ [ascii "null", ascii "true", ascii "false"]) :
      ∀ part, Finishes (.word letters) part → Derives .value (b :: part) := by
    rintro _ ⟨⟩
    exact .word known
  unfold openValue at ok
  split at ok
  next letter =>
    cases ok
    exact .inl ⟨rfl, rfl, word _ (by subst letter; decide)⟩
  split at ok
  next letter =>
    cases ok
    exact .inl ⟨rfl, rfl, word _ (by subst letter; decide)⟩
  split at ok
  next letter =>
    cases ok
    exact .inl ⟨rfl, rfl, word _ (by subst letter; decide)⟩
  split at ok
  next minus =>
    cases ok
    refine .inl ⟨rfl, rfl, ?_⟩
    intro part finishes
    subst minus
    cases finishes with
    | wholePart whole fraction exponent =>
      exact .number (@Numeral.of (ascii "-") _ _ _ (by decide) whole fraction exponent)
  split at ok
  next zero =>
    cases ok
    refine .inl ⟨rfl, rfl, ?_⟩
    intro part finishes
    subst zero
    cases finishes with
    | afterWhole fraction exponent =>
      exact .number (@Numeral.of [] _ _ _ (by decide) .zero fraction exponent)
  split at ok
  next zero digit =>
    cases ok
    refine .inl ⟨rfl, rfl, ?_⟩
    intro part finishes
    cases finishes with
    | moreDigits digits fraction exponent =>
      have whole := Whole.positive (nonzero_digit digit zero) digits
      exact .number (@Numeral.of [] _ _ _ (by decide) whole fraction exponent)
  split at ok
  next quote =>
    cases ok
    refine .inl ⟨rfl, rfl, ?_⟩
    intro part finishes
    subst quote
    cases finishes with
    | string body => exact .string body
  split at ok
  next bracket =>
    cases ok
    exact .inr ⟨.list, rfl, rfl, bracket⟩
  split at ok
  next bracket =>
    cases ok
    exact .inr ⟨.object, rfl, rfl, bracket⟩
  next => cases ok

private theorem openValue_completes {stack inner : List Bracket} {b : UInt8} {next : Expect} {bytes : Bytes}
    (ok : openValue stack b = .ok (inner, next)) (completes : Completes inner next bytes) :
    Completes stack .value (b :: bytes) := by
  rcases openValue_cases ok with ⟨rfl, inside, derives⟩ | ⟨bracket, rfl, rfl, rfl⟩
  · obtain ⟨part, rest, rfl, finishes, closes⟩ := finishes_of_completes inside completes
    exact .item (.value blank_nil (derives part finishes)) closes
  · obtain ⟨more, rest, rfl, derived, closes⟩ := value_of_opened completes
    exact .item (.value blank_nil derived) closes

private theorem map_openValue_completes {stack inner : List Bracket} {b : UInt8} {next : Option Expect}
    {bytes : Bytes}
    (ok : (openValue stack b).map (fun (stack, next) => (stack, some next)) = .ok (inner, next))
    (remains : Remains inner next bytes) : Completes stack .value (b :: bytes) := by
  cases opens : openValue stack b with
  | error why =>
    rw [opens] at ok
    cases ok
  | ok found =>
    rw [opens] at ok
    cases ok
    exact openValue_completes opens remains

private theorem between_completes {stack inner : List Bracket} {expect : Expect} {b : UInt8} {next : Option Expect}
    {bytes : Bytes} (between : Between expect) (ok : betweenLexemes stack expect b = .ok (inner, next))
    (remains : Remains inner next bytes) : Completes stack expect (b :: bytes) := by
  have named (completes : Completes stack (.string true) bytes) : Completes stack .name (0x22 :: bytes) := by
    obtain ⟨part, rest, rfl, finishes, closes⟩ := finishes_of_completes rfl completes
    cases finishes with
    | nameString body colon => exact .item (.name blank_nil body colon) closes
  unfold betweenLexemes at ok
  split at ok
  next blank =>
    cases ok
    cases remains with
    | item finishes closes => exact .item (finishes.blank between blank) closes
    | empty same before closes => exact .empty same (blank_cons blank before) closes
    | past same closes =>
      cases closes with
      | close before closes => exact .past same (.close (blank_cons blank before) closes)
      | more before derived closes => exact .past same (.more (blank_cons blank before) derived closes)
  next =>
    rcases between with (rfl | rfl) | (rfl | rfl) | rfl | rfl
    · exact map_openValue_completes ok remains
    · simp only at ok
      split at ok
      next ends =>
        subst ends
        exact closeValue_empty .list ok remains
      next =>
        obtain ⟨part, rest, same, finishes, closes⟩ :=
          finishes_of_completes rfl (map_openValue_completes ok remains)
        rw [same]
        exact .item (.firstItem finishes) closes
    · simp only at ok
      split at ok
      next quote =>
        cases ok
        subst quote
        exact named remains
      next => cases ok
    · simp only at ok
      split at ok
      next ends =>
        subst ends
        exact closeValue_empty .object ok remains
      split at ok
      next quote =>
        cases ok
        subst quote
        obtain ⟨part, rest, same, finishes, closes⟩ := finishes_of_completes rfl (named remains)
        rw [same]
        exact .item (.firstName finishes) closes
      next => cases ok
    · simp only at ok
      split at ok
      next colon =>
        cases ok
        subst colon
        obtain ⟨part, rest, rfl, finishes, closes⟩ := finishes_of_completes rfl remains
        exact .item (.colon blank_nil finishes) closes
      next => cases ok
    · have closes := closeValue_closes ok remains
      obtain ⟨bracket, outer, rfl, _⟩ := closeValue_cases ok
      exact .past rfl closes

private theorem between_of_rest {expect : Expect} (number : ¬ expect.isNumber = true)
    (string : ∀ isName, expect = .string isName → False) (empty : expect = .word [] → False)
    (word : ∀ letter letters, expect = .word (letter :: letters) → False) : Between expect := by
  cases expect with
  | value => exact .inl (.inl rfl)
  | itemOrEnd => exact .inl (.inr rfl)
  | name => exact .inr (.inl (.inl rfl))
  | nameOrEnd => exact .inr (.inl (.inr rfl))
  | colon => exact .inr (.inr (.inl rfl))
  | commaOrEnd => exact .inr (.inr (.inr rfl))
  | string isName => exact (string isName rfl).elim
  | word letters =>
    cases letters with
    | nil => exact (empty rfl).elim
    | cons letter letters => exact (word letter letters rfl).elim
  | _ => exact (number rfl).elim

/-- What the scanner passes over is what may come where it starts. -/
theorem scan_completes {stack : List Bracket} {expect : Expect} {bytes rest : Bytes}
    (scanned : scan stack expect bytes = .ok rest) :
    ∃ passed, bytes = passed ++ rest ∧ Completes stack expect passed := by
  fun_induction scan stack expect bytes with
  -- A number at the end of the text.
  | case1 stack expect may outermost =>
    cases scanned
    have outermost : stack = [] := List.isEmpty_iff.mp outermost
    subst outermost
    exact ⟨[], rfl, .item (finishes_number may) .none⟩
  -- Inside a string: its end, then escapes and characters.
  | case4 stack more ih =>
    obtain ⟨passed, rfl, completes⟩ := ih scanned
    exact ⟨0x22 :: passed, rfl, name_ends completes⟩
  | case5 stack more ended =>
    cases scanned
    exact ⟨[0x22], rfl, .item (.string .nil) (closes_of_none ended)⟩
  | case6 stack more next follows ih =>
    obtain ⟨passed, rfl, completes⟩ := ih scanned
    exact ⟨0x22 :: passed, rfl, .item (.string .nil) (closes_of_some follows completes)⟩
  | case8 stack isName e f g h more hex _ ih =>
    obtain ⟨passed, rfl, completes⟩ := ih scanned
    exact ⟨_, rfl, string_goes (ascii "\\u" ++ [e, f, g, h]) (fun _ => .unit (mem_of_hex4 hex)) completes⟩
  | case11 stack isName e more _ known _ ih =>
    obtain ⟨passed, rfl, completes⟩ := ih scanned
    exact ⟨_, rfl, string_goes (ascii "\\" ++ [e]) (fun _ => .escape (mem_of_escaped known)) completes⟩
  | case14 stack b more isName quote backslash printable ih =>
    obtain ⟨passed, rfl, completes⟩ := ih scanned
    have free : b ∉ ascii "\"\\" := by
      have known : ascii "\"\\" = [0x22, 0x5C] := rfl
      simp [known, quote, backslash]
    exact ⟨_, rfl, string_goes [b] (fun _ => .plain (UInt8.not_lt.mp printable) free) completes⟩
  -- Inside a word.
  | case17 stack b more letter letters same _ ih =>
    obtain ⟨passed, rfl, completes⟩ := ih scanned
    have same : b = letter := by simpa using same
    subst same
    exact ⟨b :: passed, rfl, word_goes completes⟩
  | case18 stack b more letter letters same last ended =>
    cases scanned
    have same : b = letter := by simpa using same
    have last : letters = [] := by simpa using last
    subst same last
    exact ⟨[b], rfl, .item .word (closes_of_none ended)⟩
  | case19 stack b more letter letters same last next follows ih =>
    obtain ⟨passed, rfl, completes⟩ := ih scanned
    have same : b = letter := by simpa using same
    have last : letters = [] := by simpa using last
    subst same last
    exact ⟨b :: passed, rfl, .item .word (closes_of_some follows completes)⟩
  -- Inside a number: it goes on, or it has ended before a byte that stands between lexemes.
  | case21 stack expect b more inside next goes _ _ _ ih =>
    simp only [inside, if_true, goes] at scanned
    obtain ⟨passed, rfl, completes⟩ := ih scanned
    exact ⟨b :: passed, rfl, number_goes_on inside goes completes⟩
  | case22 stack expect b more inside ends ended =>
    simp only [inside, if_true, ends, ended] at scanned
    cases scanned
    exact ⟨[], rfl, .item (finishes_number (number_ends inside ends)) (closes_of_none ended)⟩
  | case24 stack expect b more inside ends next follows inner between =>
    simp only [inside, if_true, ends, follows, between] at scanned
    cases scanned
    have completes : Completes stack next [b] := between_completes (between_of_some follows) between rfl
    exact ⟨[b], rfl, .item (finishes_number (number_ends inside ends)) (closes_of_some follows completes)⟩
  | case25 stack expect b more inside ends next follows inner after between _ _ _ ih =>
    simp only [inside, if_true, ends, follows, between] at scanned
    obtain ⟨passed, rfl, completes⟩ := ih scanned
    have completes := between_completes (between_of_some follows) between completes
    exact ⟨b :: passed, rfl, .item (finishes_number (number_ends inside ends)) (closes_of_some follows completes)⟩
  -- Between lexemes.
  | case27 stack expect b more outside inner between string empty word =>
    simp only [outside, between] at scanned
    cases scanned
    exact ⟨[b], rfl, between_completes (between_of_rest outside string empty word) between rfl⟩
  | case28 stack expect b more outside inner next between string empty word ih =>
    simp only [outside, between] at scanned
    obtain ⟨passed, rfl, completes⟩ := ih scanned
    exact ⟨b :: passed, rfl, between_completes (between_of_rest outside string empty word) between completes⟩
  | _ => simp_all

/-! Values that are cut out of a text. -/

private theorem blank_of_isBlank {bytes : Bytes} (all : ∀ b ∈ bytes, isBlank b = true) : Blank bytes := by
  induction bytes with
  | nil => exact blank_nil
  | cons b more ih =>
    exact blank_cons (all b List.mem_cons_self) (ih fun c member => all c (List.mem_cons_of_mem _ member))

theorem skipBlanks_cases (bytes : Bytes) :
    ∃ blanks, Blank blanks ∧ bytes = blanks ++ skipBlanks bytes ∧
      ∀ b ∈ (skipBlanks bytes).head?, isBlank b = false := by
  refine ⟨bytes.takeWhile isBlank, blank_of_isBlank (List.all_eq_true.mp List.all_takeWhile), ?_, ?_⟩
  · exact List.takeWhile_append_dropWhile.symm
  · intro b first
    have := List.head?_dropWhile_not isBlank bytes
    rw [skipBlanks] at first
    rw [Option.mem_def.mp first] at this
    simpa using this

/-- A value that is found at a byte that is no blank starts there. -/
theorem value_of_completes {bytes rest : Bytes} (solid : ∀ b ∈ (bytes ++ rest).head?, isBlank b = false)
    (completes : Completes [] .value bytes) : Derives .value bytes := by
  obtain ⟨part, after, rfl, finishes, closes⟩ := finishes_of_completes rfl completes
  cases closes
  cases finishes with
  | @value blanks value blank derived =>
    cases blanks with
    | nil => simpa using derived
    | cons b more =>
      have first := solid b rfl
      rw [isBlank_of_mem (blank b List.mem_cons_self)] at first
      cases first

theorem readRaw_derives {bytes raw rest : Bytes} (read : readRaw bytes = .ok (raw, rest)) :
    Derives .value raw ∧ Utf8.isText raw = true ∧ ∃ blanks, Blank blanks ∧ bytes = blanks ++ (raw ++ rest) := by
  obtain ⟨blanks, blank, split, solid⟩ := skipBlanks_cases bytes
  simp only [readRaw, bind, Except.bind] at read
  split at read
  next => cases read
  next after scanned =>
    obtain ⟨passed, same, completes⟩ := scan_completes scanned
    have taken : (skipBlanks bytes).take ((skipBlanks bytes).length - after.length) = passed := by
      rw [same, List.length_append, Nat.add_sub_cancel]
      exact List.take_left
    rw [taken] at read
    split at read
    next text =>
      cases read
      rw [same] at solid split
      exact ⟨value_of_completes solid completes, text, blanks, blank, split⟩
    next => cases read

theorem expectEnd_blank {bytes : Bytes} (ended : expectEnd bytes = .ok ()) : Blank bytes := by
  obtain ⟨blanks, blank, split, _⟩ := skipBlanks_cases bytes
  rw [expectEnd] at ended
  split at ended
  next nothing =>
    rw [List.isEmpty_iff.mp nothing, List.append_nil] at split
    rw [split]
    exact blank
  next => cases ended

/-- The text of a value is what remains of a JSON text without the blanks around it. -/
theorem readRawText_iff {bytes raw : Bytes} :
    readRawText bytes = .ok raw ↔ Derives .value raw ∧ Utf8.isText raw = true ∧
      ∃ before after, Blank before ∧ Blank after ∧ bytes = before ++ (raw ++ after) := by
  constructor
  · intro read
    simp only [readRawText, bind, Except.bind] at read
    split at read
    next => cases read
    next found reads =>
      split at read
      next => cases read
      next ended =>
        cases read
        obtain ⟨derived, text, before, blank, same⟩ := readRaw_derives reads
        exact ⟨derived, text, before, found.2, blank, expectEnd_blank ended, same⟩
  · rintro ⟨derived, text, before, after, before_blank, after_blank, rfl⟩
    have stops : Stops after := by
      rw [← List.append_nil after]
      exact stops_nil.blank after_blank
    simp only [readRawText, readRaw_value derived text before after before_blank stops, bind, Except.bind,
      expectEnd, skipBlanks_blank after_blank]
    rfl

end Courier.Proofs.JsonAcceptance
