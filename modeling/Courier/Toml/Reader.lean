import Courier.Toml.Node

/-! Reading TOML 1.0. Every reader takes the characters that start with its subject and returns what
it read with the characters that follow; `none` refuses the document. -/

namespace Courier.Toml

abbrev Text := List Char
abbrev Read (α : Type) := Text → Option (α × Text)

/-- How deep arrays and inline tables may nest, and how many parts a key may have. -/
def depthLimit : Nat := 79

def isSpace (c : Char) : Bool := c = ' ' || c = '\t'
def skipSpaces (text : Text) : Text := text.dropWhile isSpace

/-- A character that may stand in a comment or a literal string. -/
def isPlain (c : Char) : Bool := c = '\t' || (0x20 ≤ c.toNat && c.toNat != 0x7F)

def newline? : Text → Option Text
  | '\n' :: rest => some rest
  | '\r' :: '\n' :: rest => some rest
  | _ => none

def skipComment : Text → Text
  | '#' :: rest => rest.dropWhile isPlain
  | text => text

def skipLines : Nat → Text → Text
  | 0, text => text
  | fuel + 1, text =>
    let text := skipComment (skipSpaces text)
    match newline? text with
    | some rest => skipLines fuel rest
    | none => text

def hexDigit? (c : Char) : Option Nat :=
  if c.isDigit then some (c.toNat - '0'.toNat)
  else if 'a' ≤ c && c ≤ 'f' then some (c.toNat - 'a'.toNat + 10)
  else if 'A' ≤ c && c ≤ 'F' then some (c.toNat - 'A'.toNat + 10)
  else none

def digitsValue? (base : Nat) (digits : Text) : Option Nat :=
  if digits.isEmpty then none
  else digits.foldlM (fun n c => do
    let d ← hexDigit? c
    if d < base then some (n * base + d) else none) 0

/-- The character of a number of exactly so many hexadecimal digits. -/
def unicodeEscape (width : Nat) : Read Char := fun text => do
  let digits := text.take width
  if digits.length < width then none
  let n ← digitsValue? 16 digits
  if n < 0xD800 || (0xE000 ≤ n && n < 0x110000) then some (Char.ofNat n, text.drop width) else none

def escape : Read Char
  | 'b' :: rest => some ('\x08', rest)
  | 't' :: rest => some ('\t', rest)
  | 'n' :: rest => some ('\n', rest)
  | 'f' :: rest => some ('\x0c', rest)
  | 'r' :: rest => some ('\r', rest)
  | '"' :: rest => some ('"', rest)
  | '\\' :: rest => some ('\\', rest)
  | 'u' :: rest => unicodeEscape 4 rest
  | 'U' :: rest => unicodeEscape 8 rest
  | _ => none

def basicString : Nat → Text → Text → Option (String × Text)
  | 0, _, _ => none
  | fuel + 1, text, done =>
    match text with
    | '"' :: rest => some (String.ofList done.reverse, rest)
    | '\\' :: rest => do
      let (c, rest) ← escape rest
      basicString fuel rest (c :: done)
    | c :: rest => if isPlain c then basicString fuel rest (c :: done) else none
    | [] => none

def literalString (text : Text) : Option (String × Text) :=
  let body := text.takeWhile fun c => isPlain c && c != '\''
  match text.drop body.length with
  | '\'' :: rest => some (String.ofList body, rest)
  | _ => none

def countFront (c : Char) (text : Text) : Nat := (text.takeWhile (· = c)).length

/-- Blanks and ends of lines after a backslash at the end of a line. -/
def skipBlankLines : Nat → Text → Text
  | 0, text => text
  | fuel + 1, text =>
    let text := skipSpaces text
    match newline? text with
    | some rest => skipBlankLines fuel rest
    | none => text

/-- The rest of a string between triple quotes, which may end in up to two quotes of its own. -/
def multiString (quote : Char) (escapes : Bool) : Nat → Text → Text → Option (String × Text)
  | 0, _, _ => none
  | fuel + 1, text, done =>
    match text with
    | [] => none
    | c :: rest =>
      if c = quote then
        let count := countFront quote text
        if 5 < count then none
        else if 3 ≤ count then
          some (String.ofList (List.replicate (count - 3) quote ++ done).reverse, text.drop count)
        else multiString quote escapes fuel (text.drop count) (List.replicate count quote ++ done)
      else if escapes && c = '\\' then
        match newline? (skipSpaces rest) with
        | some after => multiString quote escapes fuel (skipBlankLines after.length after) done
        | none => do
          let (c, rest) ← escape rest
          multiString quote escapes fuel rest (c :: done)
      else
        match newline? text with
        | some after => multiString quote escapes fuel after ('\n' :: done)
        | none => if isPlain c then multiString quote escapes fuel rest (c :: done) else none

/-- The end of a line right after opening triple quotes does not count. -/
def afterOpening (text : Text) : Text := (newline? text).getD text

def readString (text : Text) : Option (String × Text) :=
  match text with
  | '"' :: '"' :: '"' :: rest => multiString '"' true (rest.length + 1) (afterOpening rest) []
  | '\'' :: '\'' :: '\'' :: rest => multiString '\'' false (rest.length + 1) (afterOpening rest) []
  | '"' :: rest => basicString (rest.length + 1) rest []
  | '\'' :: rest => literalString rest
  | _ => none

def isBareKey (c : Char) : Bool := c.isAlphanum || c = '_' || c = '-'

def readKeyPart (text : Text) : Option (String × Text) :=
  match text with
  | '"' :: rest => basicString (rest.length + 1) rest []
  | '\'' :: rest => literalString rest
  | _ =>
    let bare := text.takeWhile isBareKey
    if bare.isEmpty then none else some (String.ofList bare, text.dropWhile isBareKey)

/-- A key of parts between dots: the parts before the last one, and the last one. -/
def readKey : Nat → Text → Option ((List String × String) × Text)
  | 0, _ => none
  | fuel + 1, text => do
    let (part, rest) ← readKeyPart (skipSpaces text)
    match skipSpaces rest with
    | '.' :: rest => do
      let ((path, last), rest) ← readKey fuel rest
      return ((part :: path, last), rest)
    | rest => return (([], part), rest)

/-- Digits with single underscores between them. -/
def readDigits (isDigit : Char → Bool) : Nat → Text → Option (Text × Text)
  | 0, _ => none
  | fuel + 1, text =>
    let front := text.takeWhile isDigit
    if front.isEmpty then none
    else
      match text.dropWhile isDigit with
      | '_' :: rest => do
        let (more, rest) ← readDigits isDigit fuel rest
        return (front ++ more, rest)
      | rest => some (front, rest)

/-- An integer fits into 64 bits. -/
def integer? (negative : Bool) (n : Nat) : Option Node :=
  if negative then if n ≤ 9223372036854775808 then some (.integer (-(n : Int))) else none
  else if n ≤ 9223372036854775807 then some (.integer n) else none

def readBased (base : Nat) (text : Text) : Option (Node × Text) := do
  let isDigit (c : Char) : Bool := ((hexDigit? c).map fun d => decide (d < base)).getD false
  let (digits, rest) ← readDigits isDigit text.length text
  let node ← integer? false (← digitsValue? base digits)
  return (node, rest)

def readFraction : Read Text
  | '.' :: rest => readDigits Char.isDigit rest.length rest
  | text => some ([], text)

def readExponent (text : Text) : Option (Option Int × Text) :=
  let digits (negative : Bool) (rest : Text) : Option (Option Int × Text) := do
    let (digits, rest) ← readDigits Char.isDigit rest.length rest
    let size := digits.dropWhile (· = '0')
    -- An exponent of more digits is out of range on either side.
    let n := if 6 < size.length then 1000000 else (digitsValue? 10 digits).getD 0
    return (some (if negative then -(n : Int) else n), rest)
  match text with
  | 'e' :: '-' :: rest => digits true rest
  | 'E' :: '-' :: rest => digits true rest
  | 'e' :: '+' :: rest => digits false rest
  | 'E' :: '+' :: rest => digits false rest
  | 'e' :: rest => digits false rest
  | 'E' :: rest => digits false rest
  | _ => some (none, text)

/-- A number after its sign. A double too large for its format is refused unless it is negative. -/
def readUnsigned (signed negative : Bool) (text : Text) : Option (Node × Text) :=
  match text with
  | 'i' :: 'n' :: 'f' :: rest => some (.double (.infinity negative), rest)
  | 'n' :: 'a' :: 'n' :: rest => some (.double { Binary64.nan with negative := negative }, rest)
  | '0' :: 'x' :: rest => if signed then none else readBased 16 rest
  | '0' :: 'o' :: rest => if signed then none else readBased 8 rest
  | '0' :: 'b' :: rest => if signed then none else readBased 2 rest
  | c :: _ => do
    let (whole, rest) ←
      if c = '0' then some (['0'], text.drop 1) else readDigits Char.isDigit text.length text
    let (fraction, rest) ← readFraction rest
    let (exponent, rest) ← readExponent rest
    let n ← digitsValue? 10 (whole ++ fraction)
    if fraction.isEmpty && exponent.isNone then return (← integer? negative n, rest)
    else
      let x := Binary64.ofDecimal negative n (exponent.getD 0 - fraction.length)
      if x.isInfinite && !negative then none else return (.double x, rest)
  | [] => none

def readFixed (width : Nat) : Read Nat := fun text => do
  let digits := text.take width
  if digits.length < width || !digits.all Char.isDigit then none
  return (← digitsValue? 10 digits, text.drop width)

def daysInMonth (year month : Nat) : Nat :=
  let leap := year % 4 = 0 && (year % 100 != 0 || year % 400 = 0)
  if month = 2 then if leap then 29 else 28
  else if month = 4 || month = 6 || month = 9 || month = 11 then 30 else 31

def readDate (text : Text) : Option Text := do
  let (year, rest) ← readFixed 4 text
  let '-' :: rest := rest | none
  let (month, rest) ← readFixed 2 rest
  let '-' :: rest := rest | none
  let (day, rest) ← readFixed 2 rest
  if 1 ≤ month && month ≤ 12 && 1 ≤ day && day ≤ daysInMonth year month then some rest else none

def readTime (text : Text) : Option Text := do
  let (hour, rest) ← readFixed 2 text
  let ':' :: rest := rest | none
  let (minute, rest) ← readFixed 2 rest
  let ':' :: rest := rest | none
  let (second, rest) ← readFixed 2 rest
  if 23 < hour || 59 < minute || 60 < second then none
  match rest with
  | '.' :: rest =>
    if (rest.takeWhile Char.isDigit).isEmpty then none else some (rest.dropWhile Char.isDigit)
  | _ => some rest

/-- An offset from universal time, if there is one. -/
def readOffset (text : Text) : Option Text :=
  let clock (rest : Text) : Option Text := do
    let (hour, rest) ← readFixed 2 rest
    let ':' :: rest := rest | none
    let (minute, rest) ← readFixed 2 rest
    if hour ≤ 23 && minute ≤ 59 then some rest else none
  match text with
  | 'Z' :: rest => some rest
  | 'z' :: rest => some rest
  | '+' :: rest => clock rest
  | '-' :: rest => clock rest
  | _ => some text

def readDatetime (text : Text) : Option Text :=
  match readDate text with
  | none => readTime text
  | some rest =>
    match rest with
    | 'T' :: time => (readTime time).bind readOffset
    | 't' :: time => (readTime time).bind readOffset
    | ' ' :: time =>
      match readTime time with
      | some rest => readOffset rest
      | none => some rest
    | _ => some rest

def looksLikeDatetime : Text → Bool
  | a :: b :: ':' :: _ => a.isDigit && b.isDigit
  | a :: b :: c :: d :: '-' :: _ => a.isDigit && b.isDigit && c.isDigit && d.isDigit
  | _ => false

def readScalar (text : Text) : Option (Node × Text) :=
  if looksLikeDatetime text then (readDatetime text).map fun rest => (.datetime, rest)
  else
    match text with
    | '+' :: rest => readUnsigned true false rest
    | '-' :: rest => readUnsigned true true rest
    | _ => readUnsigned false false text

def readItems (value : Read Node) : Nat → Text → List Node → Option (List Node × Text)
  | 0, _, _ => none
  | fuel + 1, text, done =>
    match skipLines text.length text with
    | ']' :: rest => some (done.reverse, rest)
    | text => do
      let (node, rest) ← value text
      match skipLines rest.length rest with
      | ',' :: rest => readItems value fuel rest (node :: done)
      | ']' :: rest => some ((node :: done).reverse, rest)
      | _ => none

def readEntries (value : Read Node) : Nat → Text → Entries → Option (Entries × Text)
  | 0, _, _ => none
  | fuel + 1, text, done => do
    let ((path, key), rest) ← readKey depthLimit text
    let '=' :: rest := skipSpaces rest | none
    let (node, rest) ← value (skipSpaces rest)
    let done ← insertDotted key node path done
    match skipSpaces rest with
    | ',' :: rest => readEntries value fuel rest done
    | '\x7d' :: rest => some (done, rest)
    | _ => none

/-- A value in which at most `depth` further brackets open inside each other. -/
def readValue (depth : Nat) (text : Text) : Option (Node × Text) :=
  match text with
  | '"' :: _ => (readString text).map fun (s, rest) => (.text s, rest)
  | '\'' :: _ => (readString text).map fun (s, rest) => (.text s, rest)
  | 't' :: 'r' :: 'u' :: 'e' :: rest => some (.boolean true, rest)
  | 'f' :: 'a' :: 'l' :: 's' :: 'e' :: rest => some (.boolean false, rest)
  | '[' :: rest =>
    match depth with
    | 0 => none
    | depth + 1 =>
      (readItems (readValue depth) (rest.length + 1) rest []).map fun (items, rest) =>
        (.array items, rest)
  | '\x7b' :: rest =>
    match depth with
    | 0 => none
    | depth + 1 =>
      match skipSpaces rest with
      | '\x7d' :: rest => some (.table .inline [], rest)
      | rest =>
        (readEntries (readValue depth) (rest.length + 1) rest []).map fun (entries, rest) =>
          (.table .inline entries, rest)
  | _ => readScalar text
termination_by structural depth

inductive Line where
  | blank
  | entry (path : List String) (key : String) (node : Node)
  | table (path : List String) (key : String)
  | tables (path : List String) (key : String)

/-- The content of a line, without its end. -/
def readLine (text : Text) : Option (Line × Text) :=
  match skipSpaces text with
  | '[' :: '[' :: rest => do
    let ((path, key), rest) ← readKey depthLimit rest
    let ']' :: ']' :: rest := skipSpaces rest | none
    return (.tables path key, rest)
  | '[' :: rest => do
    let ((path, key), rest) ← readKey depthLimit rest
    let ']' :: rest := skipSpaces rest | none
    return (.table path key, rest)
  | [] => some (.blank, [])
  | c :: rest =>
    if c = '#' || c = '\n' || c = '\r' then some (.blank, c :: rest)
    else do
      let ((path, key), rest) ← readKey depthLimit (c :: rest)
      let '=' :: rest := skipSpaces rest | none
      let (node, rest) ← readValue depthLimit (skipSpaces rest)
      return (.entry path key node, rest)

def readLines : Nat → Text → List Line → Option (List Line)
  | 0, _, _ => none
  | fuel + 1, text, done => do
    let (line, rest) ← readLine text
    match skipComment (skipSpaces rest) with
    | [] => return (line :: done).reverse
    | rest => readLines fuel (← newline? rest) (line :: done)

/-- The entries up to the next header, and the lines from that header on. -/
def fillTable : List Line → Entries → Option Entries
  | [], entries => some entries
  | .blank :: rest, entries => fillTable rest entries
  | .entry path key node :: rest, entries => do fillTable rest (← insertDotted key node path entries)
  | _ :: _, entries => some entries

def nextHeader : List Line → List Line
  | [] => []
  | .blank :: rest => nextHeader rest
  | .entry _ _ _ :: rest => nextHeader rest
  | header :: rest => header :: rest

/-- Adds the tables of all headers to the root. -/
def addTables : Nat → List Line → Entries → Option Entries
  | 0, _, _ => none
  | fuel + 1, lines, root =>
    match nextHeader lines with
    | [] => some root
    | header :: rest => do
      let root ←
        match header with
        | .table path key => atHeader (openTable key (fillTable rest)) path root
        | .tables path key => atHeader (appendTable key (fillTable rest)) path root
        | _ => some root
      addTables fuel rest root

def parse? (document : String) : Option Entries := do
  let text :=
    match document.toList with
    | '\ufeff' :: rest => rest
    | text => text
  let lines ← readLines (text.length + 1) text []
  addTables (lines.length + 1) lines (← fillTable lines [])

end Courier.Toml
