import Courier.Json.Lexeme

/-! Passing over a JSON value without building it. The scanner is a machine with a stack of open
brackets, so values may nest to any depth. It checks the grammar alone: strings need not be UTF-8
and escaped surrogates need no partner. -/

namespace Courier.Json

inductive Bracket where
  | list
  | object
deriving Repr, DecidableEq

inductive Expect where
  | value
  | itemOrEnd
  /-- A name or the end of an object that has just been opened. -/
  | nameOrEnd
  | name
  | colon
  /-- A comma or the end of the innermost bracket. -/
  | commaOrEnd
  /-- The rest of a string; a name of a member if the flag is set. -/
  | string (isName : Bool)
  | word (rest : List UInt8)
  /-- The digits of a number after its sign. -/
  | wholePart
  /-- More digits of the whole part, a fraction, an exponent, or the end of the number. -/
  | moreDigits
  /-- A fraction, an exponent, or the end of the number. -/
  | afterWhole
  | fraction
  | moreFraction
  | exponentSign
  | exponent
  | moreExponent
deriving Repr, DecidableEq

/-- What is expected once a value has ended inside the given brackets; nothing outside all of them. -/
def afterValue : List Bracket → Option Expect
  | [] => none
  | _ :: _ => some .commaOrEnd

/-- Whether a number may end where the scanner stands. -/
def Expect.endsNumber : Expect → Bool
  | moreDigits => true
  | afterWhole => true
  | moreFraction => true
  | moreExponent => true
  | _ => false

/-- What the text lacks if it ends here. A number is cut short as a malformed one. -/
def Expect.atEnd : Expect → Error
  | wholePart => .malformed
  | fraction => .malformed
  | exponentSign => .malformed
  | exponent => .malformed
  | _ => .truncated

/-- What one byte, which is no blank, does where a value may start. -/
def openValue (stack : List Bracket) (b : UInt8) : Except Error (List Bracket × Expect) :=
  if b = 0x6E then .ok (stack, .word [0x75, 0x6C, 0x6C])
  else if b = 0x74 then .ok (stack, .word [0x72, 0x75, 0x65])
  else if b = 0x66 then .ok (stack, .word [0x61, 0x6C, 0x73, 0x65])
  else if b = 0x2D then .ok (stack, .wholePart)
  else if b = 0x30 then .ok (stack, .afterWhole)
  else if isDigit b then .ok (stack, .moreDigits)
  else if b = 0x22 then .ok (stack, .string false)
  else if b = 0x5B then .ok (.list :: stack, .itemOrEnd)
  else if b = 0x7B then .ok (.object :: stack, .nameOrEnd)
  else .error .malformed

/-- What one byte does after a value. `none` stands for the end of the outermost value. -/
def closeValue (stack : List Bracket) (b : UInt8) : Except Error (List Bracket × Option Expect) :=
  match stack with
  | [] => .error .malformed
  | .list :: outer =>
    if b = 0x2C then .ok (stack, some .value)
    else if b = 0x5D then .ok (outer, afterValue outer)
    else .error .malformed
  | .object :: outer =>
    if b = 0x2C then .ok (stack, some .name)
    else if b = 0x7D then .ok (outer, afterValue outer)
    else .error .malformed

/-- What one byte does inside a number: the number goes on, or it has ended before the byte. -/
def insideNumber (expect : Expect) (b : UInt8) : Except Error (Option Expect) :=
  match expect with
  | .wholePart =>
    if b = 0x30 then .ok (some .afterWhole)
    else if isDigit b then .ok (some .moreDigits)
    else .error .malformed
  | .moreDigits =>
    if isDigit b then .ok (some .moreDigits)
    else if b = 0x2E then .ok (some .fraction)
    else if b = 0x65 || b = 0x45 then .ok (some .exponentSign)
    else .ok none
  | .afterWhole =>
    if isDigit b then .error .malformed
    else if b = 0x2E then .ok (some .fraction)
    else if b = 0x65 || b = 0x45 then .ok (some .exponentSign)
    else .ok none
  | .fraction => if isDigit b then .ok (some .moreFraction) else .error .malformed
  | .moreFraction =>
    if isDigit b then .ok (some .moreFraction)
    else if b = 0x65 || b = 0x45 then .ok (some .exponentSign)
    else .ok none
  | .exponentSign =>
    if b = 0x2B || b = 0x2D then .ok (some .exponent)
    else if isDigit b then .ok (some .moreExponent)
    else .error .malformed
  | .exponent => if isDigit b then .ok (some .moreExponent) else .error .malformed
  | _ => if isDigit b then .ok (some .moreExponent) else .ok none

def Expect.isNumber : Expect → Bool
  | wholePart => true
  | moreDigits => true
  | afterWhole => true
  | fraction => true
  | moreFraction => true
  | exponentSign => true
  | exponent => true
  | moreExponent => true
  | _ => false

/-- One byte outside strings, words and numbers. -/
def betweenLexemes (stack : List Bracket) (expect : Expect) (b : UInt8) :
    Except Error (List Bracket × Option Expect) :=
  let value := (openValue stack b).map fun (stack, next) => (stack, some next)
  if isBlank b then .ok (stack, some expect)
  else
    match expect with
    | .itemOrEnd => if b = 0x5D then closeValue stack b else value
    | .nameOrEnd =>
      if b = 0x7D then closeValue stack b
      else if b = 0x22 then .ok (stack, some (.string true))
      else .error .unnamedMember
    | .name => if b = 0x22 then .ok (stack, some (.string true)) else .error .unnamedMember
    | .colon => if b = 0x3A then .ok (stack, some .value) else .error .malformed
    | .commaOrEnd => closeValue stack b
    | _ => value

/-- Runs the scanner to the end of the value and returns the bytes after it. -/
def scan (stack : List Bracket) (expect : Expect) : Bytes → Except Error Bytes
  | [] =>
    if expect.endsNumber then if stack.isEmpty then .ok [] else .error .truncated
    else .error expect.atEnd
  | b :: rest =>
    match expect with
    | .string isName =>
      if b = 0x22 then
        match isName, afterValue stack with
        | true, _ => scan stack .colon rest
        | false, none => .ok rest
        | false, some next => scan stack next rest
      else if b = 0x5C then
        match rest with
        | [] => .error .truncated
        | 0x75 :: digits =>
          match digits with
          | e :: f :: g :: h :: rest =>
            if (hex4? e f g h).isSome then scan stack expect rest else .error .malformed
          | _ => .error .truncated
        | e :: rest => if (escaped? e).isSome then scan stack expect rest else .error .malformed
      else if b < 0x20 then .error .malformed
      else scan stack expect rest
    | .word [] => .error .malformed
    | .word (w :: word) =>
      if b != w then .error .malformed
      else if !word.isEmpty then scan stack (.word word) rest
      else
        match afterValue stack with
        | none => .ok rest
        | some next => scan stack next rest
    | _ =>
      if expect.isNumber then
        match insideNumber expect b with
        | .error e => .error e
        | .ok (some next) => scan stack next rest
        | .ok none =>
          match afterValue stack with
          | none => .ok (b :: rest)
          | some next =>
            match betweenLexemes stack next b with
            | .error e => .error e
            | .ok (_, none) => .ok rest
            | .ok (stack, some next) => scan stack next rest
      else
        match betweenLexemes stack expect b with
        | .error e => .error e
        | .ok (_, none) => .ok rest
        | .ok (stack, some next) => scan stack next rest

/-- Passes over one value and the blanks before it. -/
def skipValue (bytes : Bytes) : Except Error Bytes := scan [] .value bytes

/-- Passes over one value and returns its exact text, which has to be UTF-8, without the blanks
before it. -/
def readRaw (bytes : Bytes) : Except Error (Bytes × Bytes) := do
  let start := skipBlanks bytes
  let rest ← scan [] .value start
  let raw := start.take (start.length - rest.length)
  if Utf8.isText raw then .ok (raw, rest) else .error .malformed

def expectEnd (bytes : Bytes) : Except Error Unit :=
  if (skipBlanks bytes).isEmpty then .ok () else .error .malformed

def readRawText (bytes : Bytes) : Except Error Bytes := do
  let (raw, rest) ← readRaw bytes
  expectEnd rest
  return raw

end Courier.Json
