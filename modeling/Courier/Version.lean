import Courier.Text.Blank
import Courier.ProtocolError

/-! Protocol versions: which one is spoken, which are understood, and how two sides agree on one. -/

namespace Courier.Version

def current : String := "1"

/-- The oldest and the newest version that is understood. -/
def oldest : String := "1"
def newest : String := "1"

def oldestNumber : Nat := 1
def newestNumber : Nat := 1

def digitsValue (digits : List Char) : Nat :=
  digits.foldl (fun n c => n * 10 + (c.toNat - '0'.toNat)) 0

/-- A number of 32 bits in decimal digits, with an optional plus sign. -/
def readNumber (text : List Char) : Except NumberError Nat :=
  let digits :=
    match text with
    | '+' :: rest => rest
    | _ => text
  match text, digits with
  | [], _ => .error .empty
  | _, [] => .error .invalidDigit
  | _, _ =>
    if digits.all Char.isDigit then
      let n := digitsValue digits
      if n ≤ 4294967295 then .ok n else .error .tooLarge
    else
      -- Digits are read from the left, so a number that is too large by then is found first.
      let whole := digits.takeWhile Char.isDigit
      if digitsValue whole ≤ 4294967295 then .error .invalidDigit else .error .tooLarge

def readVersion (text : List Char) : Except NumberError Nat := readNumber (Text.trimChars text)

def check (version : String) : Except ProtocolError Unit :=
  if version.isEmpty then .error .emptyVersion
  else
    match readVersion version.toList with
    | .error why => .error (.invalidVersion version why)
    | .ok n =>
      if n < oldestNumber then .error (.versionTooOld version)
      else if newestNumber < n then .error (.versionTooNew version)
      else .ok ()

def splitOnce (c : Char) (text : List Char) : Option (List Char × List Char) :=
  match text.dropWhile (· != c) with
  | [] => none
  | _ :: rest => some (text.takeWhile (· != c), rest)

/-- The lowest and highest version of a range: one version, or two around a dash. -/
def readRange (text : String) : Except RangeError (Nat × Nat) :=
  let number (part : List Char) : Except RangeError Nat :=
    match readVersion part with
    | .ok n => .ok n
    | .error why => .error (.number why)
  let trimmed := Text.trimChars text.toList
  match splitOnce '-' trimmed with
  | none => (number trimmed).map fun n => (n, n)
  | some (left, right) => do
    let low ← number left
    let high ← number right
    if high < low then .error (.reversed low high) else .ok (low, high)

def negotiate (localRange remoteRange : String) : Except ProtocolError String := do
  let range (side : Side) (text : String) : Except ProtocolError (Nat × Nat) :=
    match readRange text with
    | .ok bounds => .ok bounds
    | .error why => .error (.invalidRange side text why)
  let (localLow, localHigh) ← range .local localRange
  let (remoteLow, remoteHigh) ← range .remote remoteRange
  if min localHigh remoteHigh < max localLow remoteLow then
    .error (.noCompatibleVersion localRange remoteRange)
  else .ok (toString (min localHigh remoteHigh))

def info : String :=
  if oldest = newest then s!"MIST protocol version {current}"
  else s!"MIST protocol version {current} (supports {oldest}-{newest})"

end Courier.Version
