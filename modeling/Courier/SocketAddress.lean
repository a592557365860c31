import Courier.Text.Quoted

/-! Addresses of listeners: an address of the Internet Protocol, version 4 or 6, and a port. -/

namespace Courier

/-- An address with a port. Version 6 has eight groups of 16 bits and the number of a scope. -/
inductive SocketAddress where
  | v4 (a b c d : Nat) (port : Nat)
  | v6 (groups : List Nat) (scope : Nat) (port : Nat)
deriving Repr, DecidableEq, Inhabited

namespace SocketAddress

abbrev Text := List Char

/-- A number of a base, at most `limit`, of at most `width` digits. -/
def number? (base width limit : Nat) (text : Text) : Option (Nat × Text) :=
  let value (c : Char) : Nat :=
    if c.isDigit then c.toNat - '0'.toNat
    else if 'a' ≤ c && c ≤ 'f' then c.toNat - 'a'.toNat + 10
    else if 'A' ≤ c && c ≤ 'F' then c.toNat - 'A'.toNat + 10
    else 99
  let digits := text.takeWhile fun c => value c < base
  if digits.isEmpty || width < digits.length then none
  else
    let n := digits.foldl (fun n c => n * base + value c) 0
    if n ≤ limit then some (n, text.drop digits.length) else none

/-- One of the four numbers of an address; it has no needless zeros. -/
def octet? (text : Text) : Option (Nat × Text) :=
  match text with
  | '0' :: c :: rest => if c.isDigit then none else some (0, c :: rest)
  | _ => number? 10 3 255 text

def dot? : Text → Option Text
  | '.' :: rest => some rest
  | _ => none

def quad? (text : Text) : Option ((Nat × Nat × Nat × Nat) × Text) := do
  let (a, text) ← octet? text
  let (b, text) ← octet? (← dot? text)
  let (c, text) ← octet? (← dot? text)
  let (d, text) ← octet? (← dot? text)
  return ((a, b, c, d), text)

/-- Up to `limit` groups between colons; the last two may be spelled as four numbers, which the flag
tells. -/
def groups (limit : Nat) (first : Bool) (text : Text) : (List Nat × Bool) × Text :=
  match limit with
  | 0 => (([], false), text)
  | limit + 1 =>
    let start? : Option Text :=
      if first then some text
      else
        match text with
        | ':' :: rest => some rest
        | _ => none
    match start? with
    | none => (([], false), text)
    | some start =>
      match if limit = 0 then none else quad? start with
      | some ((a, b, c, d), rest) => (([a * 256 + b, c * 256 + d], true), rest)
      | none =>
        match number? 16 4 0xFFFF start with
        | none => (([], false), text)
        | some (n, rest) =>
          let ((more, quad), rest) := groups limit false rest
          ((n :: more, quad), rest)

/-- The eight groups of an address; a double colon stands for one or more groups of zero. -/
def sextet? (text : Text) : Option (List Nat × Text) :=
  let ((head, quad), rest) := groups 8 true text
  if head.length = 8 then some (head, rest)
  else if quad then none
  else
    match rest with
    | ':' :: ':' :: rest =>
      let ((tail, _), rest) := groups (7 - head.length) true rest
      some (head ++ List.replicate (8 - head.length - tail.length) 0 ++ tail, rest)
    | _ => none

def port? : Text → Option Nat
  | ':' :: rest =>
    match number? 10 rest.length 65535 rest with
    | some (n, []) => some n
    | _ => none
  | _ => none

def ofString? (s : String) : Option SocketAddress :=
  match s.toList with
  | '[' :: rest => do
    let (groups, rest) ← sextet? rest
    let (scope, rest) ←
      match rest with
      | '%' :: digits => number? 10 digits.length 4294967295 digits
      | _ => some (0, rest)
    match rest with
    | ']' :: rest => return .v6 groups scope (← port? rest)
    | _ => none
  | text => do
    let ((a, b, c, d), rest) ← quad? text
    return .v4 a b c d (← port? rest)

def zeroRun (groups : List Nat) : Nat := (groups.takeWhile (· = 0)).length

/-- Where the first of the longest runs of zeros starts, and how long it is. -/
def longestZeros : Nat → List Nat → Nat × Nat
  | _, [] => (0, 0)
  | index, g :: rest =>
    let here := zeroRun (g :: rest)
    let (start, length) := longestZeros (index + 1) rest
    if length ≤ here && 0 < here then (index, here) else (start, length)

def hexGroups (groups : List Nat) : String :=
  ":".intercalate (groups.map fun g => String.ofList (Nat.toDigits 16 g))

/-- The groups in hexadecimal, the longest run of two or more zeros as a double colon. An address of
version 4 inside is spelled as one. -/
def groupsText (groups : List Nat) : String :=
  match groups with
  | [0, 0, 0, 0, 0, 0xFFFF, high, low] =>
    s!"::ffff:{high / 256}.{high % 256}.{low / 256}.{low % 256}"
  | _ =>
    let (start, length) := longestZeros 0 groups
    if length < 2 then hexGroups groups
    else hexGroups (groups.take start) ++ "::" ++ hexGroups (groups.drop (start + length))

def text : SocketAddress → String
  | v4 a b c d port => s!"{a}.{b}.{c}.{d}:{port}"
  | v6 groups 0 port => s!"[{groupsText groups}]:{port}"
  | v6 groups scope port => s!"[{groupsText groups}%{scope}]:{port}"

end SocketAddress
end Courier
