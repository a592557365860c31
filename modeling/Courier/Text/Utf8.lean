/-! UTF-8 as a pair of total functions between characters and bytes. Both are written with division
and remainder on natural numbers, so that linear arithmetic can follow them. -/

namespace Courier

/-- Raw bytes, the first one read first. -/
abbrev Bytes := List UInt8

namespace Utf8

def encodeChar (c : Char) : Bytes :=
  let n := c.toNat
  if n < 0x80 then [UInt8.ofNat n]
  else if n < 0x800 then
    [UInt8.ofNat (0xC0 + n / 0x40), UInt8.ofNat (0x80 + n % 0x40)]
  else if n < 0x10000 then
    [UInt8.ofNat (0xE0 + n / 0x1000), UInt8.ofNat (0x80 + n / 0x40 % 0x40),
      UInt8.ofNat (0x80 + n % 0x40)]
  else
    [UInt8.ofNat (0xF0 + n / 0x40000), UInt8.ofNat (0x80 + n / 0x1000 % 0x40),
      UInt8.ofNat (0x80 + n / 0x40 % 0x40), UInt8.ofNat (0x80 + n % 0x40)]

def encode (text : List Char) : Bytes := text.flatMap encodeChar

def ofString (s : String) : Bytes := encode s.toList

/-- A continuation byte carries six bits. -/
def isTail (b : UInt8) : Bool := 0x80 ≤ b && b < 0xC0

/-- What the first character of a byte string is, and how many bytes it takes. Overlong forms,
surrogates and numbers above 0x10FFFF are no characters. -/
def decodeChar? : Bytes → Option (Char × Bytes)
  | [] => none
  | a :: rest =>
    let lead := a.toNat
    if lead < 0x80 then some (Char.ofNat lead, rest)
    else if lead < 0xC2 then none
    else if lead < 0xE0 then
      match rest with
      | b :: rest =>
        if isTail b then some (Char.ofNat ((lead - 0xC0) * 0x40 + (b.toNat - 0x80)), rest) else none
      | [] => none
    else if lead < 0xF0 then
      match rest with
      | b :: c :: rest =>
        let n := (lead - 0xE0) * 0x1000 + (b.toNat - 0x80) * 0x40 + (c.toNat - 0x80)
        if isTail b && isTail c && 0x800 ≤ n && !(0xD800 ≤ n && n < 0xE000) then
          some (Char.ofNat n, rest)
        else none
      | _ => none
    else if lead < 0xF5 then
      match rest with
      | b :: c :: d :: rest =>
        let n := (lead - 0xF0) * 0x40000 + (b.toNat - 0x80) * 0x1000 + (c.toNat - 0x80) * 0x40
          + (d.toNat - 0x80)
        if isTail b && isTail c && isTail d && 0x10000 ≤ n && n < 0x110000 then
          some (Char.ofNat n, rest)
        else none
      | _ => none
    else none

theorem decodeChar?_length {bytes rest : Bytes} {c : Char} (h : decodeChar? bytes = some (c, rest)) :
    rest.length < bytes.length := by
  unfold decodeChar? at h
  split at h
  · simp at h
  · simp only at h
    repeat' split at h
    all_goals first
      | (simp only [Option.some.injEq, Prod.mk.injEq] at h; obtain ⟨_, rfl⟩ := h; simp; try omega)
      | simp at h

def decodeAux (bytes : Bytes) (done : List Char) : Option (List Char) :=
  match bytes with
  | [] => some done.reverse
  | b :: tail =>
    match _step : decodeChar? (b :: tail) with
    | none => none
    | some (c, rest) => decodeAux rest (c :: done)
termination_by bytes.length
decreasing_by exact decodeChar?_length _step

def decode? (bytes : Bytes) : Option (List Char) := decodeAux bytes []

def isText (bytes : Bytes) : Bool :=
  match bytes with
  | [] => true
  | b :: tail =>
    match _step : decodeChar? (b :: tail) with
    | none => false
    | some (_, rest) => isText rest
termination_by bytes.length
decreasing_by exact decodeChar?_length _step

theorem isSome_decodeAux (bytes : Bytes) (done : List Char) :
    (decodeAux bytes done).isSome = isText bytes := by
  fun_induction decodeAux bytes done with
  | case1 => rw [isText]; rfl
  | case2 _ b tail step => rw [isText]; split <;> simp_all
  | case3 _ b tail c rest step ih => rw [ih, isText.eq_2]; split <;> simp_all

/-- A byte string is a text exactly if it can be decoded. -/
theorem isSome_decode? (bytes : Bytes) : (decode? bytes).isSome = isText bytes :=
  isSome_decodeAux bytes []

def toString? (bytes : Bytes) : Option String := (decode? bytes).map String.ofList

/-- The string from its byte `start` on; nothing if that is past the end or inside a character. -/
def sliceFrom? (s : String) (start : Nat) : Option String :=
  let bytes := ofString s
  if start ≤ bytes.length then toString? (bytes.drop start) else none

end Utf8
end Courier
