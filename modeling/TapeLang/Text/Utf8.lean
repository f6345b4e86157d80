import TapeLang.Text.Quoted

/-!
# UTF-8

Text is stored as bytes in UTF-8.  Decoding is strict: overlong forms, surrogates and code points
beyond U+10FFFF are errors, and so is a character that is cut short.

* `utf8Encode` writes text as bytes and `utf8Decode` reads it back.
* `Lead` is what the first byte of a longer character says: how many bytes follow, and in which
  range the next one has to lie.  The range is what keeps out the forbidden code points.
* `DecodeError` tells where the first character that cannot be decoded starts, which bytes are to
  blame, and why.
-/

namespace TapeLang.Text

/-! ## Encoding -/

/-- The bytes of a character. -/
def utf8Char (c : Char) : List UInt8 :=
  let code := c.toNat
  if code < 0x80 then [UInt8.ofNat code]
  else if code < 0x800 then
    [UInt8.ofNat (0xc0 + code / 64), UInt8.ofNat (0x80 + code % 64)]
  else if code < 0x10000 then
    [UInt8.ofNat (0xe0 + code / 4096), UInt8.ofNat (0x80 + code / 64 % 64),
      UInt8.ofNat (0x80 + code % 64)]
  else
    [UInt8.ofNat (0xf0 + code / 262144), UInt8.ofNat (0x80 + code / 4096 % 64),
      UInt8.ofNat (0x80 + code / 64 % 64), UInt8.ofNat (0x80 + code % 64)]

/-- The bytes of a text. -/
def utf8Encode (text : List Char) : List UInt8 :=
  text.flatMap utf8Char

/-! ## Decoding -/

/-- Why a character cannot be decoded. -/
inductive DecodeReason where
  /-- No character starts with this byte. -/
  | invalidStart
  /-- A byte that belongs to no character follows. -/
  | invalidContinuation
  /-- The data ends inside a character. -/
  | unexpectedEnd
deriving DecidableEq, Repr

/-- The wording of each reason. -/
def DecodeReason.message : DecodeReason → String
  | .invalidStart => "invalid start byte"
  | .invalidContinuation => "invalid continuation byte"
  | .unexpectedEnd => "unexpected end of data"

/-- The first character that cannot be decoded: its first byte, the position of that byte, the
number of bytes to blame, and the reason. -/
structure DecodeError where
  byte : UInt8
  start : Nat
  count : Nat
  reason : DecodeReason
deriving DecidableEq, Repr

/-- The wording of a decoding error. -/
def DecodeError.message (e : DecodeError) : String :=
  let blame :=
    if e.count = 1 then
      "byte 0x" ++ String.ofList (hexadecimal 2 e.byte.toNat) ++ " in position " ++ toString e.start
    else "bytes in position " ++ toString e.start ++ "-" ++ toString (e.start + e.count - 1)
  "'utf-8' codec can't decode " ++ blame ++ ": " ++ e.reason.message

/-- What the first byte of a longer character says. -/
structure Lead where
  /-- The leading bits of the code point. -/
  bits : Nat
  /-- The number of bytes to follow. -/
  tail : Nat
  /-- The least value of the next byte. -/
  low : Nat
  /-- The greatest value of the next byte. -/
  high : Nat
deriving DecidableEq, Repr

/-- Reads a first byte beyond ASCII. -/
def Lead.ofByte? (byte : Nat) : Option Lead :=
  if byte < 0xc2 then none
  else if byte < 0xe0 then some ⟨byte - 0xc0, 1, 0x80, 0xbf⟩
  else if byte < 0xf0 then
    some ⟨byte - 0xe0, 2, if byte = 0xe0 then 0xa0 else 0x80, if byte = 0xed then 0x9f else 0xbf⟩
  else if byte < 0xf5 then
    some ⟨byte - 0xf0, 3, if byte = 0xf0 then 0x90 else 0x80, if byte = 0xf4 then 0x8f else 0xbf⟩
  else none

/-- Reads the bytes that follow a first byte, given the code point so far, the range of the next
byte and the number of bytes already read.  Yields the code point and the bytes behind it, or the
number of bytes to blame and the reason. -/
def readTail : (tail : Nat) → (low high code count : Nat) → List UInt8 →
    Except (Nat × DecodeReason) (Nat × List UInt8)
  | 0, _, _, code, _, bytes => .ok (code, bytes)
  | _ + 1, _, _, _, count, [] => .error (count, .unexpectedEnd)
  | tail + 1, low, high, code, count, byte :: bytes =>
    if low ≤ byte.toNat ∧ byte.toNat ≤ high then
      readTail tail 0x80 0xbf (code * 64 + (byte.toNat - 0x80)) (count + 1) bytes
    else .error (count, .invalidContinuation)

/-- Reads one character. -/
def readChar (byte : UInt8) (bytes : List UInt8) :
    Except (Nat × DecodeReason) (Char × List UInt8) :=
  if byte.toNat < 0x80 then .ok (Char.ofNat byte.toNat, bytes)
  else
    match Lead.ofByte? byte.toNat with
    | none => .error (1, .invalidStart)
    | some lead =>
      match readTail lead.tail lead.low lead.high lead.bits 1 bytes with
      | .error e => .error e
      | .ok (code, rest) => .ok (Char.ofNat code, rest)

/-- The bytes behind a tail are no more than there were. -/
theorem length_le_of_readTail {tail low high code count : Nat} {bytes rest : List UInt8}
    {result : Nat} (h : readTail tail low high code count bytes = .ok (result, rest)) :
    rest.length ≤ bytes.length := by
  fun_induction readTail tail low high code count bytes with
  | case1 low high code count bytes =>
    simp only [Except.ok.injEq, Prod.mk.injEq] at h
    simp [h.2]
  | case2 => exact absurd h nofun
  | case3 tail low high code count byte bytes _ ih =>
    have := ih h
    simp only [List.length_cons]
    omega
  | case4 => exact absurd h nofun

/-- The bytes behind a character are fewer than its own and they together. -/
theorem length_le_of_readChar {byte : UInt8} {bytes rest : List UInt8} {c : Char}
    (h : readChar byte bytes = .ok (c, rest)) : rest.length ≤ bytes.length := by
  unfold readChar at h
  split at h
  · simp only [Except.ok.injEq, Prod.mk.injEq] at h
    simp [h.2]
  · split at h
    · exact absurd h nofun
    · split at h
      · exact absurd h nofun
      · next htail =>
        simp only [Except.ok.injEq, Prod.mk.injEq] at h
        exact h.2 ▸ length_le_of_readTail htail

/-- Decodes bytes that start at a position of the data. -/
def utf8DecodeFrom (pos : Nat) (bytes : List UInt8) : Except DecodeError (List Char) :=
  match bytes with
  | [] => .ok []
  | byte :: more =>
    match _h : readChar byte more with
    | .error (count, reason) => .error ⟨byte, pos, count, reason⟩
    | .ok (c, rest) =>
      match utf8DecodeFrom (pos + (more.length + 1 - rest.length)) rest with
      | .error e => .error e
      | .ok text => .ok (c :: text)
termination_by bytes.length
decreasing_by
  have := length_le_of_readChar _h
  simp only [List.length_cons]
  omega

/-- Decodes bytes as text. -/
def utf8Decode (bytes : List UInt8) : Except DecodeError (List Char) :=
  utf8DecodeFrom 0 bytes

end TapeLang.Text
