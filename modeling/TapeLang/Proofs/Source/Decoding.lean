import Mathlib.Algebra.Ring.Nat
import Mathlib.Order.Bounds.Defs
import Mathlib.Tactic.Common
import TapeLang.Language
import TapeLang.Source

/-!
# Sources in bytes

A source that comes as bytes is read as the text that the bytes stand for.  In UTF-8 the first byte of a
character says how many bytes it has, so no character is the beginning of another.  Decoding therefore
finds the one text, if there is one, and otherwise stops behind the longest part that is text.

* `continuation`, `Continues`: the bytes behind the first one, written and read.
* `readChar_utf8Char`, `eq_utf8Char_of_readChar`: one character is read exactly where it was written.
  The ranges of second bytes, given by `Lead`, are what leaves out the other ways to spell a code point.
* `utf8DecodeFrom_append`: decoding gets over what was encoded and goes on behind it.
* `utf8DecodeFrom_cases`: what is decoded was encoded, and where decoding fails, a text came before.
* **`Lexer.parseStream_reads_utf8`**: programs from bytes, with the bytes of the standard library.
-/

namespace TapeLang.Text

/-! ## Bytes behind the first -/

lemma toNat_ofNat {n : Nat} (h : n < 256) : (UInt8.ofNat n).toNat = n := by
  rw [UInt8.toNat_ofNat']
  omega

lemma ofNat_eq {n : Nat} (byte : UInt8) (h : n = byte.toNat) : UInt8.ofNat n = byte := by
  rw [h, UInt8.ofNat_toNat]

/-- The last `count` bytes of a character: each holds six bits of its code point. -/
def continuation : (count code : Nat) → List UInt8
  | 0, _ => []
  | count + 1, code => UInt8.ofNat (0x80 + code / 64 ^ count % 64) :: continuation count code

lemma div_pow_succ (code count : Nat) : code / 64 ^ (count + 1) = code / 64 ^ count / 64 := by
  rw [Nat.pow_succ, Nat.div_div_eq_div_mul]

/-- The code point has the bits that are given, and `tail` bytes more, of which the first one lies in a
range. -/
structure Continues (tail low high bits code : Nat) : Prop where
  bits_eq : bits = code / 64 ^ tail
  range : ∀ count, tail = count + 1 →
    low ≤ 0x80 + code / 64 ^ count % 64 ∧ 0x80 + code / 64 ^ count % 64 ≤ high

lemma readTail_of_continues {tail low high bits code : Nat} (h : Continues tail low high bits code)
    (count : Nat) (rest : List UInt8) :
    readTail tail low high bits count (continuation tail code ++ rest) = .ok (code, rest) := by
  induction tail generalizing low high bits count with
  | zero => rw [h.bits_eq, continuation, List.nil_append, readTail, Nat.pow_zero, Nat.div_one]
  | succ tail ih =>
    obtain ⟨hlow, hhigh⟩ := h.range tail rfl
    have hbits := h.bits_eq
    rw [div_pow_succ] at hbits
    have hbyte := toNat_ofNat (n := 0x80 + code / 64 ^ tail % 64) (by omega)
    have hnext : Continues tail 0x80 0xbf
        (bits * 64 + ((UInt8.ofNat (0x80 + code / 64 ^ tail % 64)).toNat - 0x80)) code :=
      ⟨by omega, fun count _ => by omega⟩
    rw [continuation, List.cons_append, readTail, if_pos (by omega), ih hnext]

/-- What is read behind the first byte is what was written there. -/
lemma continues_of_readTail {tail low high bits code count : Nat} {bytes rest : List UInt8}
    (hlow : 0x80 ≤ low) (hhigh : high ≤ 0xbf)
    (h : readTail tail low high bits count bytes = .ok (code, rest)) :
    Continues tail low high bits code ∧ bytes = continuation tail code ++ rest := by
  induction tail generalizing low high bits count bytes with
  | zero =>
    simp only [readTail, Except.ok.injEq, Prod.mk.injEq] at h
    exact ⟨⟨by simp [h.1], by simp⟩, h.2⟩
  | succ tail ih =>
    cases bytes with
    | nil => simp [readTail] at h
    | cons byte more =>
      rw [readTail] at h
      split at h
      · next hrange =>
        obtain ⟨hmore, rfl⟩ := ih (Nat.le_refl _) (Nat.le_refl _) h
        have hbits := hmore.bits_eq
        have hbyte : UInt8.ofNat (0x80 + code / 64 ^ tail % 64) = byte := ofNat_eq byte (by omega)
        refine ⟨⟨?_, ?_⟩, ?_⟩
        · rw [div_pow_succ]
          omega
        · intro count hcount
          obtain rfl := Nat.succ.inj hcount
          omega
        · rw [continuation, hbyte, List.cons_append]
      · simp at h

/-! ## Characters -/

lemma toNat_valid (c : Char) : c.toNat < 0xd800 ∨ 0xdfff < c.toNat ∧ c.toNat < 0x110000 := c.valid

lemma toNat_char (code : Nat) (h : code < 0xd800 ∨ 0xdfff < code ∧ code < 0x110000) :
    (Char.ofNat code).toNat = code := by
  have hchar : Char.ofNat code = Char.ofNatAux code h := dif_pos h
  rw [hchar]
  rfl

lemma utf8Char_eq (c : Char) :
    utf8Char c =
      if c.toNat < 0x80 then [UInt8.ofNat c.toNat]
      else if c.toNat < 0x800 then UInt8.ofNat (0xc0 + c.toNat / 64) :: continuation 1 c.toNat
      else if c.toNat < 0x10000 then UInt8.ofNat (0xe0 + c.toNat / 4096) :: continuation 2 c.toNat
      else UInt8.ofNat (0xf0 + c.toNat / 262144) :: continuation 3 c.toNat := by
  simp [utf8Char, continuation]

/-- A first byte announces one byte more, two or three.  The range of the next byte keeps out what could
be written with fewer bytes, surrogates, and what is beyond all code points. -/
lemma Lead.cases {byte : Nat} {lead : Lead} (h : Lead.ofByte? byte = some lead) :
    (0xc2 ≤ byte ∧ byte < 0xe0 ∧ lead = ⟨byte - 0xc0, 1, 0x80, 0xbf⟩) ∨
    (0xe0 ≤ byte ∧ byte < 0xf0 ∧ ∃ low high, lead = ⟨byte - 0xe0, 2, low, high⟩ ∧
      0x80 ≤ low ∧ high ≤ 0xbf ∧ (byte = 0xe0 → 0xa0 ≤ low) ∧ (byte = 0xed → high ≤ 0x9f)) ∨
    (0xf0 ≤ byte ∧ byte < 0xf5 ∧ ∃ low high, lead = ⟨byte - 0xf0, 3, low, high⟩ ∧
      0x80 ≤ low ∧ high ≤ 0xbf ∧ (byte = 0xf0 → 0x90 ≤ low) ∧ (byte = 0xf4 → high ≤ 0x8f)) := by
  unfold Lead.ofByte? at h
  split at h
  · simp at h
  · split at h
    · rw [Option.some.injEq] at h
      exact .inl ⟨by omega, by omega, h.symm⟩
    · split at h
      · rw [Option.some.injEq] at h
        refine .inr (.inl ⟨by omega, by omega, _, _, h.symm, ?_, ?_, ?_, ?_⟩) <;> split_ifs <;> omega
      · split at h
        · rw [Option.some.injEq] at h
          refine .inr (.inr ⟨by omega, by omega, _, _, h.symm, ?_, ?_, ?_, ?_⟩) <;> split_ifs <;> omega
        · simp at h

lemma Lead.range_bounds {byte : Nat} {lead : Lead} (h : Lead.ofByte? byte = some lead) :
    0x80 ≤ lead.low ∧ lead.high ≤ 0xbf := by
  obtain ⟨-, -, rfl⟩ | ⟨-, -, low, high, rfl, hlow, hhigh, -, -⟩ |
    ⟨-, -, low, high, rfl, hlow, hhigh, -, -⟩ := Lead.cases h
  · exact ⟨Nat.le_refl _, Nat.le_refl _⟩
  · exact ⟨hlow, hhigh⟩
  · exact ⟨hlow, hhigh⟩

/-- A code point beyond ASCII is written with a first byte that announces the others. -/
lemma exists_lead (c : Char) (h : 0x80 ≤ c.toNat) :
    ∃ byte lead, utf8Char c = byte :: continuation lead.tail c.toNat ∧ 0x80 ≤ byte.toNat ∧
      Lead.ofByte? byte.toNat = some lead ∧
      Continues lead.tail lead.low lead.high lead.bits c.toNat := by
  have hvalid := toNat_valid c
  rw [utf8Char_eq, if_neg (by omega)]
  generalize c.toNat = code at h hvalid
  split_ifs with h2 h3
  · have hbyte := toNat_ofNat (n := 0xc0 + code / 64) (by omega)
    have hlead : Lead.ofByte? (0xc0 + code / 64) = some ⟨code / 64, 1, 0x80, 0xbf⟩ := by
      rw [Lead.ofByte?, if_neg (by omega), if_pos (by omega), Nat.add_sub_cancel_left]
    refine ⟨_, _, rfl, by omega, (congrArg Lead.ofByte? hbyte).trans hlead, by simp, ?_⟩
    intro count hcount
    obtain rfl : 0 = count := Nat.succ.inj hcount
    simp only [Nat.pow_zero]
    omega
  · have hbyte := toNat_ofNat (n := 0xe0 + code / 4096) (by omega)
    have hlead : Lead.ofByte? (0xe0 + code / 4096) =
        some ⟨code / 4096, 2, if 0xe0 + code / 4096 = 0xe0 then 0xa0 else 0x80,
          if 0xe0 + code / 4096 = 0xed then 0x9f else 0xbf⟩ := by
      rw [Lead.ofByte?, if_neg (by omega), if_neg (by omega), if_pos (by omega),
        Nat.add_sub_cancel_left]
    refine ⟨_, _, rfl, by omega, (congrArg Lead.ofByte? hbyte).trans hlead, by simp, ?_⟩
    intro count hcount
    obtain rfl : 1 = count := Nat.succ.inj hcount
    simp only [Nat.pow_one]
    constructor <;> split_ifs <;> omega
  · have hbyte := toNat_ofNat (n := 0xf0 + code / 262144) (by omega)
    have hlead : Lead.ofByte? (0xf0 + code / 262144) =
        some ⟨code / 262144, 3, if 0xf0 + code / 262144 = 0xf0 then 0x90 else 0x80,
          if 0xf0 + code / 262144 = 0xf4 then 0x8f else 0xbf⟩ := by
      rw [Lead.ofByte?, if_neg (by omega), if_neg (by omega), if_neg (by omega), if_pos (by omega),
        Nat.add_sub_cancel_left]
    refine ⟨_, _, rfl, by omega, (congrArg Lead.ofByte? hbyte).trans hlead, by simp, ?_⟩
    intro count hcount
    obtain rfl : 2 = count := Nat.succ.inj hcount
    simp only [Nat.reducePow]
    constructor <;> split_ifs <;> omega

/-- What goes on as a first byte announces is the one way to write a character. -/
lemma utf8Char_of_continues {byte : UInt8} {lead : Lead} {code : Nat}
    (hlead : Lead.ofByte? byte.toNat = some lead)
    (h : Continues lead.tail lead.low lead.high lead.bits code) :
    utf8Char (Char.ofNat code) = byte :: continuation lead.tail code := by
  obtain ⟨hge, hlt, rfl⟩ | ⟨hge, hlt, low, high, rfl, hlow, hhigh, hlong, hsurrogate⟩ |
    ⟨hge, hlt, low, high, rfl, hlow, hhigh, hlong, hbeyond⟩ := Lead.cases hlead
  · have hbits := h.bits_eq
    simp only [Nat.pow_one] at hbits
    have hcode := toNat_char code (by omega)
    rw [utf8Char_eq, hcode, if_neg (by omega), if_pos (by omega), ofNat_eq byte (by omega)]
  · have hbits := h.bits_eq
    have hrange := h.range 1 rfl
    simp only [Nat.reducePow] at hbits hrange
    have hcode := toNat_char code (by omega)
    rw [utf8Char_eq, hcode, if_neg (by omega), if_neg (by omega), if_pos (by omega),
      ofNat_eq byte (by omega)]
  · have hbits := h.bits_eq
    have hrange := h.range 2 rfl
    simp only [Nat.reducePow] at hbits hrange
    have hcode := toNat_char code (by omega)
    rw [utf8Char_eq, hcode, if_neg (by omega), if_neg (by omega), if_neg (by omega),
      ofNat_eq byte (by omega)]

/-- **A character that was written is read.** -/
lemma readChar_utf8Char (c : Char) (rest : List UInt8) :
    ∃ byte bytes, utf8Char c ++ rest = byte :: bytes ∧ readChar byte bytes = .ok (c, rest) := by
  by_cases hascii : c.toNat < 0x80
  · have hbyte := toNat_ofNat (n := c.toNat) (by omega)
    refine ⟨_, rest, by rw [utf8Char_eq, if_pos hascii, List.singleton_append], ?_⟩
    rw [readChar, hbyte, if_pos hascii, Char.ofNat_toNat]
  · obtain ⟨byte, lead, hchar, hbyte, hlead, hcontinues⟩ := exists_lead c (by omega)
    refine ⟨byte, continuation lead.tail c.toNat ++ rest, by rw [hchar, List.cons_append], ?_⟩
    rw [readChar, if_neg (by omega), hlead]
    simp only [readTail_of_continues hcontinues, Char.ofNat_toNat]

/-- **A character that is read was written.** -/
lemma eq_utf8Char_of_readChar {byte : UInt8} {bytes rest : List UInt8} {c : Char}
    (h : readChar byte bytes = .ok (c, rest)) : byte :: bytes = utf8Char c ++ rest := by
  unfold readChar at h
  split at h
  · next hascii =>
    simp only [Except.ok.injEq, Prod.mk.injEq] at h
    obtain ⟨rfl, rfl⟩ := h
    have hcode := toNat_char byte.toNat (by omega)
    rw [utf8Char_eq, hcode, if_pos hascii, UInt8.ofNat_toNat, List.singleton_append]
  · split at h
    · simp at h
    · next lead hlead =>
      split at h
      · simp at h
      · next code more htail =>
        simp only [Except.ok.injEq, Prod.mk.injEq] at h
        obtain ⟨rfl, rfl⟩ := h
        obtain ⟨hlow, hhigh⟩ := Lead.range_bounds hlead
        obtain ⟨hcontinues, rfl⟩ := continues_of_readTail hlow hhigh htail
        rw [utf8Char_of_continues hlead hcontinues, List.cons_append]

/-! ## Texts -/

lemma utf8Encode_cons (c : Char) (text : List Char) :
    utf8Encode (c :: text) = utf8Char c ++ utf8Encode text := List.flatMap_cons

lemma utf8DecodeFrom_of_readChar {byte : UInt8} {bytes rest : List UInt8} {c : Char} (pos : Nat)
    (h : readChar byte bytes = .ok (c, rest)) :
    utf8DecodeFrom pos (byte :: bytes) =
      (utf8DecodeFrom (pos + (utf8Char c).length) rest).map (c :: ·) := by
  have hlength : bytes.length + 1 - rest.length = (utf8Char c).length := by
    have := congrArg List.length (eq_utf8Char_of_readChar h)
    rw [List.length_cons, List.length_append] at this
    omega
  rw [utf8DecodeFrom]
  split
  · next hread => simp [h] at hread
  · next d more hread =>
    rw [h, Except.ok.injEq, Prod.mk.injEq] at hread
    obtain ⟨rfl, rfl⟩ := hread
    rw [hlength]
    cases utf8DecodeFrom (pos + (utf8Char c).length) rest <;> rfl

lemma utf8DecodeFrom_of_error {byte : UInt8} {bytes : List UInt8} {count : Nat}
    {reason : DecodeReason} (pos : Nat) (h : readChar byte bytes = .error (count, reason)) :
    utf8DecodeFrom pos (byte :: bytes) = .error ⟨byte, pos, count, reason⟩ := by
  rw [utf8DecodeFrom]
  split
  · next hread =>
    rw [h, Except.error.injEq, Prod.mk.injEq] at hread
    rw [hread.1, hread.2]
  · next hread => simp [h] at hread

/-- **Decoding gets over what was encoded**, and goes on behind it. -/
lemma utf8DecodeFrom_append (pos : Nat) (text : List Char) (bytes : List UInt8) :
    utf8DecodeFrom pos (utf8Encode text ++ bytes) =
      (utf8DecodeFrom (pos + (utf8Encode text).length) bytes).map (text ++ ·) := by
  induction text generalizing pos with
  | nil =>
    change utf8DecodeFrom pos bytes = (utf8DecodeFrom pos bytes).map id
    cases utf8DecodeFrom pos bytes <;> rfl
  | cons c text ih =>
    obtain ⟨byte, more, hbytes, hread⟩ := readChar_utf8Char c (utf8Encode text ++ bytes)
    rw [utf8Encode_cons, List.append_assoc, hbytes, utf8DecodeFrom_of_readChar pos hread, ih,
      List.length_append, Nat.add_assoc]
    cases utf8DecodeFrom (pos + ((utf8Char c).length + (utf8Encode text).length)) bytes <;> rfl

/-- **Either all is text, or there is a first character that cannot be read**, with a text before it. -/
lemma utf8DecodeFrom_cases (pos : Nat) (bytes : List UInt8) :
    (∃ text, bytes = utf8Encode text ∧ utf8DecodeFrom pos bytes = .ok text) ∨
    ∃ text rest e, bytes = utf8Encode text ++ rest ∧ utf8DecodeFrom pos bytes = .error e ∧
      e.start = pos + (utf8Encode text).length := by
  -- by the number of bytes, of which a character takes some
  induction hsize : bytes.length using Nat.strongRecOn generalizing pos bytes with
  | ind size ih =>
    cases bytes with
    | nil => exact .inl ⟨[], rfl, by rw [utf8DecodeFrom]⟩
    | cons byte more =>
      rcases hread : readChar byte more with ⟨count, reason⟩ | ⟨c, rest⟩
      · exact .inr ⟨[], byte :: more, _, rfl, utf8DecodeFrom_of_error pos hread, rfl⟩
      · have hbytes := eq_utf8Char_of_readChar hread
        have hshorter := length_le_of_readChar hread
        rw [List.length_cons] at hsize
        rw [utf8DecodeFrom_of_readChar pos hread, hbytes]
        obtain ⟨text, rfl, htext⟩ | ⟨text, rest, e, rfl, he, hstart⟩ :=
          ih rest.length (by omega) (pos + (utf8Char c).length) rest rfl
        · refine .inl ⟨c :: text, rfl, ?_⟩
          rw [htext]
          rfl
        · refine .inr ⟨c :: text, rest, e, ?_, ?_, ?_⟩
          · rw [utf8Encode_cons, List.append_assoc]
          · rw [he]
            rfl
          · rw [hstart, utf8Encode_cons, List.length_append, Nat.add_assoc]

lemma utf8Decode_utf8Encode (text : List Char) : utf8Decode (utf8Encode text) = .ok text := by
  have happend := utf8DecodeFrom_append 0 text []
  rw [List.append_nil, utf8DecodeFrom] at happend
  rw [utf8Decode, happend]
  exact congrArg Except.ok (List.append_nil text)

/-! ### The bytes of the standard library -/

lemma utf8Char_eq_utf8EncodeChar (c : Char) : utf8Char c = String.utf8EncodeChar c := by
  have hvalid := toNat_valid c
  have hcode : c.val.toNat = c.toNat := rfl
  simp only [utf8Char, String.utf8EncodeChar, hcode]
  generalize c.toNat = code at hvalid
  have hone : code < 0x80 ↔ code ≤ 127 := by omega
  have htwo : code < 0x800 ↔ code ≤ 2047 := by omega
  have hthree : code < 0x10000 ↔ code ≤ 65535 := by omega
  simp only [hone, htwo, hthree]
  split_ifs with h1 h2 h3
  · rfl
  · have hlead : code / 64 % 32 + 192 = 0xc0 + code / 64 := by omega
    rw [hlead, Nat.add_comm (code % 64)]
  · have hlead : code / 4096 % 16 + 224 = 0xe0 + code / 4096 := by omega
    rw [hlead, Nat.add_comm (code / 64 % 64), Nat.add_comm (code % 64)]
  · have hlead : code / 262144 % 8 + 240 = 0xf0 + code / 262144 := by omega
    rw [hlead, Nat.add_comm (code / 4096 % 64), Nat.add_comm (code / 64 % 64),
      Nat.add_comm (code % 64)]

lemma utf8Encode_toList (source : String) : utf8Encode source.toList = source.toUTF8.data.toList := by
  have hchar : utf8Char = String.utf8EncodeChar := funext utf8Char_eq_utf8EncodeChar
  rw [utf8Encode, hchar, String.toUTF8, ← String.utf8Encode_toList, List.utf8Encode,
    List.toList_data_toByteArray]

lemma utf8Encode_eq (text : List Char) :
    utf8Encode text = (String.ofList text).toUTF8.data.toList := by
  rw [← utf8Encode_toList, String.toList_ofList]

/-- **Where decoding fails, the longest text has been read.**  Whatever text the bytes begin with, decoding
gets over it. -/
lemma utf8Decode_error {bytes : List UInt8} (h : ∀ source : String, bytes ≠ source.toUTF8.data.toList) :
    ∃ e, utf8Decode bytes = .error e ∧
      IsGreatest {length | ∃ source : String, source.toUTF8.data.toList <+: bytes ∧
        source.toUTF8.data.toList.length = length} e.start := by
  obtain ⟨text, htext, -⟩ | ⟨text, rest, e, hbytes, he, hstart⟩ := utf8DecodeFrom_cases 0 bytes
  · exact absurd (htext.trans (utf8Encode_eq text)) (h _)
  · rw [utf8Encode_eq] at hbytes hstart
    rw [Nat.zero_add] at hstart
    refine ⟨e, he, ⟨String.ofList text, ⟨rest, hbytes.symm⟩, hstart.symm⟩, ?_⟩
    rintro length ⟨source, ⟨behind, rfl⟩, rfl⟩
    rw [← utf8Encode_toList, utf8DecodeFrom_append, Nat.zero_add] at he
    rw [← utf8Encode_toList]
    obtain ⟨_, -, hok⟩ | ⟨_, _, later, -, herror, hlater⟩ :=
      utf8DecodeFrom_cases (utf8Encode source.toList).length behind
    · simp [hok, Except.map] at he
    · rw [herror, Except.map, Except.error.injEq] at he
      rw [← he, hlater]
      exact Nat.le_add_right _ _

/-- The wording names the position where decoding failed, alone or as the beginning of a range. -/
lemma DecodeError.message_eq (e : DecodeError) :
    ∃ blame : String,
      e.message = "'utf-8' codec can't decode " ++ blame ++ ": " ++ e.reason.message ∧
      ((∃ byte : String, blame = "byte 0x" ++ byte ++ " in position " ++ toString e.start) ∨
        ∃ last : Nat, blame = "bytes in position " ++ toString e.start ++ "-" ++ toString last) := by
  refine ⟨_, rfl, ?_⟩
  split_ifs
  · exact .inl ⟨_, rfl⟩
  · exact .inr ⟨_, rfl⟩

end TapeLang.Text

namespace TapeLang

lemma Lexer.parseStream_of_contents (lexer : Lexer) {stream : SourceStream} {source : String}
    (h : stream.contents = .ok source) :
    lexer.parseStream stream = (lexer.parse source).mapError .invalid := by
  rw [parseStream, h]
  simp only
  cases lexer.parse source <;> rfl

/-- **Programs from bytes.**  Whatever the lexer, the bytes of a text give what the text itself gives:
its program or its error, with the positions of the text's characters.  Bytes that no text has give no
program: the error names the position behind the longest part of the bytes that is text. -/
theorem Lexer.parseStream_reads_utf8 (lexer : Lexer) :
    (∀ source : String,
      lexer.parseStream (.bytes source.toUTF8.data.toList) =
        (lexer.parse source).mapError .invalid ∧
      lexer.parseStream (.text source) = (lexer.parse source).mapError .invalid) ∧
    ∀ data : List UInt8, (∀ source : String, data ≠ source.toUTF8.data.toList) →
      ∃ e : Text.DecodeError, lexer.parseStream (.bytes data) = .error (.undecodable e) ∧
        IsGreatest {length | ∃ source : String, source.toUTF8.data.toList <+: data ∧
          source.toUTF8.data.toList.length = length} e.start ∧
        ∃ blame : String,
          e.message = "'utf-8' codec can't decode " ++ blame ++ ": " ++ e.reason.message ∧
          ((∃ byte : String, blame = "byte 0x" ++ byte ++ " in position " ++ toString e.start) ∨
            ∃ last : Nat,
              blame = "bytes in position " ++ toString e.start ++ "-" ++ toString last) := by
  refine ⟨fun source => ⟨?_, lexer.parseStream_of_contents rfl⟩, fun data hdata => ?_⟩
  · apply lexer.parseStream_of_contents
    rw [SourceStream.contents, ← Text.utf8Encode_toList, Text.utf8Decode_utf8Encode]
    simp only [String.ofList_toList]
  · obtain ⟨e, he, hgreatest⟩ := Text.utf8Decode_error hdata
    refine ⟨e, ?_, hgreatest, e.message_eq⟩
    rw [parseStream, SourceStream.contents, he]

/-- A plus sign and the three bytes of a surrogate: only the plus sign is text. -/
theorem Lexer.surrogate_not_parsed :
    (∀ source : String, [0x2b, 0xed, 0xa0, 0x80] ≠ source.toUTF8.data.toList) ∧
    ∃ e : Text.DecodeError,
      Language.brainfuck.lexer.parseStream (.bytes [0x2b, 0xed, 0xa0, 0x80]) =
        .error (.undecodable e) ∧ e.start = 1 ∧
      IsGreatest {length | ∃ source : String,
        source.toUTF8.data.toList <+: [0x2b, 0xed, 0xa0, 0x80] ∧
          source.toUTF8.data.toList.length = length} e.start := by
  have hdecode : Text.utf8Decode [0x2b, 0xed, 0xa0, 0x80] =
      .error ⟨0xed, 1, 1, .invalidContinuation⟩ := by
    have hplus : Text.readChar 0x2b [0xed, 0xa0, 0x80] = .ok ('+', [0xed, 0xa0, 0x80]) := rfl
    have hsurrogate : Text.readChar 0xed [0xa0, 0x80] = .error (1, .invalidContinuation) := rfl
    rw [Text.utf8Decode, Text.utf8DecodeFrom_of_readChar 0 hplus,
      Text.utf8DecodeFrom_of_error _ hsurrogate]
    rfl
  have hdata : ∀ source : String, [0x2b, 0xed, 0xa0, 0x80] ≠ source.toUTF8.data.toList := by
    intro source hsource
    rw [hsource, ← Text.utf8Encode_toList, Text.utf8Decode_utf8Encode] at hdecode
    exact absurd hdecode nofun
  obtain ⟨e, he, hgreatest, -⟩ :=
    (parseStream_reads_utf8 Language.brainfuck.lexer).2 [0x2b, 0xed, 0xa0, 0x80] hdata
  refine ⟨hdata, e, he, ?_, hgreatest⟩
  rw [parseStream, SourceStream.contents, hdecode] at he
  cases he
  rfl

end TapeLang
