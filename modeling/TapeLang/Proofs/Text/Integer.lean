import Mathlib.Algebra.Ring.Int.Defs
import Mathlib.Algebra.Ring.Nat
import Mathlib.Tactic.Lemma
import TapeLang.Text.Integer

/-!
# Decimal numbers

An integer in its plain decimal form, as `toString` writes it, is read as itself, and takes as many
characters as it has digits, with one more for a sign.

* `digitsAfter_eq`: ASCII digits are read with their usual value.
* **`integer?_toString`**: reading undoes writing.
* `length_toString_nat_le_iff`, `length_toString_int_le_iff`: the numbers that fit into a width.
-/

namespace TapeLang.Text

/-! ## Digits -/

lemma digitValue?_of_isDigit {c : Char} (h : c.isDigit) :
    digitValue? c = some (c.toNat - '0'.toNat) := by
  obtain ⟨hlow, hhigh⟩ := Char.isDigit_iff_toNat.mp h
  have hlow : 48 ≤ c.toNat := hlow
  have hhigh : c.toNat < 48 + 10 := Nat.lt_succ_of_le hhigh
  -- the ASCII digits stand first in the table
  simp only [digitValue?, zeroDigits, List.find?_cons, hlow, hhigh, decide_true, Bool.and_self,
    Option.map_some]
  rfl

/-- ASCII digits behind a digit. -/
lemma digitsAfter_eq {text : List Char} (h : ∀ c ∈ text, c.isDigit) (value : Nat) :
    digitsAfter value text = some (Nat.ofDigitChars 10 text value) := by
  induction text generalizing value with
  | nil => rfl
  | cons c rest ih =>
    have hc : c.isDigit := h c List.mem_cons_self
    have hrest := ih (fun d hd => h d (List.mem_cons_of_mem c hd)) (value * 10 + (c.toNat - '0'.toNat))
    have hne : c ≠ '_' := by
      rintro rfl
      exact absurd hc (by decide)
    rw [Nat.ofDigitChars_cons, Nat.mul_comm 10 value, ← hrest, digitsAfter, digitValue?_of_isDigit hc]
    exact fun _ _ heq => absurd heq hne

lemma digits?_eq {text : List Char} (hne : text ≠ []) (h : ∀ c ∈ text, c.isDigit) :
    digits? text = some (Nat.ofDigitChars 10 text 0) := by
  cases text with
  | nil => exact absurd rfl hne
  | cons c rest =>
    have hrest := digitsAfter_eq (fun d hd => h d (List.mem_cons_of_mem c hd)) (c.toNat - '0'.toNat)
    simp only [digits?, digitValue?_of_isDigit (h c List.mem_cons_self), hrest, Nat.ofDigitChars_cons,
      Nat.mul_zero, Nat.zero_add]

lemma digits?_toDigits (n : Nat) : digits? (Nat.toDigits 10 n) = some n := by
  rw [digits?_eq Nat.toDigits_ne_nil fun c => Nat.isDigit_of_mem_toDigits (by decide) (by decide),
    Nat.ofDigitChars_ten_toDigits]

/-! ## Integers -/

lemma trim_eq_self {drop : Char → Bool} {text : List Char} (h : ∀ c ∈ text, drop c = false) :
    trim drop text = text := by
  have hkeep : ∀ l : List Char, (∀ c ∈ l, drop c = false) → l.dropWhile drop = l := by
    intro l hl
    cases l with
    | nil => rfl
    | cons c rest => simp [hl c List.mem_cons_self]
  rw [trim, hkeep text h, hkeep text.reverse (by simpa using h), List.reverse_reverse]

lemma isNumberSpace_of_isDigit {c : Char} (h : c.isDigit) : isNumberSpace c = false := by
  obtain ⟨hlow, hhigh⟩ := Char.isDigit_iff_toNat.mp h
  have hlow : 48 ≤ c.toNat := hlow
  have hhigh : c.toNat ≤ 57 := hhigh
  have hblank : c ≠ ' ' := by
    rintro rfl
    exact absurd h (by decide)
  simp [isNumberSpace, isPlainSpace, isWideSpace, hblank]
  omega

lemma signed?_toDigits (n : Nat) : signed? (Nat.toDigits 10 n) = some (n : Int) := by
  have hdigit : ∀ c ∈ Nat.toDigits 10 n, c.isDigit :=
    fun c => Nat.isDigit_of_mem_toDigits (by decide) (by decide)
  have hvalue : (digits? (Nat.toDigits 10 n)).map Int.ofNat = some (n : Int) := by
    rw [digits?_toDigits]
    rfl
  rw [← hvalue, signed?]
  · intro rest heq
    exact absurd (hdigit '+' (heq ▸ List.mem_cons_self)) (by decide)
  · intro rest heq
    exact absurd (hdigit '-' (heq ▸ List.mem_cons_self)) (by decide)

/-- **Reading undoes writing.** -/
theorem integer?_toString (n : Int) : integer? (toString n).toList = some n := by
  have hdigits : ∀ m : Nat, ∀ c ∈ Nat.toDigits 10 m, isNumberSpace c = false :=
    fun m c hc => isNumberSpace_of_isDigit (Nat.isDigit_of_mem_toDigits (by decide) (by decide) hc)
  rw [integer?, Int.toString_eq_repr, Int.repr_eq_if]
  split
  · next hnonneg =>
    rw [Nat.toList_repr, trim_eq_self (hdigits _), signed?_toDigits, Int.toNat_of_nonneg hnonneg]
  · next hnegative =>
    have hminus : ∀ c ∈ '-' :: Nat.toDigits 10 (-n).toNat, isNumberSpace c = false :=
      List.forall_mem_cons.mpr ⟨by decide, hdigits _⟩
    have htext : ("-" ++ (-n).toNat.repr).toList = '-' :: Nat.toDigits 10 (-n).toNat := by
      rw [String.toList_append, Nat.toList_repr]
      rfl
    rw [htext, trim_eq_self hminus, signed?, digits?_toDigits, Option.map_some, Option.some.injEq]
    simp only [Int.ofNat_eq_natCast]
    omega

/-! ## The width of a written number -/

lemma length_toString_nat_le_iff {width : Nat} (h : 0 < width) (n : Nat) :
    (toString n).length ≤ width ↔ n < 10 ^ width := by
  rw [← String.length_toList, Nat.toString_eq_repr, Nat.toList_repr]
  exact Nat.length_toDigits_le_iff (by decide) h

/-- A sign takes the place of a digit. -/
lemma length_toString_int_le_iff {width : Nat} (h : 0 < width) (n : Int) :
    (toString n).length ≤ width + 1 ↔ -10 ^ width < n ∧ n < 10 ^ (width + 1) := by
  rw [Int.toString_eq_repr, Int.repr_eq_if]
  split
  · next hnonneg =>
    rw [← Nat.toString_eq_repr, length_toString_nat_le_iff (by omega)]
    have hsmall : (0 : Int) < 10 ^ width := Int.pow_pos (by decide)
    have hcast : ((10 ^ (width + 1) : Nat) : Int) = 10 ^ (width + 1) := by simp
    omega
  · next hnegative =>
    have hsign : ("-" ++ (-n).toNat.repr).length = (toString (-n).toNat).length + 1 := by
      rw [String.length_append, Nat.add_comm, Nat.toString_eq_repr]
      rfl
    have hlarge : (0 : Int) < 10 ^ (width + 1) := Int.pow_pos (by decide)
    have hcast : ((10 ^ width : Nat) : Int) = 10 ^ width := by simp
    rw [hsign, Nat.add_le_add_iff_right, length_toString_nat_le_iff h]
    omega

/-- A number is written in digits, with a sign if it is below zero. -/
lemma notMem_toString {c : Char} (hsign : c ≠ '-') (hdigit : c.isDigit = false) (n : Int) :
    c ∉ (toString n).toList := by
  have hdigits (m : Nat) : c ∉ m.repr.toList := by
    rw [Nat.toList_repr]
    intro hc
    simp [Nat.isDigit_of_mem_toDigits (by decide) (by decide) hc] at hdigit
  rw [Int.toString_eq_repr, Int.repr_eq_if]
  split
  · exact hdigits _
  · simpa [hsign] using hdigits (-n).toNat

lemma toString_int_ne_nil (n : Int) : (toString n).toList ≠ [] := by
  rw [Int.toString_eq_repr, Int.repr_eq_if]
  split
  · rw [Nat.toList_repr]
    exact Nat.toDigits_ne_nil
  · simp

end TapeLang.Text
