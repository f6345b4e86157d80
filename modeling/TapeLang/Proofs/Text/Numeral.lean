import Mathlib.Data.List.DropRight
import TapeLang.Proofs.Text.Integer

/-!
# The grammar of numbers in text

An integer is read by trimming blanks, taking off a sign and folding the digits into a value, and at
each of these steps a text can turn out to be none.  This file says without any of the steps which
texts are integers, and which integers they are.

* `Trims`: a text without the characters that are to be dropped at its ends.
* `Numeral`, `Signed`: numbers without and with a sign, and their values in the decimal system.
* `digits?_eq_some_iff`, `signed?_eq_some_iff`: reading them.
* **`integer?_eq_some_iff`**: an integer is a number with a sign, or without, between blanks.
-/

namespace TapeLang.Text

/-! ## Trimming -/

/-- The text is `core` with something to be dropped at both ends, and `core` has nothing of it at
either end. -/
structure Trims (drop : Char → Bool) (text core : List Char) : Prop where
  exists_eq : ∃ before behind, text = before ++ core ++ behind ∧
    (∀ c ∈ before, drop c = true) ∧ ∀ c ∈ behind, drop c = true
  head : ∀ c, core.head? = some c → drop c = false
  last : ∀ c, core.getLast? = some c → drop c = false

variable {drop : Char → Bool} {text core : List Char}

lemma trims_trim (drop : Char → Bool) (text : List Char) : Trims drop text (trim drop text) := by
  have htrim : trim drop text = (text.dropWhile drop).rdropWhile drop := rfl
  refine ⟨⟨text.takeWhile drop, (text.dropWhile drop).rtakeWhile drop, ?_, ?_, ?_⟩, ?_, ?_⟩
  · rw [htrim, List.append_assoc, List.rdropWhile_append_rtakeWhile, List.takeWhile_append_dropWhile]
  · intro c hc
    exact List.mem_takeWhile_imp hc
  · intro c hc
    exact List.mem_rtakeWhile_imp hc
  · intro c hc
    obtain ⟨behind, hbehind⟩ := List.rdropWhile_prefix drop (l := text.dropWhile drop)
    have hhead : (text.dropWhile drop).head? = some c := by
      rw [← hbehind, List.head?_append, ← htrim, hc]
      rfl
    have hnot := List.head?_dropWhile_not drop text
    rwa [hhead] at hnot
  · intro c hc
    have hne : (text.dropWhile drop).rdropWhile drop ≠ [] := by
      intro hnil
      rw [htrim, hnil] at hc
      simp at hc
    have hnot := List.rdropWhile_last_not drop (text.dropWhile drop) hne
    rw [htrim, List.getLast?_eq_some_getLast hne, Option.some.injEq] at hc
    rwa [hc, Bool.not_eq_true] at hnot

lemma dropWhile_append_eq {before rest : List Char} (hbefore : ∀ c ∈ before, drop c = true)
    (hrest : ∀ c, rest.head? = some c → drop c = false) : (before ++ rest).dropWhile drop = rest := by
  rw [List.dropWhile_append_of_pos hbefore]
  cases rest with
  | nil => rfl
  | cons c rest => simp [hrest c rfl]

lemma trims_of_forall {before behind : List Char} (hcore : ∀ c ∈ core, drop c = false)
    (hbefore : ∀ c ∈ before, drop c = true) (hbehind : ∀ c ∈ behind, drop c = true) :
    Trims drop (before ++ core ++ behind) core :=
  ⟨⟨before, behind, rfl, hbefore, hbehind⟩, fun c hc => hcore c (List.mem_of_head? hc),
    fun c hc => hcore c (List.mem_of_getLast? hc)⟩

/-- What is left is determined by the text. -/
lemma Trims.trim_eq (h : Trims drop text core) : trim drop text = core := by
  obtain ⟨before, behind, rfl, hbefore, hbehind⟩ := h.exists_eq
  cases hcore : core with
  | nil =>
    have hall : (before ++ [] ++ behind).dropWhile drop = [] := by
      rw [List.append_nil, List.dropWhile_append_of_pos hbefore]
      exact List.dropWhile_eq_nil_iff.mpr hbehind
    rw [trim, hall]
    rfl
  | cons c rest =>
    rw [← hcore, trim, List.append_assoc, dropWhile_append_eq hbefore, List.reverse_append,
      dropWhile_append_eq, List.reverse_reverse]
    · simpa using hbehind
    · intro d hd
      exact h.last d (by rwa [List.head?_reverse] at hd)
    · intro d hd
      exact h.head d (by simpa [hcore] using hd)

/-! ## Numbers -/

/-- Decimal digits of any script, with at most one underscore between two of them, and their value. -/
inductive Numeral : List Char → Nat → Prop
  | digit {c : Char} {value : Nat} (h : digitValue? c = some value) : Numeral [c] value
  | followed {text : List Char} {value next : Nat} {c : Char} (hbefore : Numeral text value)
      (h : digitValue? c = some next) : Numeral (text ++ [c]) (10 * value + next)
  | separated {text : List Char} {value next : Nat} {c : Char} (hbefore : Numeral text value)
      (h : digitValue? c = some next) : Numeral (text ++ ['_', c]) (10 * value + next)

/-- A number that a sign may precede. -/
inductive Signed : List Char → Int → Prop
  | plain {text : List Char} {value : Nat} (h : Numeral text value) : Signed text value
  | plus {text : List Char} {value : Nat} (h : Numeral text value) : Signed ('+' :: text) value
  | minus {text : List Char} {value : Nat} (h : Numeral text value) : Signed ('-' :: text) (-value)

lemma ne_of_digit {c mark : Char} {digit : Nat} (h : digitValue? c = some digit)
    (hmark : digitValue? mark = none) : c ≠ mark := by
  rintro rfl
  simp [hmark] at h

lemma digitsAfter_digit {c : Char} {digit : Nat} (h : digitValue? c = some digit) (value : Nat)
    (rest : List Char) : digitsAfter value (c :: rest) = digitsAfter (10 * value + digit) rest := by
  rw [digitsAfter, h, Nat.mul_comm]
  exact fun _ _ heq => absurd heq (ne_of_digit h (by decide))

lemma digitsAfter_separated {c : Char} {digit : Nat} (h : digitValue? c = some digit) (value : Nat)
    (rest : List Char) :
    digitsAfter value ('_' :: c :: rest) = digitsAfter (10 * value + digit) rest := by
  rw [digitsAfter, h, Nat.mul_comm]

/-- Digits that are read behind a number make it a longer one. -/
lemma Numeral.of_digitsAfter {rest : List Char} {value n : Nat} (h : Numeral text value)
    (hrest : digitsAfter value rest = some n) : Numeral (text ++ rest) n := by
  fun_induction digitsAfter value rest generalizing text with
  | case1 value =>
    obtain rfl := Option.some.inj hrest
    rwa [List.append_nil]
  | case2 value c rest digit hdigit ih =>
    rw [show text ++ '_' :: c :: rest = text ++ ['_', c] ++ rest by simp]
    refine ih ?_ hrest
    rw [Nat.mul_comm]
    exact .separated h hdigit
  | case3 value c rest hdigit => simp at hrest
  | case4 value c rest hsingle digit hdigit ih =>
    rw [List.append_cons]
    refine ih ?_ hrest
    rw [Nat.mul_comm]
    exact .followed h hdigit
  | case5 value c rest hsingle hdigit => simp at hrest

/-- A number is read before whatever comes behind it. -/
lemma Numeral.digits?_append {value : Nat} (h : Numeral text value) (rest : List Char) :
    digits? (text ++ rest) = digitsAfter value rest := by
  induction h generalizing rest with
  | digit hdigit => rw [List.singleton_append, digits?, hdigit]
  | followed hbefore hdigit ih => rw [← List.append_cons, ih, digitsAfter_digit hdigit]
  | separated hbefore hdigit ih =>
    rw [List.append_assoc, ih, List.cons_append, List.singleton_append, digitsAfter_separated hdigit]

lemma digits?_eq_some_iff {n : Nat} : digits? text = some n ↔ Numeral text n := by
  constructor
  · intro h
    cases text with
    | nil => simp [digits?] at h
    | cons c rest =>
      rw [digits?] at h
      split at h
      · next digit hdigit => exact (Numeral.digit hdigit).of_digitsAfter h
      · simp at h
  · intro h
    rw [← List.append_nil text, h.digits?_append, digitsAfter]

/-- A number is written as a numeral of its value. -/
lemma numeral_toString (n : Nat) : Numeral (toString n).toList n := by
  rw [Nat.toString_eq_repr, Nat.toList_repr]
  exact digits?_eq_some_iff.mp (digits?_toDigits n)

/-! ## Ends of a number -/

lemma Numeral.head {value : Nat} (h : Numeral text value) :
    ∃ c rest digit, text = c :: rest ∧ digitValue? c = some digit := by
  induction h with
  | digit hdigit => exact ⟨_, _, _, rfl, hdigit⟩
  | followed hbefore hdigit ih =>
    obtain ⟨c, rest, digit, rfl, hc⟩ := ih
    exact ⟨c, _, digit, List.cons_append, hc⟩
  | separated hbefore hdigit ih =>
    obtain ⟨c, rest, digit, rfl, hc⟩ := ih
    exact ⟨c, _, digit, List.cons_append, hc⟩

lemma Numeral.last {value : Nat} (h : Numeral text value) :
    ∃ c rest digit, text = rest ++ [c] ∧ digitValue? c = some digit := by
  cases h with
  | digit hdigit => exact ⟨_, [], _, rfl, hdigit⟩
  | followed hbefore hdigit => exact ⟨_, _, _, rfl, hdigit⟩
  | @separated text value next c hbefore hdigit => exact ⟨c, text ++ ['_'], next, by simp, hdigit⟩

lemma isSpace_of_isNumberSpace {c : Char} (h : isNumberSpace c = true) : isSpace c = true := by
  simp only [isNumberSpace, isSpace, Bool.or_eq_true] at h ⊢
  tauto

/-- Digits of all scripts are no white space. -/
lemma isSpace_of_digit {c : Char} {digit : Nat} (h : digitValue? c = some digit) :
    isSpace c = false := by
  have htable : zeroDigits.all (fun base => (List.range 10).all fun offset =>
      !isSpace (Char.ofNat (base + offset))) = true := by decide +kernel
  obtain ⟨base, hfound, -⟩ := Option.map_eq_some_iff.mp h
  have hbase := List.find?_some hfound
  simp only [Bool.and_eq_true, decide_eq_true_eq] at hbase
  have hbases := List.all_eq_true.mp htable base (List.mem_of_find?_eq_some hfound)
  have hentry := List.all_eq_true.mp hbases (c.toNat - base) (List.mem_range.mpr (by omega))
  rwa [Nat.add_sub_cancel' hbase.1, Char.ofNat_toNat, Bool.not_eq_true'] at hentry

lemma isSpace_of_mem_toString {n : Nat} {c : Char} (hc : c ∈ (toString n).toList) : isSpace c = false := by
  rw [Nat.toString_eq_repr, Nat.toList_repr] at hc
  exact isSpace_of_digit (digitValue?_of_isDigit (Nat.isDigit_of_mem_toDigits (by decide) (by decide) hc))

lemma isNumberSpace_of_digit {c : Char} {digit : Nat} (h : digitValue? c = some digit) :
    isNumberSpace c = false := by
  by_contra hspace
  have hwhite := isSpace_of_isNumberSpace (Bool.not_eq_false _ ▸ hspace)
  simp [isSpace_of_digit h] at hwhite

/-! ## Integers -/

lemma signed?_eq_some_iff {n : Int} : signed? text = some n ↔ Signed text n := by
  constructor
  · intro h
    rw [signed?.eq_def] at h
    split at h <;> obtain ⟨value, hvalue, rfl⟩ := Option.map_eq_some_iff.mp h
    · exact .plus (digits?_eq_some_iff.mp hvalue)
    · exact .minus (digits?_eq_some_iff.mp hvalue)
    · exact .plain (digits?_eq_some_iff.mp hvalue)
  · intro h
    cases h with
    | plain hvalue =>
      obtain ⟨c, rest, digit, rfl, hc⟩ := hvalue.head
      rw [signed?, digits?_eq_some_iff.mpr hvalue]
      · rfl
      · intro _ heq
        exact ne_of_digit hc (by decide) (List.cons.inj heq).1
      · intro _ heq
        exact ne_of_digit hc (by decide) (List.cons.inj heq).1
    | plus hvalue =>
      rw [signed?, digits?_eq_some_iff.mpr hvalue]
      rfl
    | minus hvalue =>
      rw [signed?, digits?_eq_some_iff.mpr hvalue]
      rfl

/-- Neither end of a number is a blank. -/
lemma Signed.trims {n : Int} (h : Signed core n) {before behind : List Char}
    (hbefore : ∀ c ∈ before, isNumberSpace c = true) (hbehind : ∀ c ∈ behind, isNumberSpace c = true) :
    Trims isNumberSpace (before ++ core ++ behind) core := by
  refine ⟨⟨before, behind, rfl, hbefore, hbehind⟩, ?_, ?_⟩
  · intro c hc
    cases h with
    | plain hvalue =>
      obtain ⟨first, rest, digit, rfl, hfirst⟩ := hvalue.head
      obtain rfl := Option.some.inj hc
      exact isNumberSpace_of_digit hfirst
    | plus hvalue | minus hvalue =>
      obtain rfl := Option.some.inj hc
      decide
  · intro c hc
    -- the last character is a digit, behind a sign or not
    have hlast : ∃ rest last digit, core = rest ++ [last] ∧ digitValue? last = some digit := by
      cases h with
      | plain hvalue =>
        obtain ⟨last, rest, digit, rfl, hdigit⟩ := hvalue.last
        exact ⟨rest, last, digit, rfl, hdigit⟩
      | plus hvalue | minus hvalue =>
        obtain ⟨last, rest, digit, rfl, hdigit⟩ := hvalue.last
        exact ⟨_ :: rest, last, digit, rfl, hdigit⟩
    obtain ⟨rest, last, digit, rfl, hdigit⟩ := hlast
    rw [List.getLast?_append, List.getLast?_singleton, Option.some_or, Option.some.injEq] at hc
    exact hc ▸ isNumberSpace_of_digit hdigit

/-- **Which texts are integers.** -/
theorem integer?_eq_some_iff {n : Int} :
    integer? text = some n ↔ ∃ before core behind, text = before ++ core ++ behind ∧
      (∀ c ∈ before, isNumberSpace c = true) ∧ (∀ c ∈ behind, isNumberSpace c = true) ∧
      Signed core n := by
  rw [integer?, signed?_eq_some_iff]
  constructor
  · intro h
    obtain ⟨before, behind, htext, hbefore, hbehind⟩ := (trims_trim isNumberSpace text).exists_eq
    exact ⟨before, _, behind, htext, hbefore, hbehind, h⟩
  · rintro ⟨before, core, behind, rfl, hbefore, hbehind, h⟩
    rwa [(h.trims hbefore hbehind).trim_eq]

end TapeLang.Text
