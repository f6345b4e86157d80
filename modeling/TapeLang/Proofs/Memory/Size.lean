import TapeLang.Memory.Size
import TapeLang.Proofs.Text.LetterCase
import TapeLang.Proofs.Text.Numeral

/-!
# Which texts describe the size of a tape

`Policy.ofText` strips a text, takes its small form, compares it with words, drops a label and reads
what is left as an integer.  White space, signs, underscores and labels are each let through at one
of these steps only.  This file puts the steps together into one grammar.

* `CountsCells`: a number of cells, with its label and blanks or without.
* `Policy.WrittenAs`: the texts, without white space around them, that describe a policy.
* `integer?_dropFixed_lower_iff`: reading a number of cells, the label in any case.
* **`Policy.ofText_grammar`**: a policy is read from exactly the texts that describe it, and whatever
  describes none is refused.
-/

namespace TapeLang

open Text

/-! ## The grammar -/

/-- The text is a number of cells: `fixed:` in any case or nothing, then blanks, then the number. -/
def CountsCells (text : List Char) (n : Int) : Prop :=
  ∃ label blanks number, text = label ++ blanks ++ number ∧
    (label = [] ∨ InAnyCase "fixed:".toList label) ∧ (∀ c ∈ blanks, isNumberSpace c = true) ∧
    Signed number n

/-- The text, without white space around it, describes the policy. -/
def Policy.WrittenAs : Policy → List Char → Prop
  | .rightUnbounded, text => InAnyCase "right".toList text ∨ InAnyCase "right-unbounded".toList text
  | .bothUnbounded, text => InAnyCase "both".toList text ∨ InAnyCase "both-unbounded".toList text
  | .fixed size, text => CountsCells text size

/-! ## Characters of the grammar -/

lemma steady_of_word {word : List Char}
    (h : ∀ c ∈ word, c.toNat < 128 ∧ c.isUpper = false ∧ c ≠ 'k') : ∀ c ∈ word, Steady c := by
  intro c hc
  obtain ⟨hascii, hupper, hkelvin⟩ := h c hc
  exact steady_of_ascii hascii (by simp [hupper]) hkelvin

lemma caseless_of_numeral {text : List Char} {value : Nat} (h : Numeral text value) :
    ∀ c ∈ text, Caseless c := by
  have hmark : Caseless '_' := caseless_of_ascii (by decide) (by decide) (by decide)
  induction h with
  | digit hdigit => simpa using caseless_of_digit hdigit
  | followed hbefore hdigit ih => simpa [or_imp, forall_and] using ⟨ih, caseless_of_digit hdigit⟩
  | separated hbefore hdigit ih =>
    simpa [or_imp, forall_and] using ⟨ih, hmark, caseless_of_digit hdigit⟩

lemma caseless_of_signed {text : List Char} {n : Int} (h : Signed text n) : ∀ c ∈ text, Caseless c := by
  cases h with
  | plain hvalue => exact caseless_of_numeral hvalue
  | plus hvalue =>
    exact List.forall_mem_cons.mpr
      ⟨caseless_of_ascii (by decide) (by decide) (by decide), caseless_of_numeral hvalue⟩
  | minus hvalue =>
    exact List.forall_mem_cons.mpr
      ⟨caseless_of_ascii (by decide) (by decide) (by decide), caseless_of_numeral hvalue⟩

/-! ## The label -/

lemma dropFixed_label (rest : List Char) : dropFixed ("fixed:".toList ++ rest) = rest := by
  have hlabel : "fixed:".toList.isPrefixOf ("fixed:".toList ++ rest) = true :=
    List.isPrefixOf_iff_prefix.mpr (List.prefix_append _ _)
  rw [dropFixed, if_pos hlabel]
  rfl

/-- Text without letters has no label. -/
lemma dropFixed_of_caseless {text : List Char} (h : ∀ c ∈ text, Caseless c) : dropFixed text = text := by
  rw [dropFixed, if_neg]
  intro hlabel
  obtain ⟨rest, rfl⟩ := List.isPrefixOf_iff_prefix.mp hlabel
  exact (h 'f' (by simp)).not_isLower (by decide)

lemma steady_label : ∀ c ∈ "fixed:".toList, Steady c := steady_of_word (by simp)

/-- Where no letters are left without the label, it is all that there was besides. -/
lemma exists_label {text marks : List Char} (hmarks : ∀ c ∈ marks, Caseless c)
    (h : dropFixed (lower text) = marks) :
    ∃ label, text = label ++ marks ∧ (label = [] ∨ InAnyCase "fixed:".toList label) := by
  rw [dropFixed] at h
  split_ifs at h with hfixed
  · obtain ⟨rest, hwords⟩ := List.isPrefixOf_iff_prefix.mp hfixed
    obtain rfl : rest = marks := by
      rw [← h, ← hwords]
      rfl
    obtain ⟨label, htext, hcase⟩ := (lower_eq_append_iff steady_label hmarks).mp hwords.symm
    exact ⟨label, htext, .inr hcase⟩
  · exact ⟨[], (lower_eq_iff_of_caseless hmarks).mp h, .inl rfl⟩

/-! ## Reading a number of cells -/

/-- Blanks behind a number would stand at the end of the text, where nothing was left to strip. -/
lemma eq_nil_of_getLast? {text behind : List Char}
    (hlast : ∀ c, (text ++ behind).getLast? = some c → isSpace c = false)
    (hbehind : ∀ c ∈ behind, isNumberSpace c = true) : behind = [] := by
  by_contra hne
  have hspace := isSpace_of_isNumberSpace (hbehind _ (List.getLast_mem hne))
  have hkept := hlast (behind.getLast hne) (by simp [List.getLast?_eq_some_getLast hne])
  simp [hspace] at hkept

/-- **The number of cells that a stripped text gives**, through its small form and without its label. -/
lemma integer?_dropFixed_lower_iff {text : List Char} {n : Int}
    (hlast : ∀ c, text.getLast? = some c → isSpace c = false) :
    integer? (dropFixed (lower text)) = some n ↔ CountsCells text n := by
  constructor
  · intro h
    obtain ⟨blanks, number, behind, hrest, hblanks, hbehind, hnumber⟩ := integer?_eq_some_iff.mp h
    have hmarks : ∀ c ∈ blanks ++ number ++ behind, Caseless c := by
      simp only [List.forall_mem_append]
      exact ⟨⟨fun c hc => caseless_of_isNumberSpace (hblanks c hc), caseless_of_signed hnumber⟩,
        fun c hc => caseless_of_isNumberSpace (hbehind c hc)⟩
    obtain ⟨label, rfl, hlabel⟩ := exists_label hmarks hrest
    rw [← List.append_assoc] at hlast
    obtain rfl := eq_nil_of_getLast? hlast hbehind
    exact ⟨label, blanks, number, by simp, hlabel, hblanks, hnumber⟩
  · rintro ⟨label, blanks, number, rfl, hlabel, hblanks, hnumber⟩
    have hmarks : ∀ c ∈ blanks ++ number, Caseless c := List.forall_mem_append.mpr
      ⟨fun c hc => caseless_of_isNumberSpace (hblanks c hc), caseless_of_signed hnumber⟩
    have hrest : dropFixed (lower (label ++ blanks ++ number)) = blanks ++ number := by
      rw [List.append_assoc]
      rcases hlabel with rfl | hcase
      · rw [List.nil_append, (lower_eq_iff_of_caseless hmarks).mpr rfl, dropFixed_of_caseless hmarks]
      · rw [(lower_eq_append_iff steady_label hmarks).mpr ⟨label, rfl, hcase⟩, dropFixed_label]
    rw [hrest, integer?_eq_some_iff]
    exact ⟨blanks, number, [], by simp, hblanks, by simp, hnumber⟩

/-! ## Reading a policy -/

variable {text : String}

lemma Policy.writtenAs_right_iff {text : List Char} : rightUnbounded.WrittenAs text ↔
    lower text = "right".toList ∨ lower text = "right-unbounded".toList := by
  rw [lower_eq_iff (steady_of_word (by simp)), lower_eq_iff (steady_of_word (by simp)), WrittenAs]

lemma Policy.writtenAs_both_iff {text : List Char} : bothUnbounded.WrittenAs text ↔
    lower text = "both".toList ∨ lower text = "both-unbounded".toList := by
  rw [lower_eq_iff (steady_of_word (by simp)), lower_eq_iff (steady_of_word (by simp)), WrittenAs]

lemma countsCells_strip_iff {n : Int} :
    CountsCells (strip text.toList) n ↔ integer? (dropFixed (lower (strip text.toList))) = some n :=
  (integer?_dropFixed_lower_iff (trims_trim isSpace text.toList).last).symm

/-- A number of cells is none of the words. -/
lemma Policy.ofText_of_countsCells {n : Int} (h : CountsCells (strip text.toList) n) :
    ofText text = if n < 0 then .error (.negative n) else .ok (.fixed n.toNat) := by
  have hinteger := countsCells_strip_iff.mp h
  have hword (word : String) (hnone : integer? (dropFixed word.toList) = none) :
      lower (strip text.toList) ≠ word.toList := by
    intro heq
    simp [heq, hnone] at hinteger
  have hright := not_or.mpr
    ⟨hword "right" (by decide +kernel), hword "right-unbounded" (by decide +kernel)⟩
  have hboth := not_or.mpr
    ⟨hword "both" (by decide +kernel), hword "both-unbounded" (by decide +kernel)⟩
  simp only [ofText, if_neg hright, if_neg hboth, hinteger]

lemma Policy.ofText_of_writtenAs {policy : Policy} (h : policy.WrittenAs (strip text.toList)) :
    ofText text = .ok policy := by
  cases policy with
  | rightUnbounded => simp only [ofText, if_pos (writtenAs_right_iff.mp h)]
  | bothUnbounded =>
    have hboth := writtenAs_both_iff.mp h
    have hright : ¬ (lower (strip text.toList) = "right".toList ∨
        lower (strip text.toList) = "right-unbounded".toList) := by
      rcases hboth with heq | heq <;> simp [heq]
    simp only [ofText, if_neg hright, if_pos hboth]
  | fixed size =>
    rw [ofText_of_countsCells h, if_neg (by omega), Int.toNat_natCast]

lemma Policy.ofText_of_not_writtenAs (hwords : ∀ policy : Policy, ¬ policy.WrittenAs (strip text.toList))
    (hcells : ∀ n, ¬ CountsCells (strip text.toList) n) : ofText text = .error (.unreadable text) := by
  have hinteger : integer? (dropFixed (lower (strip text.toList))) = none :=
    Option.eq_none_iff_forall_ne_some.mpr fun n hn => hcells n (countsCells_strip_iff.mpr hn)
  have hright := mt writtenAs_right_iff.mpr (hwords .rightUnbounded)
  have hboth := mt writtenAs_both_iff.mpr (hwords .bothUnbounded)
  simp only [ofText, if_neg hright, if_neg hboth, hinteger]

/-- A text describes a policy, or a number of cells that there cannot be, or nothing. -/
lemma Policy.writtenAs_cases (text : List Char) :
    (∃ policy : Policy, policy.WrittenAs text) ∨ (∃ n < 0, CountsCells text n) ∨
      (∀ policy : Policy, ¬ policy.WrittenAs text) ∧ ∀ n, ¬ CountsCells text n := by
  by_cases hcells : ∃ n, CountsCells text n
  · obtain ⟨n, hn⟩ := hcells
    by_cases hneg : n < 0
    · exact .inr (.inl ⟨n, hneg, hn⟩)
    · obtain ⟨size, rfl⟩ := Int.eq_ofNat_of_zero_le (Int.not_lt.mp hneg)
      exact .inl ⟨.fixed size, hn⟩
  · by_cases hwords : ∃ policy : Policy, policy.WrittenAs text
    · exact .inl hwords
    · exact .inr (.inr ⟨not_exists.mp hwords, not_exists.mp hcells⟩)

lemma Policy.ofText_eq_ok_iff {policy : Policy} :
    ofText text = .ok policy ↔ policy.WrittenAs (strip text.toList) := by
  refine ⟨fun h => ?_, ofText_of_writtenAs⟩
  obtain ⟨other, hother⟩ | ⟨n, hneg, hn⟩ | ⟨hwords, hcells⟩ := writtenAs_cases (strip text.toList)
  · rw [ofText_of_writtenAs hother, Except.ok.injEq] at h
    rwa [← h]
  · simp [ofText_of_countsCells hn, hneg] at h
  · simp [ofText_of_not_writtenAs hwords hcells] at h

lemma Policy.ofText_eq_error_iff {e : SizeError} : ofText text = .error e ↔
    (∃ n < 0, CountsCells (strip text.toList) n ∧ e = .negative n) ∨
      e = .unreadable text ∧ (∀ policy : Policy, ¬ policy.WrittenAs (strip text.toList)) ∧
        ∀ n, ¬ CountsCells (strip text.toList) n := by
  constructor
  · intro h
    obtain ⟨other, hother⟩ | ⟨n, hneg, hn⟩ | ⟨hwords, hcells⟩ := writtenAs_cases (strip text.toList)
    · simp [ofText_of_writtenAs hother] at h
    · rw [ofText_of_countsCells hn, if_pos hneg, Except.error.injEq] at h
      exact .inl ⟨n, hneg, hn, h.symm⟩
    · rw [ofText_of_not_writtenAs hwords hcells, Except.error.injEq] at h
      exact .inr ⟨h.symm, hwords, hcells⟩
  · rintro (⟨n, hneg, hn, rfl⟩ | ⟨rfl, hwords, hcells⟩)
    · rw [ofText_of_countsCells hn, if_pos hneg]
    · exact ofText_of_not_writtenAs hwords hcells

/-! ## Plain decimal numbers -/

lemma isSpace_of_label {label : List Char} (h : InAnyCase "fixed:".toList label) {c : Char}
    (hc : c ∈ label) : isSpace c = false := by
  obtain ⟨letter, hletter, hsame⟩ := h.exists_letter hc
  have hword : ∀ letter ∈ "fixed:".toList, isSpace letter = false ∧ isSpace letter.toUpper = false := by
    simp [isSpace, isPlainSpace, isSeparator, isWideSpace]
  rcases hsame with rfl | rfl
  · exact (hword _ hletter).1
  · exact (hword _ hletter).2

/-- A plain number in any case, with its label or without, counts cells and has no white space. -/
lemma countsCells_of_plain {n : Nat} {core : List Char}
    (h : InAnyCase (toString n).toList core ∨ InAnyCase ("fixed:" ++ toString n).toList core) :
    CountsCells core n ∧ ∀ c ∈ core, isSpace c = false := by
  have hdigits : ∀ c ∈ (toString n).toList, ¬ c.isLower :=
    fun c hc => (caseless_of_numeral (numeral_toString n) c hc).not_isLower
  rw [String.toList_append, inAnyCase_append_iff, inAnyCase_iff_eq hdigits] at h
  obtain rfl | ⟨label, rest, rfl, hlabel, hrest⟩ := h
  · exact ⟨⟨[], [], _, rfl, .inl rfl, by simp, .plain (numeral_toString n)⟩,
      fun c => isSpace_of_mem_toString⟩
  · rw [inAnyCase_iff_eq hdigits] at hrest
    subst hrest
    refine ⟨⟨label, [], _, by simp, .inr hlabel, by simp, .plain (numeral_toString n)⟩, ?_⟩
    exact List.forall_mem_append.mpr ⟨fun c => isSpace_of_label hlabel, fun c => isSpace_of_mem_toString⟩

/-! ## The whole -/

/-- **Exactly the grammar is accepted.**  What is left of a text without the white space at its ends
decides: a policy is read exactly if that describes it, and the text is refused exactly if that is a
number below zero, or describes nothing.  In particular a plain number, with its label or without, is
read in any case and with any white space around it. -/
theorem Policy.ofText_grammar :
    (∀ text : String, ∃ core, Trims isSpace text.toList core ∧
      (∀ policy : Policy, ofText text = .ok policy ↔ policy.WrittenAs core) ∧
      ∀ e, ofText text = .error e ↔
        (∃ n < 0, CountsCells core n ∧ e = .negative n) ∨
          e = .unreadable text ∧ (∀ policy : Policy, ¬ policy.WrittenAs core) ∧
            ∀ n, ¬ CountsCells core n) ∧
    ∀ (n : Nat) (before core behind : List Char),
      (∀ c ∈ before, isSpace c = true) → (∀ c ∈ behind, isSpace c = true) →
      (InAnyCase (toString n).toList core ∨ InAnyCase ("fixed:" ++ toString n).toList core) →
      ofText (String.ofList (before ++ core ++ behind)) = .ok (.fixed n) := by
  constructor
  · intro text
    exact ⟨strip text.toList, trims_trim isSpace text.toList, fun _ => ofText_eq_ok_iff,
      fun _ => ofText_eq_error_iff⟩
  · intro n before core behind hbefore hbehind hcore
    obtain ⟨hcells, hspace⟩ := countsCells_of_plain hcore
    have htrims := trims_of_forall hspace hbefore hbehind
    rw [ofText_eq_ok_iff, String.toList_ofList, strip, htrims.trim_eq]
    exact hcells

/-- A label in capitals between blanks is read, and a blank, a sign and an underscore behind one. -/
theorem Policy.labelled_numbers_read :
    InAnyCase ("fixed:" ++ toString 12).toList "FIXED:12".toList ∧
      ofText (String.ofList (['\u3000'] ++ "FIXED:12".toList ++ ['\t'])) = .ok (.fixed 12) ∧
      ofText "fixed: -1_0" = .error (.negative (-10)) := by
  have hcapitals : InAnyCase ("fixed:" ++ toString 12).toList "FIXED:12".toList := by
    rw [show ("fixed:" ++ toString 12).toList = "fixed:12".toList by decide]
    simp [InAnyCase, SameLetter]
  have hcells : CountsCells "fixed: -1_0".toList (-10) :=
    ⟨"fixed:".toList, [' '], "-1_0".toList, by decide, .inr (List.forall₂_same.mpr fun _ _ => .inl rfl),
      by simp [isNumberSpace, isPlainSpace], signed?_eq_some_iff.mp (by decide +kernel)⟩
  refine ⟨hcapitals, ?_, ?_⟩
  · exact ofText_grammar.2 12 ['\u3000'] _ ['\t'] (by simp [isSpace, isWideSpace])
      (by simp [isSpace, isPlainSpace]) (.inr hcapitals)
  · obtain ⟨core, htrims, -, herror⟩ := ofText_grammar.1 "fixed: -1_0"
    obtain rfl : "fixed: -1_0".toList = core := htrims.trim_eq ▸ by decide +kernel
    exact (herror (.negative (-10))).mpr (.inl ⟨-10, by decide, hcells, rfl⟩)

end TapeLang
