import Mathlib.Data.List.Forall2
import TapeLang.Text.Digit
import TapeLang.Text.LetterCase
import TapeLang.Text.Ranges
import TapeLang.Text.Space

/-!
# Words in any case

Whoever compares the small form of a text with a word means to accept the word in every mixture of
small letters and capitals.  Small forms are those of all scripts, however, and two capitals beyond
ASCII have small forms within it: the Kelvin sign, and the capital I with a dot above.

* `SameLetter`, `InAnyCase`: a letter or its capital, and a word so written.
* `Steady`: a character that is the small letter of itself and of its usual capital only, and
  `Caseless` one that has no capital.  `steady_of_ascii`, `caseless_of_digit` and
  `caseless_of_isNumberSpace` give those that matter here; what they take from the table of capitals is
  settled by going through it once.
* **`lower_eq_iff`**: a text has a word of such characters as its small form exactly if it is that word
  in any case.
-/

namespace TapeLang.Text

/-! ## The table of capitals -/

lemma toNat_ofNat_of_isValidChar {code : Nat} (h : code.isValidChar) : (Char.ofNat code).toNat = code := by
  rw [Char.ofNat, dif_pos h]
  rfl

/-- A character beyond ASCII is its own small letter, or the table says which one it has. -/
lemma lowerChar_cases {c : Char} (h : 128 ≤ c.toNat) :
    lowerChar c = c ∨ ∃ run ∈ capitalRuns, run.first ≤ c.toNat ∧ c.toNat ≤ run.last ∧
      (lowerChar c).toNat = run.lower + (c.toNat - run.first) := by
  rw [lowerChar, if_neg (Nat.not_lt.mpr h)]
  cases hfound : capitalRuns.findSome? fun run => run.lower? c.toNat with
  | none => exact .inl (by rw [Option.getD_none, Char.ofNat_toNat])
  | some code =>
    obtain ⟨run, hrun, hcode⟩ := List.exists_of_findSome?_eq_some hfound
    rw [CapitalRun.lower?, Option.ite_none_right_eq_some, Option.some.injEq] at hcode
    obtain ⟨⟨hfirst, hlast, -⟩, rfl⟩ := hcode
    have htable : capitalRuns.all (fun run =>
        decide (run.lower + (run.last - run.first) < 0xd800) || decide (0xdfff < run.lower) &&
          decide (run.lower + (run.last - run.first) < 0x110000)) = true := by decide +kernel
    have hentry := List.all_eq_true.mp htable run hrun
    simp only [Bool.or_eq_true, Bool.and_eq_true, decide_eq_true_eq] at hentry
    have hvalid : (run.lower + (c.toNat - run.first)).isValidChar := by
      rw [Nat.isValidChar]
      omega
    exact .inr ⟨run, hrun, hfirst, hlast, by rw [Option.getD_some, toNat_ofNat_of_isValidChar hvalid]⟩

/-- Beyond ASCII, only the capital I with a dot and the Kelvin sign have a small letter within it. -/
lemma lowerChar_eq_of_ascii {c : Char} (h : 128 ≤ c.toNat) (hascii : (lowerChar c).toNat < 128) :
    c = '\u0130' ∨ lowerChar c = 'k' := by
  obtain hself | ⟨run, hrun, hfirst, hlast, hlower⟩ := lowerChar_cases h
  · rw [hself] at hascii
    omega
  · have htable : capitalRuns.all (fun run => decide (128 ≤ run.lower) ||
        decide (run.first = 0x130 ∧ run.last = 0x130) ||
        decide (run.first = run.last ∧ run.lower = 'k'.toNat)) = true := by decide +kernel
    have hentry := List.all_eq_true.mp htable run hrun
    simp only [Bool.or_eq_true, decide_eq_true_eq] at hentry
    rcases hentry with (hbeyond | hdotted) | hkelvin
    · omega
    · exact .inl (Char.toNat_inj.mp (by rw [show '\u0130'.toNat = 0x130 from rfl]; omega))
    · exact .inr (Char.toNat_inj.mp (by omega))

/-- Digits and white space beyond ASCII are neither capitals nor small letters. -/
def caselessRanges : Ranges :=
  zeroDigits.map (fun base => (base, base + 9)) ++
    [(0x85, 0x85), (0xa0, 0xa0), (0x1680, 0x1680), (0x2000, 0x200a), (0x2028, 0x2029), (0x202f, 0x202f),
      (0x205f, 0x205f), (0x3000, 0x3000)]

/-- No capital and no small letter of the table lies in one of the ranges. -/
lemma capitalRuns_avoid {run : CapitalRun} (hrun : run ∈ capitalRuns) {code : Nat}
    (hcode : caselessRanges.contains code = true) :
    ¬ (run.first ≤ code ∧ code ≤ run.last) ∧
      ¬ (run.lower ≤ code ∧ code ≤ run.lower + (run.last - run.first)) := by
  have htable : capitalRuns.all (fun run => caselessRanges.all fun range =>
      (range.2.blt run.first || run.last.blt range.1) &&
        (range.2.blt run.lower || (run.lower + (run.last - run.first)).blt range.1)) = true := by
    decide +kernel
  obtain ⟨⟨first, last⟩, hrange, hwithin⟩ := List.any_eq_true.mp hcode
  have hentry := List.all_eq_true.mp (List.all_eq_true.mp htable run hrun) (first, last) hrange
  simp only [Bool.and_eq_true, Bool.or_eq_true, Nat.blt_eq, decide_eq_true_eq] at hentry hwithin
  omega

lemma caselessRanges_contains_of_digit {c : Char} {digit : Nat} (h : digitValue? c = some digit) :
    caselessRanges.contains c.toNat = true := by
  obtain ⟨base, hfound, -⟩ := Option.map_eq_some_iff.mp h
  have hbase := List.find?_some hfound
  simp only [Bool.and_eq_true, decide_eq_true_eq] at hbase
  refine List.any_eq_true.mpr ⟨(base, base + 9), ?_, ?_⟩
  · exact List.mem_append_left _ (List.mem_map_of_mem (List.mem_of_find?_eq_some hfound))
  · simp only [Bool.and_eq_true, decide_eq_true_eq]
    omega

lemma caselessRanges_contains_of_isWideSpace {c : Char} (h : isWideSpace c = true) :
    caselessRanges.contains c.toNat = true := by
  rw [caselessRanges, Ranges.contains, List.any_append, Bool.or_eq_true]
  right
  simp only [isWideSpace, List.any_cons, List.any_nil, Bool.or_false, Bool.or_eq_true, Bool.and_eq_true,
    beq_iff_eq, decide_eq_true_eq] at h ⊢
  omega

/-! ## Letters and their capitals -/

/-- The character is the letter, or its capital. -/
def SameLetter (c letter : Char) : Prop :=
  c = letter ∨ c = letter.toUpper

/-- The text is the word, with any of its letters as capitals. -/
def InAnyCase (word text : List Char) : Prop :=
  List.Forall₂ SameLetter text word

lemma isUpper_iff_toNat {c : Char} : c.isUpper ↔ 65 ≤ c.toNat ∧ c.toNat ≤ 90 := by
  change decide ('A'.val ≤ c.val ∧ c.val ≤ 'Z'.val) = true ↔ _
  rw [decide_eq_true_iff, UInt32.le_iff_toNat_le, UInt32.le_iff_toNat_le]
  rfl

lemma isLower_iff_toNat {c : Char} : c.isLower ↔ 97 ≤ c.toNat ∧ c.toNat ≤ 122 := by
  change (decide ('a'.val ≤ c.val) && decide (c.val ≤ 'z'.val)) = true ↔ _
  rw [Bool.and_eq_true, decide_eq_true_iff, decide_eq_true_iff, UInt32.le_iff_toNat_le,
    UInt32.le_iff_toNat_le]
  rfl

lemma toNat_toLower (c : Char) : c.toLower.toNat = if c.isUpper then c.toNat + 32 else c.toNat := by
  by_cases h : c.isUpper
  · have hcode := isUpper_iff_toNat.mp h
    have hlower : c.toLower.val = c.val + 32 := congrArg Char.val (dif_pos (of_decide_eq_true h))
    have hval : c.toLower.toNat = (c.toNat + 32) % 2 ^ 32 := by
      rw [← Char.toNat_val, hlower, UInt32.toNat_add]
      rfl
    rw [if_pos h, hval]
    omega
  · have hlower : c.toLower = c := dif_neg fun hcode => h (decide_eq_true hcode)
    rw [if_neg h, hlower]

lemma toNat_toUpper (c : Char) : c.toUpper.toNat = if c.isLower then c.toNat - 32 else c.toNat := by
  have hrange : c.isLower ↔ 'a'.val ≤ c.val ∧ c.val ≤ 'z'.val := by
    rw [UInt32.le_iff_toNat_le, UInt32.le_iff_toNat_le]
    exact isLower_iff_toNat
  by_cases h : c.isLower
  · have hcode := isLower_iff_toNat.mp h
    -- what lies between the two cases is taken away by adding its complement
    have hgap : ('A'.val - 'a'.val).toNat = 2 ^ 32 - 32 := by decide
    have hupper : c.toUpper.val = c.val + ('A'.val - 'a'.val) := by
      delta Char.toUpper
      rw [dif_pos (hrange.mp h)]
    have hval : c.toUpper.toNat = (c.toNat + (2 ^ 32 - 32)) % 2 ^ 32 := by
      rw [← Char.toNat_val, hupper, UInt32.toNat_add, hgap, Char.toNat_val]
    rw [if_pos h, hval]
    omega
  · have hupper : c.toUpper = c := dif_neg fun hcode => h (hrange.mpr hcode)
    rw [if_neg h, hupper]

lemma toLower_eq_iff {letter : Char} (h : ¬ letter.isUpper) (c : Char) :
    c.toLower = letter ↔ SameLetter c letter := by
  rw [SameLetter, ← Char.toNat_inj, ← Char.toNat_inj, ← Char.toNat_inj, toNat_toLower, toNat_toUpper]
  rw [isUpper_iff_toNat] at h
  simp only [isUpper_iff_toNat, isLower_iff_toNat]
  split_ifs <;> omega

lemma sameLetter_iff_of_not_isLower {c letter : Char} (h : ¬ letter.isLower) :
    SameLetter c letter ↔ c = letter := by
  rw [SameLetter, ← Char.toNat_inj, ← Char.toNat_inj, toNat_toUpper, if_neg h, or_self]

/-- A character beyond ASCII is the capital of none. -/
lemma sameLetter_iff_eq {c letter : Char} (h : 128 ≤ c.toNat) : SameLetter c letter ↔ c = letter := by
  rw [SameLetter, ← Char.toNat_inj, ← Char.toNat_inj, toNat_toUpper]
  simp only [isLower_iff_toNat]
  split_ifs <;> omega

/-- The letter is the small letter of itself and of its usual capital, and of no other character; and
it has no part in the small form of the capital I with a dot above. -/
structure Steady (letter : Char) : Prop where
  lowerChar_iff : ∀ c, c ≠ '\u0130' → (lowerChar c = letter ↔ SameLetter c letter)
  ne_dot : letter ≠ '\u0307'
  ne_dotted : ∀ c, SameLetter c letter → c ≠ '\u0130'

lemma steady_of_beyond {letter : Char} (hupper : ¬ letter.isUpper) (hdot : letter ≠ '\u0307')
    (hdotted : letter ≠ '\u0130')
    (hbeyond : ∀ c, 128 ≤ c.toNat → c ≠ '\u0130' → (lowerChar c = letter ↔ c = letter)) :
    Steady letter where
  lowerChar_iff c hc := by
    by_cases hascii : c.toNat < 128
    · rw [lowerChar, if_pos hascii, toLower_eq_iff hupper]
    · rw [hbeyond c (Nat.le_of_not_lt hascii) hc, sameLetter_iff_eq (Nat.le_of_not_lt hascii)]
  ne_dot := hdot
  ne_dotted c hc heq := by
    subst heq
    exact hdotted ((sameLetter_iff_eq (by decide)).mp hc).symm

lemma steady_of_ascii {letter : Char} (hascii : letter.toNat < 128) (hupper : ¬ letter.isUpper)
    (hkelvin : letter ≠ 'k') : Steady letter := by
  have hne {c : Char} (hc : 128 ≤ c.toNat) : letter ≠ c := by
    rintro rfl
    omega
  refine steady_of_beyond hupper (hne (by decide)) (hne (by decide)) fun c hc hcne => ?_
  refine iff_of_false ?_ (hne hc).symm
  intro heq
  obtain hdotted | hk := lowerChar_eq_of_ascii hc (heq ▸ hascii)
  · exact hcne hdotted
  · exact hkelvin (heq.symm.trans hk)

/-- The character is neither a capital nor the small letter of one. -/
structure Caseless (c : Char) : Prop extends Steady c where
  not_isLower : ¬ c.isLower

lemma caseless_of_contains {c : Char} (h : caselessRanges.contains c.toNat = true) : Caseless c := by
  have hne {d : Char} (hd : caselessRanges.contains d.toNat = false) : c ≠ d := by
    rintro rfl
    simp [h] at hd
  have hascii : c.toNat < 65 ∨ 122 < c.toNat := by
    have htable : caselessRanges.all (fun range => range.2.blt 65 || Nat.blt 122 range.1) = true := by
      decide +kernel
    obtain ⟨⟨first, last⟩, hrange, hwithin⟩ := List.any_eq_true.mp h
    have hentry := List.all_eq_true.mp htable (first, last) hrange
    simp only [Bool.and_eq_true, Bool.or_eq_true, Nat.blt_eq, decide_eq_true_eq] at hentry hwithin
    omega
  have hupper : ¬ c.isUpper := by
    rw [isUpper_iff_toNat]
    omega
  have hlower : ¬ c.isLower := by
    rw [isLower_iff_toNat]
    omega
  have hsteady : Steady c := by
    refine steady_of_beyond hupper (hne (by decide +kernel)) (hne (by decide +kernel)) fun d hd _ => ?_
    obtain hself | ⟨run, hrun, hfirst, hlast, hsmall⟩ := lowerChar_cases hd
    · rw [hself]
    · obtain ⟨hcapital, hletter⟩ := capitalRuns_avoid hrun h
      refine iff_of_false ?_ ?_
      · rintro rfl
        exact hletter (by omega)
      · rintro rfl
        exact hcapital ⟨hfirst, hlast⟩
  exact ⟨hsteady, hlower⟩

lemma caseless_of_ascii {c : Char} (hascii : c.toNat < 128) (hupper : ¬ c.isUpper)
    (hlower : ¬ c.isLower) : Caseless c := by
  refine ⟨steady_of_ascii hascii hupper ?_, hlower⟩
  rintro rfl
  exact hlower (by decide)

lemma caseless_of_digit {c : Char} {digit : Nat} (h : digitValue? c = some digit) : Caseless c :=
  caseless_of_contains (caselessRanges_contains_of_digit h)

lemma caseless_of_isNumberSpace {c : Char} (h : isNumberSpace c = true) : Caseless c := by
  rw [isNumberSpace, Bool.or_eq_true] at h
  rcases h with hplain | hwide
  · have hcode : c.toNat ≤ 32 := by
      simp only [isPlainSpace, Bool.or_eq_true, beq_iff_eq, Bool.and_eq_true, decide_eq_true_eq] at hplain
      rcases hplain with rfl | hcontrol
      · decide
      · omega
    refine caseless_of_ascii (by omega) ?_ ?_
    · rw [isUpper_iff_toNat]
      omega
    · rw [isLower_iff_toNat]
      omega
  · exact caseless_of_contains (caselessRanges_contains_of_isWideSpace hwide)

/-! ## Words -/

lemma lower_eq_map {text : List Char} (h : '\u0130' ∉ text) : lower text = text.map lowerChar := by
  rw [lower, List.map_eq_flatMap]
  refine List.flatMap_congr fun c hc => ?_
  rw [if_neg]
  rintro rfl
  exact h hc

lemma dot_mem_lower {text : List Char} (h : '\u0130' ∈ text) : '\u0307' ∈ lower text :=
  List.mem_flatMap.mpr ⟨'\u0130', h, by simp⟩

lemma InAnyCase.exists_letter {word text : List Char} (h : InAnyCase word text) {c : Char}
    (hc : c ∈ text) : ∃ letter ∈ word, SameLetter c letter := by
  induction h with
  | nil => simp at hc
  | @cons d letter text word hsame hmore ih =>
    rcases List.mem_cons.mp hc with rfl | hc
    · exact ⟨letter, List.mem_cons_self, hsame⟩
    · obtain ⟨other, hother, hsame⟩ := ih hc
      exact ⟨other, List.mem_cons_of_mem letter hother, hsame⟩

lemma map_lowerChar_eq_iff {word text : List Char} (hword : ∀ letter ∈ word, Steady letter)
    (htext : '\u0130' ∉ text) : text.map lowerChar = word ↔ InAnyCase word text := by
  induction text generalizing word with
  | nil => cases word <;> simp [InAnyCase]
  | cons c text ih =>
    cases word with
    | nil => simp [InAnyCase]
    | cons letter word =>
      obtain ⟨hletter, hrest⟩ := List.forall_mem_cons.mp hword
      rw [List.mem_cons, not_or] at htext
      obtain ⟨hc, hmore⟩ := htext
      rw [List.map_cons, List.cons.injEq, ih hrest hmore, hletter.lowerChar_iff c (Ne.symm hc)]
      exact List.forall₂_cons.symm

/-- **Small forms of words.**  A text has the small form `word` exactly if it is `word` in any case. -/
theorem lower_eq_iff {word text : List Char} (hword : ∀ letter ∈ word, Steady letter) :
    lower text = word ↔ InAnyCase word text := by
  by_cases htext : '\u0130' ∈ text
  · -- the small form then has a dot on its own, and the word has none
    refine iff_of_false ?_ ?_
    · rintro rfl
      exact (hword '\u0307' (dot_mem_lower htext)).ne_dot rfl
    · intro h
      obtain ⟨letter, hletter, hsame⟩ := h.exists_letter htext
      exact (hword letter hletter).ne_dotted '\u0130' hsame rfl
  · rw [lower_eq_map htext, map_lowerChar_eq_iff hword htext]

lemma inAnyCase_append_iff {word more text : List Char} :
    InAnyCase (word ++ more) text ↔
      ∃ first rest, text = first ++ rest ∧ InAnyCase word first ∧ InAnyCase more rest := by
  constructor
  · intro h
    refine ⟨text.take word.length, text.drop word.length, (List.take_append_drop _ _).symm, ?_, ?_⟩
    · exact List.forall₂_take_append text word more h
    · exact List.forall₂_drop_append text word more h
  · rintro ⟨first, rest, rfl, hfirst, hrest⟩
    exact List.rel_append hfirst hrest

/-- Without letters there is only one case. -/
lemma inAnyCase_iff_eq {word text : List Char} (hword : ∀ c ∈ word, ¬ c.isLower) :
    InAnyCase word text ↔ text = word := by
  constructor
  · intro h
    induction h with
    | nil => rfl
    | @cons c letter text word hsame hmore ih =>
      obtain ⟨hletter, hrest⟩ := List.forall_mem_cons.mp hword
      rw [(sameLetter_iff_of_not_isLower hletter).mp hsame, ih hrest]
  · rintro rfl
    exact List.forall₂_same.mpr fun c _ => .inl rfl

/-- Only a text without letters is its own small form and nothing else's. -/
lemma lower_eq_iff_of_caseless {marks text : List Char} (hmarks : ∀ c ∈ marks, Caseless c) :
    lower text = marks ↔ text = marks := by
  rw [lower_eq_iff fun c hc => (hmarks c hc).toSteady,
    inAnyCase_iff_eq fun c hc => (hmarks c hc).not_isLower]

/-- A word with marks behind it may be written in any case, and the marks in one way only. -/
lemma lower_eq_append_iff {word marks text : List Char} (hword : ∀ letter ∈ word, Steady letter)
    (hmarks : ∀ c ∈ marks, Caseless c) :
    lower text = word ++ marks ↔ ∃ first, text = first ++ marks ∧ InAnyCase word first := by
  have hsteady : ∀ letter ∈ word ++ marks, Steady letter :=
    List.forall_mem_append.mpr ⟨hword, fun c hc => (hmarks c hc).toSteady⟩
  rw [lower_eq_iff hsteady, inAnyCase_append_iff]
  constructor
  · rintro ⟨first, rest, rfl, hfirst, hrest⟩
    rw [inAnyCase_iff_eq fun c hc => (hmarks c hc).not_isLower] at hrest
    exact ⟨first, by rw [hrest], hfirst⟩
  · rintro ⟨first, rfl, hfirst⟩
    exact ⟨first, marks, rfl, hfirst, (inAnyCase_iff_eq fun c hc => (hmarks c hc).not_isLower).mpr rfl⟩

end TapeLang.Text
