import Candidacy.Proofs.Text.Tables

/-!
# Capitals and back

A text that is put into capitals, and these into small letters, ends in its own small form as long
as each letter comes back: its capital form must be one character, and not that of another letter. A
small sigma comes back in the form that its place asks for, so it must stand in that form already.
White space is its own capital form.

- `Returns`: a letter that comes back.
- `Reversible`: a text all of whose letters come back, each small sigma in its place.
- `lowerChars_upperChars_eq_iff`: the reversible texts, and they alone, end in their small form.
- `trimChars_upperChars`: it is all the same whether white space is taken off before or after.
-/

namespace Candidacy.Text

/-! ## The tables of capitals -/

/-- The letters whose capital form is that of another letter. -/
def strayLetters : List Char := [
  '\u00B5', '\u0131', '\u017F', '\u0345', '\u03D0', '\u03D1', '\u03D5', '\u03D6', '\u03F0',
  '\u03F1', '\u03F5', '\u1C80', '\u1C81', '\u1C82', '\u1C83', '\u1C84', '\u1C85', '\u1C86',
  '\u1C87', '\u1C88', '\u1E9B', '\u1FBE']

/-- The capital form of the letter is one character, and not that of another letter. -/
def Returns (c : Char) : Prop := (upperChar c).length = 1 ∧ c ∉ strayLetters

instance (c : Char) : Decidable (Returns c) :=
  inferInstanceAs (Decidable ((upperChar c).length = 1 ∧ c ∉ strayLetters))

/-- The character is a capital sigma or a small one in either form. -/
def IsSigma (c : Char) : Prop := c = '\u03A3' ∨ c = '\u03C3' ∨ c = '\u03C2'

instance (c : Char) : Decidable (IsSigma c) :=
  inferInstanceAs (Decidable (c = '\u03A3' ∨ c = '\u03C3' ∨ c = '\u03C2'))

/-- The four letters between a capital and a small one that both have two letters in one. -/
def titleLetters : List Char := ['\u01C5', '\u01C8', '\u01CB', '\u01F2']

def capital (c : Char) : Char := Char.ofNat (Run.image upperRuns c.toNat)

/-- Runs in order that move letters with a case, but for some that move characters without. -/
structure LetterTable extends Run.Table where
  uncased : List Run
  cased : Span.allWithin ((runs.diff uncased).flatMap Run.pieces) casedSpans = true

def lowerTable : LetterTable where
  runs := lowerRuns
  ordered := List.isChain_iff_pairwise.mp (by decide +kernel)
  uncased := []
  cased := by decide +kernel

/-- The runs to capitals. The iota below a letter has a capital form, but it is looked through. -/
def upperTable : LetterTable where
  runs := upperRuns
  ordered := List.isChain_iff_pairwise.mp (by decide +kernel)
  uncased := [⟨0x345, 0x345, 1, 84⟩]
  cased := by decide +kernel

def casedTable : Span.Table where
  spans := casedSpans
  ordered := List.isChain_iff_pairwise.mp (by decide +kernel)

def ignorableTable : Span.Table where
  spans := ignorableSpans
  ordered := List.isChain_iff_pairwise.mp (by decide +kernel)

theorem casedTable_apart_ignorableTable :
    Span.allApart casedTable.spans ignorableTable.spans = true := by
  decide +kernel

/-- What becomes a small letter becomes a character, and none of it is the dotted capital I. -/
theorem lowerTable_valid : (lowerTable.runs.all fun q => !q.moves 0x130 &&
    (Nat.blt q.last 0xD800 || Nat.blt 0xDFFF q.first && Nat.blt q.last 0x110000)) = true := by
  decide +kernel

/-- Whether the run to capitals is undone by one to small letters. -/
def Run.isUndone (r : Run) : Bool :=
  (lowerTable.tree.runsAt (r.first + r.shift).toNat).any (·.undoes r)

/-- Whether all that the run moves is to be looked at letter by letter. -/
def Run.isOdd (r : Run) : Bool :=
  (List.range (r.last + 1 - r.first)).all fun k =>
    (strayLetters ++ titleLetters ++ ['\u03C2']).any fun c => Nat.beq c.toNat (r.first + k)

theorem upperTable_undone : (upperTable.runs.all fun r => r.isUndone || r.isOdd) = true := by
  decide +kernel

def asciiRun : Run := ⟨0x61, 0x7A, 1, -32⟩

theorem upperTable_ascii : (upperTable.runs.all fun r => r == asciiRun || Nat.ble 0x80 r.first) =
    true := by
  decide +kernel

theorem image_lowerRuns (n : Nat) :
    Run.image lowerRuns n = Run.image (lowerTable.tree.runsAt n) n :=
  (lowerTable.image_runsAt n).symm

theorem image_upperRuns (n : Nat) :
    Run.image upperRuns n = Run.image (upperTable.tree.runsAt n) n :=
  (upperTable.image_runsAt n).symm

/-- Letters whose capital form is that of another letter do not come back, and none of them becomes
a sigma or white space. -/
theorem strayLetters_stray : (strayLetters.all fun c =>
    lowerChar (capital c) != lowerChar c && capital c != '\u03A3' &&
      (!isBlank c && !isBlank (capital c))) = true := by
  simp only [lowerChar, capital, image_lowerRuns, image_upperRuns]
  decide +kernel

theorem titleLetters_return : (titleLetters.all fun c =>
    lowerChar (capital c) == lowerChar c && capital c != '\u03A3' &&
      (isCased c && isCased (capital c))) = true := by
  simp only [lowerChar, capital, image_lowerRuns, image_upperRuns]
  decide +kernel

/-- A capital form that is spelled out has two characters at least, no white space and no sigma, and
is not that of an ASCII character or of the dotted capital I. -/
theorem upperSpellings_spell :
    (upperSpellings.all fun (n, spelling) =>
      Nat.ble 2 spelling.length && Nat.ble 0x80 n && !Nat.beq n 0x130 && !isBlank (Char.ofNat n) &&
        spelling.all fun m => !isBlank (Char.ofNat m) && Char.ofNat m != '\u03A3') = true := by
  decide +kernel

/-! ## Single characters -/

theorem isIgnorable_of_isCased {c : Char} (h : isCased c = true) : isIgnorable c = false := by
  obtain ⟨s, hs, hc⟩ := List.any_eq_true.mp h
  simp only [isIgnorable, Span.anyHas, List.any_eq_false, Bool.not_eq_true]
  intro t ht
  exact Span.has_eq_false_of_apart
    (Span.apart_of_allApart casedTable_apart_ignorableTable s hs t ht) hc

theorem LetterTable.isCased_of_moves {t : LetterTable} {r : Run} (hr : r ∈ t.runs)
    (huncased : r ∉ t.uncased) {c : Char} (hc : r.moves c.toNat = true) : isCased c = true := by
  obtain ⟨s, hs, hsc⟩ := Run.exists_piece hc
  have hmem : r ∈ t.runs.diff t.uncased := List.mem_diff_of_mem hr huncased
  exact Span.anyHas_of_allWithin t.cased (List.mem_flatMap.mpr ⟨r, hmem, hs⟩) hsc

theorem mem_of_isOdd {r : Run} (h : r.isOdd = true) {c : Char} (hc : r.moves c.toNat = true) :
    c ∈ strayLetters ++ titleLetters ++ ['\u03C2'] := by
  rw [Run.moves_iff] at hc
  have hk := List.all_eq_true.mp h (c.toNat - r.first) (List.mem_range.mpr (by omega))
  obtain ⟨d, hd, hdc⟩ := List.any_eq_true.mp hk
  have hnat : d.toNat = c.toNat := by
    rw [Nat.beq_eq] at hdc
    omega
  exact Char.toNat_inj.mp hnat ▸ hd

theorem toNat_ofNat_of_moves {q : Run} (hq : q ∈ lowerRuns) {n : Nat} (hn : q.moves n = true) :
    (Char.ofNat n).toNat = n := by
  have hvalid := List.all_eq_true.mp lowerTable_valid q hq
  simp only [Bool.and_eq_true, Bool.or_eq_true, Nat.blt_eq] at hvalid
  rw [Run.moves_iff] at hn
  have hn : n.isValidChar := by
    unfold Nat.isValidChar
    omega
  rw [Char.ofNat, dif_pos hn]
  rfl

/-- What becomes of a letter as a capital: it stays as it is, it is one of those that are looked at
one by one, or it is the small form of its capital. -/
theorem capital_cases (c : Char) :
    capital c = c ∨ c ∈ strayLetters ∨ c ∈ titleLetters ∨ c = '\u03C2' ∨
      lowerChar (capital c) = [c] ∧ isCased c = true ∧ isCased (capital c) = true := by
  rcases Run.image_cases upperRuns c.toNat with ⟨r, hr, hm, hi⟩ | ⟨hi, -⟩
  · cases hundone : r.isUndone with
    | false =>
      have hodd := List.all_eq_true.mp upperTable_undone r hr
      rw [hundone, Bool.false_or] at hodd
      have hone := mem_of_isOdd hodd hm
      simp only [List.mem_append, List.mem_singleton] at hone
      rcases hone with (hstray | htitle) | hfinal
      · exact .inr (.inl hstray)
      · exact .inr (.inr (.inl htitle))
      · exact .inr (.inr (.inr (.inl hfinal)))
    | true =>
      have huncased : r ∉ upperTable.uncased := fun hiota => by
        rw [List.mem_singleton.mp hiota] at hundone
        revert hundone
        decide +kernel
      obtain ⟨q, hfound, hundoes⟩ := List.any_eq_true.mp hundone
      have hq : q ∈ lowerRuns := Run.Table.mem_of_mem_runsAt hfound
      obtain ⟨hqm, hback⟩ := Run.moves_of_undoes hundoes hm
      have hcap : (capital c).toNat = (c.toNat + r.shift).toNat := by
        rw [capital, hi, toNat_ofNat_of_moves hq hqm]
      rw [← hcap] at hqm hback
      have hdotted : capital c ≠ '\u0130' := by
        intro h
        have hnot := List.all_eq_true.mp lowerTable_valid q hq
        simp only [Bool.and_eq_true, Bool.not_eq_true'] at hnot
        rw [h] at hqm
        rw [show ('\u0130' : Char).toNat = 0x130 from rfl] at hqm
        exact Bool.false_ne_true (hnot.1.symm.trans hqm)
      refine .inr (.inr (.inr (.inr ⟨?_, upperTable.isCased_of_moves hr huncased hm,
        lowerTable.isCased_of_moves hq List.not_mem_nil hqm⟩)))
      have hsmall : Run.image lowerRuns (capital c).toNat = _ := lowerTable.image_of_moves hq hqm
      rw [lowerChar, if_neg hdotted, hsmall, hback, Char.ofNat_toNat]
  · exact .inl (by rw [capital, hi, Char.ofNat_toNat])

structure SpelledOut (c : Char) : Prop where
  length : 2 ≤ (upperChar c).length
  not_ascii : 0x80 ≤ c.toNat
  not_dotted : c ≠ '\u0130'
  not_blank : isBlank c = false
  plain : ∀ d ∈ upperChar c, isBlank d = false ∧ d ≠ '\u03A3'

theorem upperChar_or_spelled (c : Char) :
    upperChar c = [capital c] ∨
      ∃ spelling, (c.toNat, spelling) ∈ upperSpellings ∧ upperChar c = spelling.map Char.ofNat := by
  cases h : upperSpellings.lookup c.toNat with
  | none =>
    refine .inl ?_
    rw [upperChar, h]
    rfl
  | some spelling =>
    obtain ⟨before, after, hsplit, -⟩ := List.lookup_eq_some_iff.mp h
    have hmem : (c.toNat, spelling) ∈ upperSpellings := by
      rw [hsplit]
      exact List.mem_append_right _ List.mem_cons_self
    exact .inr ⟨spelling, hmem, by rw [upperChar, h]⟩

theorem upperChar_cases (c : Char) : upperChar c = [capital c] ∨ SpelledOut c := by
  rcases upperChar_or_spelled c with hc | ⟨spelling, hmem, hupper⟩
  · exact .inl hc
  · have hspell := List.all_eq_true.mp upperSpellings_spell _ hmem
    simp only [Bool.and_eq_true, Nat.ble_eq, Bool.not_eq_true', Char.ofNat_toNat, List.all_eq_true,
      bne_iff_ne, ne_eq] at hspell
    obtain ⟨⟨⟨⟨hlength, hascii⟩, hdotted⟩, hblank⟩, hall⟩ := hspell
    refine .inr ⟨?_, hascii, ?_, hblank, ?_⟩
    · rw [hupper, List.length_map]
      exact hlength
    · rintro rfl
      cases hdotted
    · intro d hd
      rw [hupper] at hd
      obtain ⟨m, hm, rfl⟩ := List.mem_map.mp hd
      exact hall m hm

theorem upperChar_ne_nil (c : Char) : upperChar c ≠ [] := by
  rcases upperChar_cases c with hc | hspelled
  · rw [hc]
    exact List.cons_ne_nil _ _
  · rintro hnil
    have htwo := hspelled.length
    rw [hnil, List.length_nil] at htwo
    omega

theorem upperChar_of_isSigma {c : Char} (h : IsSigma c) : upperChar c = ['\u03A3'] := by
  rcases h with rfl | rfl | rfl <;> decide +kernel

theorem capital_of_isSigma {c : Char} (h : IsSigma c) : capital c = '\u03A3' := by
  have hupper := upperChar_of_isSigma h
  rcases upperChar_cases c with hc | hspelled
  · exact (List.cons.inj (hc.symm.trans hupper)).1
  · have htwo := hspelled.length
    rw [hupper, List.length_singleton] at htwo
    omega

theorem capital_of_small_ascii {c : Char} (hfirst : 0x61 ≤ c.toNat) (hlast : c.toNat ≤ 0x7A) :
    capital c = c.toUpper := by
  have hmem : asciiRun ∈ upperTable.runs := List.mem_cons_self
  have hmoves : asciiRun.moves c.toNat = true := Run.moves_iff.mpr ⟨hfirst, hlast, Nat.mod_one _⟩
  have himage : Run.image upperRuns c.toNat = _ := upperTable.image_of_moves hmem hmoves
  have hall : ∀ k < 26, Char.ofNat (0x41 + k) = (Char.ofNat (0x61 + k)).toUpper := by decide
  have hk := hall (c.toNat - 0x61) (by omega)
  rw [show 0x61 + (c.toNat - 0x61) = c.toNat by omega, Char.ofNat_toNat] at hk
  rw [capital, himage, ← hk]
  congr 1
  simp only [asciiRun]
  omega

theorem capital_of_other_ascii {c : Char} (hascii : c.toNat < 0x80)
    (hletter : ¬ (0x61 ≤ c.toNat ∧ c.toNat ≤ 0x7A)) : capital c = c.toUpper := by
  have hupper : c.toUpper = c := by
    unfold Char.toUpper
    split
    · rename_i hsmall
      exact absurd ⟨UInt32.le_iff_toNat_le.mp hsmall.1, UInt32.le_iff_toNat_le.mp hsmall.2⟩ hletter
    · rfl
  rcases Run.image_cases upperRuns c.toNat with ⟨r, hr, hm, -⟩ | ⟨hi, -⟩
  · have hfirst := List.all_eq_true.mp upperTable_ascii r hr
    rw [Run.moves_iff] at hm
    rcases Bool.or_eq_true_iff.mp hfirst with hrun | hfirst
    · rw [beq_iff_eq.mp hrun] at hm
      exact absurd ⟨hm.1, hm.2.1⟩ hletter
    · rw [Nat.ble_eq] at hfirst
      omega
  · rw [capital, hi, Char.ofNat_toNat, hupper]

theorem upperChar_of_ascii {c : Char} (h : c.toNat < 0x80) : upperChar c = [c.toUpper] := by
  have hupper : upperChar c = [capital c] := by
    rcases upperChar_cases c with hc | hspelled
    · exact hc
    · have hnot := hspelled.not_ascii
      omega
  rw [hupper]
  by_cases hletter : 0x61 ≤ c.toNat ∧ c.toNat ≤ 0x7A
  · rw [capital_of_small_ascii hletter.1 hletter.2]
  · rw [capital_of_other_ascii h hletter]

theorem isBlank_of_isCased {c : Char} (h : isCased c = true) : isBlank c = false := by
  rw [Bool.eq_false_iff]
  intro hblank
  rw [(word_of_isBlank hblank).2] at h
  exact Bool.false_ne_true h

theorem stray_of_mem {c : Char} (h : c ∈ strayLetters) :
    lowerChar (capital c) ≠ lowerChar c ∧ capital c ≠ '\u03A3' ∧
      isBlank c = false ∧ isBlank (capital c) = false := by
  have hc := List.all_eq_true.mp strayLetters_stray c h
  simpa only [Bool.and_eq_true, bne_iff_ne, Bool.not_eq_true', and_assoc] using hc

theorem title_of_mem {c : Char} (h : c ∈ titleLetters) :
    lowerChar (capital c) = lowerChar c ∧ capital c ≠ '\u03A3' ∧
      isCased c = true ∧ isCased (capital c) = true := by
  have hc := List.all_eq_true.mp titleLetters_return c h
  simpa only [Bool.and_eq_true, beq_iff_eq, bne_iff_ne, and_assoc] using hc

/-- A character whose capital form is another is no white space, and neither is that. -/
theorem capital_eq_or_not_blank (c : Char) :
    capital c = c ∨ isBlank c = false ∧ isBlank (capital c) = false := by
  rcases capital_cases c with hc | hstray | htitle | rfl | ⟨-, hcased, hcapital⟩
  · exact .inl hc
  · exact .inr (stray_of_mem hstray).2.2
  · obtain ⟨-, -, hcased, hcapital⟩ := title_of_mem htitle
    exact .inr ⟨isBlank_of_isCased hcased, isBlank_of_isCased hcapital⟩
  · rw [capital_of_isSigma (.inr (.inr rfl))]
    exact .inr ⟨by decide, by decide⟩
  · exact .inr ⟨isBlank_of_isCased hcased, isBlank_of_isCased hcapital⟩

theorem upperChar_of_isBlank {c : Char} (h : isBlank c = true) : upperChar c = [c] := by
  rcases upperChar_cases c with hc | hspelled
  · rcases capital_eq_or_not_blank c with hsame | ⟨hblank, -⟩
    · rw [hc, hsame]
    · exact absurd (hblank.symm.trans h) Bool.false_ne_true
  · exact absurd (hspelled.not_blank.symm.trans h) Bool.false_ne_true

theorem isBlank_of_mem_upperChar {c d : Char} (h : isBlank c = false) (hd : d ∈ upperChar c) :
    isBlank d = false := by
  rcases upperChar_cases c with hc | hspelled
  · rw [hc, List.mem_singleton] at hd
    rcases capital_eq_or_not_blank c with hsame | ⟨-, hblank⟩
    · rw [hd, hsame, h]
    · rw [hd, hblank]
  · exact (hspelled.plain d hd).1

theorem capital_ne_sigma {c : Char} (h : ¬ IsSigma c) : capital c ≠ '\u03A3' := by
  rcases capital_cases c with hc | hstray | htitle | hfinal | ⟨hback, -, -⟩
  · rw [hc]
    exact fun e => h (.inl e)
  · exact (stray_of_mem hstray).2.1
  · exact (title_of_mem htitle).2.1
  · exact absurd (.inr (.inr hfinal)) h
  · intro e
    rw [e] at hback
    obtain ⟨rfl, -⟩ := List.cons.inj hback
    exact h (.inr (.inl (by decide)))

theorem not_sigma_of_mem_upperChar {c d : Char} (h : ¬ IsSigma c) (hd : d ∈ upperChar c) :
    d ≠ '\u03A3' := by
  rcases upperChar_cases c with hc | hspelled
  · rw [hc, List.mem_singleton] at hd
    rw [hd]
    exact capital_ne_sigma h
  · exact (hspelled.plain d hd).2

theorem lowerChar_capital {c : Char} (hstray : c ∉ strayLetters) (hsigma : ¬ IsSigma c) :
    lowerChar (capital c) = lowerChar c := by
  rcases capital_cases c with hc | hc | htitle | hfinal | ⟨hback, -, -⟩
  · rw [hc]
  · exact absurd hc hstray
  · exact (title_of_mem htitle).1
  · exact absurd (.inr (.inr hfinal)) hsigma
  · have hsmall : IsSmall c := isSmall_of_mem_lowerChar (hback ▸ List.mem_singleton_self c)
    rw [hback, hsmall.1]

/-- A letter and its capital are the same to a sigma that looks for the end of its word. -/
theorem word_capital {c : Char} (hstray : c ∉ strayLetters) :
    isIgnorable (capital c) = isIgnorable c ∧ isCased (capital c) = isCased c := by
  have hword (hcapital : isCased (capital c) = true) (hc : isCased c = true) :
      isIgnorable (capital c) = isIgnorable c ∧ isCased (capital c) = isCased c :=
    ⟨(isIgnorable_of_isCased hcapital).trans (isIgnorable_of_isCased hc).symm,
      hcapital.trans hc.symm⟩
  rcases capital_cases c with hc | hc | htitle | rfl | ⟨-, hcased, hcapital⟩
  · rw [hc]
    exact ⟨rfl, rfl⟩
  · exact absurd hc hstray
  · obtain ⟨-, -, hcased, hcapital⟩ := title_of_mem htitle
    exact hword hcapital hcased
  · exact hword (by rw [capital_of_isSigma (.inr (.inr rfl))]; decide) (by decide)
  · exact hword hcapital hcased

theorem length_lowerChar {c : Char} (h : c ≠ '\u0130') : (lowerChar c).length = 1 := by
  rw [lowerChar, if_neg h]
  rfl

theorem length_le_flatMap_lowerChar (cs : List Char) :
    cs.length ≤ (cs.flatMap lowerChar).length := by
  induction cs with
  | nil => exact Nat.zero_le _
  | cons c cs ih =>
    have hpos : 0 < (lowerChar c).length := List.length_pos_of_ne_nil (lowerChar_ne_nil c)
    rw [List.flatMap_cons, List.length_append, List.length_cons]
    omega

/-- By way of its capital form no letter becomes shorter than its small form. -/
theorem length_lowerChar_le (c : Char) :
    (lowerChar c).length ≤ ((upperChar c).flatMap lowerChar).length := by
  have hle := length_le_flatMap_lowerChar (upperChar c)
  rcases upperChar_cases c with hc | hspelled
  · by_cases hdotted : c = '\u0130'
    · rw [hdotted]
      decide +kernel
    · rw [length_lowerChar hdotted]
      rw [hc] at hle ⊢
      exact hle
  · have htwo := hspelled.length
    rw [length_lowerChar hspelled.not_dotted]
    omega

theorem upperChar_of_returns {c : Char} (h : Returns c) : upperChar c = [capital c] := by
  rcases upperChar_cases c with hc | hspelled
  · exact hc
  · have hone := h.1
    have htwo := hspelled.length
    omega

/-- A letter other than a sigma comes back if and only if the small form of its capital form is its
own. -/
theorem returns_iff {c : Char} (h : ¬ IsSigma c) :
    Returns c ↔ (upperChar c).flatMap lowerChar = lowerChar c := by
  constructor
  · intro hc
    rw [upperChar_of_returns hc, List.flatMap_singleton, lowerChar_capital hc.2 h]
  · intro heq
    rcases upperChar_cases c with hc | hspelled
    · refine ⟨by rw [hc, List.length_singleton], fun hstray => ?_⟩
      rw [hc, List.flatMap_singleton] at heq
      exact (stray_of_mem hstray).1 heq
    · have hle := length_le_flatMap_lowerChar (upperChar c)
      have htwo := hspelled.length
      rw [heq, length_lowerChar hspelled.not_dotted] at hle
      omega

theorem returns_of_isSigma {c : Char} (h : IsSigma c) : Returns c := by
  refine ⟨by rw [upperChar_of_isSigma h, List.length_singleton], ?_⟩
  rcases h with rfl | rfl | rfl <;> decide

/-! ## Texts -/

theorem upperChars_cons (c : Char) (cs : List Char) :
    upperChars (c :: cs) = upperChar c ++ upperChars cs := List.flatMap_cons

theorem upperChars_append (cs ds : List Char) :
    upperChars (cs ++ ds) = upperChars cs ++ upperChars ds := List.flatMap_append

theorem upperChars_eq_nil_iff {cs : List Char} : upperChars cs = [] ↔ cs = [] := by
  cases cs with
  | nil => exact iff_of_true rfl rfl
  | cons c cs => simp [upperChars_cons, upperChar_ne_nil]

theorem upperChars_of_blank {v : List Char} (h : Blank v) : upperChars v = v := by
  rw [upperChars_eq_map (f := id) fun c hc => upperChar_of_isBlank (h c hc), List.map_id]

theorem upperChars_padded {v w : List Char} (hv : Blank v) (hw : Blank w) (cs : List Char) :
    upperChars (v ++ cs ++ w) = v ++ upperChars cs ++ w := by
  rw [upperChars_append, upperChars_append, upperChars_of_blank hv, upperChars_of_blank hw]

theorem Trimmed.upperChars {cs : List Char} (h : Trimmed cs) : Trimmed (Text.upperChars cs) := by
  constructor
  · cases cs with
    | nil => exact nofun
    | cons c cs =>
      intro d hd
      rw [upperChars_cons, List.head?_append_of_ne_nil _ (upperChar_ne_nil c)] at hd
      exact isBlank_of_mem_upperChar (h.1 c rfl) (List.mem_of_head? hd)
  · rcases List.eq_nil_or_concat cs with rfl | ⟨front, c, rfl⟩
    · exact nofun
    · intro d hd
      have hlast : Text.upperChars [c] = upperChar c := List.flatMap_singleton ..
      rw [List.concat_eq_append, upperChars_append, hlast,
        List.getLast?_append_of_ne_nil _ (upperChar_ne_nil c)] at hd
      exact isBlank_of_mem_upperChar (h.2 c (by simp)) (List.mem_of_getLast? hd)

theorem trimChars_upperChars (cs : List Char) :
    trimChars (upperChars cs) = upperChars (trimChars cs) := by
  obtain ⟨v, w, hv, hw, hcs⟩ := exists_padding cs
  have hupper : upperChars cs = v ++ upperChars (trimChars cs) ++ w := by
    conv_lhs => rw [hcs]
    exact upperChars_padded hv hw _
  rw [hupper, trimChars_padded hv (trimmed_trimChars cs).upperChars hw]

/-- Where there is no sigma the small form is put together character by character. -/
theorem lowerAfter_append {ds : List Char} (h : ∀ d ∈ ds, d ≠ '\u03A3') (before cs : List Char) :
    lowerAfter before (ds ++ cs) =
      ds.flatMap lowerChar ++ lowerAfter (ds.reverse ++ before) cs := by
  induction ds generalizing before with
  | nil => rfl
  | cons d ds ih =>
    obtain ⟨hd, hds⟩ := List.forall_mem_cons.mp h
    rw [List.cons_append, lowerAfter_cons, lowerAt, if_neg hd, ih hds, List.flatMap_cons,
      List.reverse_cons, List.append_assoc, List.append_assoc, List.singleton_append]

/-- What becomes of a character by way of its capital form. -/
def lowerCapitalAt (before : List Char) (c : Char) (after : List Char) : List Char :=
  if IsSigma c then [lowerSigma before after] else (upperChar c).flatMap lowerChar

theorem lowerAfter_upperChars_cons (before : List Char) (c : Char) (cs : List Char) :
    lowerAfter before (upperChars (c :: cs)) =
      lowerCapitalAt before c (upperChars cs) ++
        lowerAfter ((upperChar c).reverse ++ before) (upperChars cs) := by
  rw [upperChars_cons, lowerCapitalAt]
  split
  · rename_i h
    rw [upperChar_of_isSigma h]
    rfl
  · rename_i h
    exact lowerAfter_append (fun d hd => not_sigma_of_mem_upperChar h hd) before _

theorem length_lowerAt_of_isSigma {c : Char} (h : IsSigma c) (before after : List Char) :
    (lowerAt before c after).length = 1 := by
  unfold lowerAt
  split
  · rfl
  · exact length_lowerChar (by rintro rfl; revert h; decide)

theorem length_lowerAt_le (before before' : List Char) (c : Char) (after after' : List Char) :
    (lowerAt before c after).length ≤ (lowerCapitalAt before' c after').length := by
  unfold lowerCapitalAt
  split
  · rename_i h
    exact (length_lowerAt_of_isSigma h before after).le
  · rename_i h
    rw [lowerAt, if_neg fun e => h (.inl e)]
    exact length_lowerChar_le c

theorem length_lowerAfter_le (before before' cs : List Char) :
    (lowerAfter before cs).length ≤ (lowerAfter before' (upperChars cs)).length := by
  induction cs generalizing before before' with
  | nil => exact Nat.le_refl _
  | cons c cs ih =>
    rw [lowerAfter_cons, lowerAfter_upperChars_cons, List.length_append, List.length_append]
    exact Nat.add_le_add (length_lowerAt_le ..) (ih ..)

/-- If a text comes back then so does each of its letters: none of them can make up for the length
of another. -/
theorem returns_of_lowerAfter_eq {before before' cs : List Char}
    (h : lowerAfter before' (upperChars cs) = lowerAfter before cs) : ∀ c ∈ cs, Returns c := by
  induction cs generalizing before before' with
  | nil => exact nofun
  | cons c cs ih =>
    rw [lowerAfter_upperChars_cons, lowerAfter_cons] at h
    have hlength : (lowerCapitalAt before' c (upperChars cs)).length =
        (lowerAt before c cs).length := by
      have hall := congrArg List.length h
      have hhead := length_lowerAt_le before before' c cs (upperChars cs)
      have htail := length_lowerAfter_le (c :: before) ((upperChar c).reverse ++ before') cs
      rw [List.length_append, List.length_append] at hall
      omega
    obtain ⟨hhead, htail⟩ := List.append_inj h hlength
    refine List.forall_mem_cons.mpr ⟨?_, ih htail⟩
    by_cases hsigma : IsSigma c
    · exact returns_of_isSigma hsigma
    · rw [lowerCapitalAt, if_neg hsigma, lowerAt, if_neg fun e => hsigma (.inl e)] at hhead
      exact (returns_iff hsigma).mpr hhead

/-- Every small sigma of a text that follows `before`, read backwards, is in the form that its place
asks for. -/
def SigmasInPlace (before cs : List Char) : Prop :=
  ∀ front c after, cs = front ++ c :: after → c = '\u03C3' ∨ c = '\u03C2' →
    c = lowerSigma (front.reverse ++ before) after

theorem sigmasInPlace_cons {before cs : List Char} {c : Char} :
    SigmasInPlace before (c :: cs) ↔
      (c = '\u03C3' ∨ c = '\u03C2' → c = lowerSigma before cs) ∧ SigmasInPlace (c :: before) cs := by
  constructor
  · intro h
    refine ⟨h [] c cs rfl, fun front d after hcs hd => ?_⟩
    have hat := h (c :: front) d after (by rw [hcs]; rfl) hd
    rwa [List.reverse_cons, List.append_assoc, List.singleton_append] at hat
  · rintro ⟨hc, hcs⟩ front d after heq hd
    cases front with
    | nil =>
      obtain ⟨rfl, rfl⟩ := List.cons.inj heq
      exact hc hd
    | cons e front =>
      obtain ⟨rfl, hrest⟩ := List.cons.inj heq
      rw [List.reverse_cons, List.append_assoc, List.singleton_append]
      exact hcs front d after hrest hd

/-- Each letter of the text comes back from its capital form, and each small sigma stands in the
form that its place asks for. -/
structure Reversible (cs : List Char) : Prop where
  returns : ∀ c ∈ cs, Returns c
  sigmas : SigmasInPlace [] cs

theorem meetsCased_map_capital {cs : List Char} (h : ∀ c ∈ cs, Returns c) :
    meetsCased (cs.map capital) = meetsCased cs := by
  induction cs with
  | nil => rfl
  | cons c cs ih =>
    obtain ⟨hc, hcs⟩ := List.forall_mem_cons.mp h
    obtain ⟨hignorable, hcased⟩ := word_capital hc.2
    rw [List.map_cons, meetsCased, meetsCased, hignorable, hcased, ih hcs]

/-- A single letter comes back if it is no small sigma out of its place. -/
theorem lowerAt_capital_eq_iff {before cs : List Char} {c : Char}
    (hbefore : ∀ d ∈ before, Returns d) (hcs : ∀ d ∈ cs, Returns d) (hc : Returns c) :
    lowerAt (before.map capital) (capital c) (cs.map capital) = lowerAt before c cs ↔
      (c = '\u03C3' ∨ c = '\u03C2' → c = lowerSigma before cs) := by
  have hsame : lowerSigma (before.map capital) (cs.map capital) = lowerSigma before cs := by
    rw [lowerSigma, meetsCased_map_capital hbefore, meetsCased_map_capital hcs, lowerSigma]
  by_cases hsigma : IsSigma c
  · rw [lowerAt, if_pos (capital_of_isSigma hsigma), hsame, lowerAt]
    rcases hsigma with rfl | hsmall
    · simp
    · have hself : IsSmall c := by rcases hsmall with rfl | rfl <;> exact ⟨by decide, by decide⟩
      rw [if_neg hself.2, hself.1, List.singleton_inj, eq_comm]
      exact ⟨fun h _ => h, fun h => h hsmall⟩
  · rw [lowerAt, if_neg (capital_ne_sigma hsigma), lowerAt, if_neg fun e => hsigma (.inl e),
      lowerChar_capital hc.2 hsigma]
    exact iff_of_true rfl fun hsmall => absurd (.inr hsmall) hsigma

theorem length_lowerAt_capital {c : Char} (hc : Returns c) (before after after' : List Char) :
    (lowerAt (before.map capital) (capital c) after).length = (lowerAt before c after').length := by
  by_cases hsigma : IsSigma c
  · rw [capital_of_isSigma hsigma, length_lowerAt_of_isSigma hsigma]
    rfl
  · rw [lowerAt, if_neg (capital_ne_sigma hsigma), lowerAt, if_neg fun e => hsigma (.inl e),
      lowerChar_capital hc.2 hsigma]

theorem lowerAfter_map_capital_eq_iff {before cs : List Char} (hbefore : ∀ d ∈ before, Returns d)
    (hcs : ∀ d ∈ cs, Returns d) :
    lowerAfter (before.map capital) (cs.map capital) = lowerAfter before cs ↔
      SigmasInPlace before cs := by
  induction cs generalizing before with
  | nil => exact iff_of_true rfl fun front c after h => by simp at h
  | cons c cs ih =>
    obtain ⟨hc, hcs⟩ := List.forall_mem_cons.mp hcs
    have hat := lowerAt_capital_eq_iff hbefore hcs hc
    have hrest := ih (List.forall_mem_cons.mpr ⟨hc, hbefore⟩) hcs
    have hlength := length_lowerAt_capital hc before (cs.map capital) cs
    rw [List.map_cons, lowerAfter_cons, lowerAfter_cons, sigmasInPlace_cons, ← hat, ← hrest,
      List.map_cons]
    refine ⟨fun h => List.append_inj h hlength, fun h => ?_⟩
    rw [h.1, h.2]

/-- The small form of a text's capital form is that of the text if and only if each of its letters
comes back. -/
theorem lowerChars_upperChars_eq_iff {cs : List Char} :
    lowerChars (upperChars cs) = lowerChars cs ↔ Reversible cs := by
  have hmap (h : ∀ c ∈ cs, Returns c) : upperChars cs = cs.map capital :=
    upperChars_eq_map fun c hc => upperChar_of_returns (h c hc)
  have hbefore : ∀ d ∈ ([] : List Char), Returns d := nofun
  constructor
  · intro h
    have hreturns : ∀ c ∈ cs, Returns c := returns_of_lowerAfter_eq h
    rw [hmap hreturns] at h
    exact ⟨hreturns, (lowerAfter_map_capital_eq_iff hbefore hreturns).mp h⟩
  · intro h
    rw [hmap h.returns]
    exact (lowerAfter_map_capital_eq_iff hbefore h.returns).mpr h.sigmas

theorem reversible_padded {v w : List Char} (hv : Blank v) (hw : Blank w) {cs : List Char} :
    Reversible (v ++ cs ++ w) ↔ Reversible cs := by
  rw [← lowerChars_upperChars_eq_iff, ← lowerChars_upperChars_eq_iff, upperChars_padded hv hw,
    lowerChars_padded hv hw, lowerChars_padded hv hw, List.append_cancel_right_eq,
    List.append_cancel_left_eq]

theorem reversible_trimChars {cs : List Char} : Reversible (trimChars cs) ↔ Reversible cs := by
  obtain ⟨v, w, hv, hw, hcs⟩ := exists_padding cs
  conv_rhs => rw [hcs]
  exact (reversible_padded hv hw).symm

theorem toList_upper (s : String) : (upper s).toList = upperChars s.toList := String.toList_ofList

end Candidacy.Text
