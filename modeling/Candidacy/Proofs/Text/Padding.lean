import Candidacy.Proofs.Text.LetterCase

/-!
# White space around a text

White space at the ends of a text bears neither on its trimmed form nor on its small form. Trimming
looks for the outermost character that is none, and a capital sigma is at the end of a word before
white space as it is before nothing at all: white space has no case and is not looked through.

- `Blank`: a text that is all white space.
- `trimChars_padded`, `lowerChars_padded`: white space around a text is taken off, or kept as it is.
- `trim_lower`: it is all the same which of the two conversions comes first.
-/

namespace Candidacy.Text

def Blank (cs : List Char) : Prop := ∀ c ∈ cs, isBlank c = true

theorem Blank.append {v w : List Char} (hv : Blank v) (hw : Blank w) : Blank (v ++ w) :=
  List.forall_mem_append.mpr ⟨hv, hw⟩

/-! ## Trimming -/

theorem trimStart_blank_append {v : List Char} (hv : Blank v) (cs : List Char) :
    trimStart (v ++ cs) = trimStart cs :=
  List.dropWhile_append_of_pos hv

theorem trimEnd_append_blank {w : List Char} (hw : Blank w) (cs : List Char) :
    trimEnd (cs ++ w) = trimEnd cs := by
  unfold trimEnd
  rw [List.reverse_append, List.dropWhile_append_of_pos fun c hc => hw c (List.mem_reverse.mp hc)]

theorem trimChars_padded {v m w : List Char} (hv : Blank v) (hm : Trimmed m) (hw : Blank w) :
    trimChars (v ++ m ++ w) = m := by
  rw [trimChars, List.append_assoc, trimStart_blank_append hv]
  cases m with
  | nil =>
    have hnil : trimStart w = [] := List.dropWhile_eq_nil_iff.mpr hw
    rw [List.nil_append, hnil]
    rfl
  | cons c cs =>
    have hstart : trimStart (c :: cs ++ w) = c :: cs ++ w := trimStart_eq_self hm.1
    rw [hstart, trimEnd_append_blank hw, trimEnd_eq_self hm.2]

theorem exists_padding (cs : List Char) :
    ∃ v w, Blank v ∧ Blank w ∧ cs = v ++ trimChars cs ++ w := by
  obtain ⟨w, hsplit, hw⟩ := trimEnd_append_blanks (trimStart cs)
  refine ⟨cs.takeWhile isBlank, w, fun c hc => List.mem_takeWhile_imp hc, hw, ?_⟩
  rw [List.append_assoc, trimChars, ← hsplit]
  exact List.takeWhile_append_dropWhile.symm

theorem trimChars_blank_around {v w : List Char} (hv : Blank v) (hw : Blank w) (cs : List Char) :
    trimChars (v ++ cs ++ w) = trimChars cs := by
  obtain ⟨v', w', hv', hw', hcs⟩ := exists_padding cs
  have hall : v ++ cs ++ w = (v ++ v') ++ trimChars cs ++ (w' ++ w) := by
    conv_lhs => rw [hcs]
    simp only [List.append_assoc]
  rw [hall, trimChars_padded (hv.append hv') (trimmed_trimChars cs) (hw'.append hw)]

theorem trimChars_eq_nil_iff {cs : List Char} : trimChars cs = [] ↔ Blank cs := by
  constructor
  · intro h
    obtain ⟨v, w, hv, hw, hcs⟩ := exists_padding cs
    rw [hcs, h, List.append_nil]
    exact hv.append hw
  · intro h
    have hnil : Trimmed [] := ⟨nofun, nofun⟩
    simpa using trimChars_padded h hnil (w := []) nofun

theorem trim_eq_empty_iff {s : String} : trim s = "" ↔ Blank s.toList := by
  rw [← String.toList_inj, toList_trim, String.toList_empty, trimChars_eq_nil_iff]

/-! ## Small letters -/

def Span.apart (s t : Span) : Bool := Nat.blt s.last t.first || Nat.blt t.last s.first

theorem Span.has_eq_false_of_apart {s t : Span} (h : s.apart t = true) {n : Nat}
    (hn : s.has n = true) : t.has n = false := by
  rw [has_iff] at hn
  rw [Bool.eq_false_iff, ne_eq, has_iff]
  simp only [apart, Bool.or_eq_true, Nat.blt_eq] at h
  omega

theorem blanks_apart_from_words :
    (blankSpans.all fun s => (ignorableSpans ++ casedSpans).all (s.apart ·)) = true := by
  decide +kernel

theorem word_of_isBlank {c : Char} (hc : isBlank c = true) :
    isIgnorable c = false ∧ isCased c = false := by
  obtain ⟨s, hs, hcs⟩ := isBlank_eq_true_iff.mp hc
  have hapart := List.all_eq_true.mp (List.all_eq_true.mp blanks_apart_from_words s hs)
  have hnone (t : Span) (ht : t ∈ ignorableSpans ++ casedSpans) : t.has c.toNat = false :=
    Span.has_eq_false_of_apart (hapart t ht) hcs
  constructor
  · simp only [isIgnorable, Span.anyHas, List.any_eq_false, Bool.not_eq_true]
    exact fun t ht => hnone t (List.mem_append_left _ ht)
  · simp only [isCased, Span.anyHas, List.any_eq_false, Bool.not_eq_true]
    exact fun t ht => hnone t (List.mem_append_right _ ht)

theorem isSmall_of_isBlank {c : Char} (hc : isBlank c = true) : IsSmall c := by
  obtain ⟨s, hs, hcs⟩ := isBlank_eq_true_iff.mp hc
  refine isSmall_of_not_moves fun r hr => ?_
  have hmiss := List.all_eq_true.mp (List.all_eq_true.mp capitalRuns_miss_blanks r hr) s hs
  exact Run.not_moves_of_misses hmiss hcs

/-- White space behind a text ends a word like the end of the text does. -/
theorem meetsCased_append_blank {w : List Char} (hw : Blank w) (cs : List Char) :
    meetsCased (cs ++ w) = meetsCased cs := by
  induction cs with
  | nil =>
    cases w with
    | nil => rfl
    | cons b w =>
      obtain ⟨hignorable, hcased⟩ := word_of_isBlank (hw b List.mem_cons_self)
      simp [meetsCased, hignorable, hcased]
  | cons c cs ih => simp only [List.cons_append, meetsCased, ih]

/-- What stands before a text matters for its small form only as far as a sigma looks back. -/
theorem lowerAfter_congr {before before' : List Char} (h : meetsCased before = meetsCased before')
    (cs : List Char) : lowerAfter before cs = lowerAfter before' cs := by
  induction cs generalizing before before' with
  | nil => rfl
  | cons c cs ih =>
    have hnext : meetsCased (c :: before) = meetsCased (c :: before') := by
      simp only [meetsCased, h]
    simp only [lowerAfter_cons, lowerAt, lowerSigma, h, ih hnext]

theorem lowerAfter_append_blank {w : List Char} (hw : Blank w) (before cs : List Char) :
    lowerAfter before (cs ++ w) = lowerAfter before cs ++ w := by
  induction cs generalizing before with
  | nil => exact lowerAfter_of_small fun c hc => isSmall_of_isBlank (hw c hc)
  | cons c cs ih =>
    have hat : lowerAt before c (cs ++ w) = lowerAt before c cs := by
      simp only [lowerAt, lowerSigma, meetsCased_append_blank hw]
    rw [List.cons_append, lowerAfter_cons, lowerAfter_cons, hat, ih, List.append_assoc]

theorem lowerAfter_blank_append {v : List Char} (hv : Blank v) (before cs : List Char) :
    lowerAfter before (v ++ cs) = v ++ lowerAfter (v.reverse ++ before) cs := by
  induction v generalizing before with
  | nil => rfl
  | cons b v ih =>
    obtain ⟨hb, hv⟩ := List.forall_mem_cons.mp hv
    have hsmall : IsSmall b := isSmall_of_isBlank hb
    rw [List.cons_append, lowerAfter_cons, lowerAt, if_neg hsmall.2, hsmall.1, ih hv,
      List.reverse_cons, List.append_assoc]
    rfl

/-- The small form of a text with white space around it has the same white space around it. -/
theorem lowerChars_padded {v w : List Char} (hv : Blank v) (hw : Blank w) (cs : List Char) :
    lowerChars (v ++ cs ++ w) = v ++ lowerChars cs ++ w := by
  have hback : meetsCased (v.reverse ++ []) = meetsCased [] := by
    have hreverse : Blank v.reverse := fun c hc => hv c (List.mem_reverse.mp hc)
    simpa using meetsCased_append_blank hreverse []
  rw [lowerChars, lowerAfter_append_blank hw, lowerAfter_blank_append hv, lowerAfter_congr hback]
  rfl

theorem trimChars_lowerChars (cs : List Char) :
    trimChars (lowerChars cs) = lowerChars (trimChars cs) := by
  obtain ⟨v, w, hv, hw, hcs⟩ := exists_padding cs
  have hlower : lowerChars cs = v ++ lowerChars (trimChars cs) ++ w := by
    conv_lhs => rw [hcs]
    exact lowerChars_padded hv hw _
  rw [hlower, trimChars_padded hv (trimmed_trimChars cs).lowerChars hw]

theorem trim_lower (s : String) : trim (lower s) = lower (trim s) := by
  rw [← String.toList_inj, toList_trim, toList_lower, toList_lower, toList_trim,
    trimChars_lowerChars]

theorem lower_lower (s : String) : lower (lower s) = lower s := by
  rw [lower_eq_self_iff, toList_lower]
  exact fun c hc => isSmall_of_mem_lowerAfter hc

end Candidacy.Text
