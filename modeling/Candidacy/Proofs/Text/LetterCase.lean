import Candidacy.Text.LetterCase
import Candidacy.Proofs.Text.Blank

/-!
# Small letters stay small

The conversion to small letters is settled after one pass, and it neither makes nor removes white
space. Both come down to the table of capitals: `Run.settles` and `Run.misses` compare one run with
another, or with a span, by their bounds, so that all code points are covered by a check of pairs.

- `IsSmall`: a character that the conversion leaves alone wherever it stands.
- `lowerChars_eq_self_iff`: a text is its own small form if and only if all of it is small.
- `Trimmed.lowerChars`: the small form of a trimmed text is trimmed.
-/

namespace Candidacy.Text

/-! ## Runs against runs and spans -/

namespace Run

/-- Whether no code point that `r` moves lands where `q` would move it again. -/
def settles (r q : Run) : Bool :=
  let lo := (r.first + r.shift).toNat
  let hi := (r.last + r.shift).toNat
  Nat.blt hi q.first || Nat.blt q.last lo ||
    (decide (0 ≤ r.first + r.shift) && q.step == 2 && (r.step == 2 || r.first == r.last) &&
      (lo + q.first) % 2 == 1)

/-- Whether no code point of the span is moved by `r` or the goal of one that is. -/
def misses (r : Run) (s : Span) : Bool :=
  (Nat.blt r.last s.first || Nat.blt s.last r.first) &&
    (Nat.blt (r.last + r.shift).toNat s.first || Nat.blt s.last (r.first + r.shift).toNat)

theorem moves_iff {r : Run} {n : Nat} :
    r.moves n = true ↔ r.first ≤ n ∧ n ≤ r.last ∧ (n - r.first) % r.step = 0 := by
  simp [moves, and_assoc]

/-- A code point that was moved has come to rest: it lies beside `q`, or between its steps. -/
theorem moves_eq_false_of_settles {r q : Run} (h : r.settles q = true) {n : Nat}
    (hn : r.moves n = true) : q.moves (n + r.shift).toNat = false := by
  rw [moves_iff] at hn
  obtain ⟨hlo, hhi, hstep⟩ := hn
  rw [Bool.eq_false_iff, ne_eq, moves_iff]
  rintro ⟨hqlo, hqhi, hqstep⟩
  simp only [settles, Bool.or_eq_true, Bool.and_eq_true, Nat.blt_eq, decide_eq_true_eq,
    beq_iff_eq] at h
  rcases h with (h | h) | ⟨⟨⟨h0, hq⟩, hr⟩, hodd⟩
  · omega
  · omega
  · rw [hq] at hqstep
    rcases hr with hr | hr
    · rw [hr] at hstep
      omega
    · omega

theorem not_moves_of_misses {r : Run} {s : Span} (h : r.misses s = true) {n : Nat}
    (hn : s.has n = true) : r.moves n = false := by
  rw [Span.has_iff] at hn
  rw [Bool.eq_false_iff, ne_eq, moves_iff]
  rintro ⟨hlo, hhi, -⟩
  simp only [misses, Bool.or_eq_true, Bool.and_eq_true, Nat.blt_eq] at h
  omega

theorem has_eq_false_of_misses {r : Run} {s : Span} (h : r.misses s = true) {n : Nat}
    (hn : r.moves n = true) : s.has (n + r.shift).toNat = false := by
  rw [moves_iff] at hn
  rw [Bool.eq_false_iff, ne_eq, Span.has_iff]
  rintro ⟨hlo, hhi⟩
  simp only [misses, Bool.or_eq_true, Bool.and_eq_true, Nat.blt_eq] at h
  omega

/-- The image of a code point: the goal of the first run that moves it, or itself. -/
theorem image_cases (rs : List Run) (n : Nat) :
    (∃ r ∈ rs, r.moves n = true ∧ image rs n = (n + r.shift).toNat) ∨
      image rs n = n ∧ ∀ r ∈ rs, r.moves n = false := by
  induction rs with
  | nil => exact .inr ⟨rfl, fun _ h => by cases h⟩
  | cons r rs ih =>
    cases hr : r.moves n with
    | true => exact .inl ⟨r, List.mem_cons_self, hr, by simp [image, hr]⟩
    | false =>
      rcases ih with ⟨q, hq, hm, hi⟩ | ⟨hi, hall⟩
      · exact .inl ⟨q, List.mem_cons_of_mem _ hq, hm, by simp [image, hr, hi]⟩
      · refine .inr ⟨by simp [image, hr, hi], fun q hq => ?_⟩
        rcases List.mem_cons.mp hq with rfl | hq
        · exact hr
        · exact hall q hq

end Run

/-! ## Single characters -/

/-- The runs of all characters with a small form of their own, the dotted capital I included. -/
def capitalRuns : List Run := ⟨0x130, 0x130, 1, 0⟩ :: lowerRuns

theorem lowerRuns_settle : (lowerRuns.all fun r => capitalRuns.all (r.settles ·)) = true := by
  decide +kernel

theorem capitalRuns_miss_blanks :
    (capitalRuns.all fun r => blankSpans.all (r.misses ·)) = true := by
  decide +kernel

def IsSmall (c : Char) : Prop := lowerChar c = [c] ∧ c ≠ '\u03A3'

theorem moves_of_eq_dotted {c : Char} (h : c = '\u0130') :
    (⟨0x130, 0x130, 1, 0⟩ : Run).moves c.toNat = true := by
  subst h
  decide

theorem ne_dotted {c : Char} (h : ∀ r ∈ capitalRuns, r.moves c.toNat = false) : c ≠ '\u0130' := by
  intro e
  have hm := h _ List.mem_cons_self
  rw [moves_of_eq_dotted e] at hm
  cases hm

theorem lowerChar_eq_self {c : Char} (h : ∀ r ∈ capitalRuns, r.moves c.toNat = false) :
    lowerChar c = [c] := by
  have hlower : ∀ r ∈ lowerRuns, r.moves c.toNat = false :=
    fun r hr => h r (List.mem_cons_of_mem _ hr)
  rw [lowerChar, if_neg (ne_dotted h), Run.image_eq_self hlower, Char.ofNat_toNat]

theorem isSmall_of_not_moves {c : Char} (h : ∀ r ∈ capitalRuns, r.moves c.toNat = false) :
    IsSmall c := by
  refine ⟨lowerChar_eq_self h, ?_⟩
  rintro rfl
  revert h
  decide

/-- What stands in the small form of a character: one of the two characters for a dotted capital I,
the null character, the goal of a run, or the character itself because no run moves it. -/
theorem lowerChar_cases {c d : Char} (h : d ∈ lowerChar c) :
    d = 'i' ∨ d = '\u0307' ∨ d = '\u0000' ∨
      (∃ r ∈ lowerRuns, r.moves c.toNat = true ∧ d.toNat = (c.toNat + r.shift).toNat) ∨
      d = c ∧ ∀ r ∈ capitalRuns, r.moves c.toNat = false := by
  unfold lowerChar at h
  split at h
  · simp only [List.mem_cons, List.not_mem_nil, or_false] at h
    rcases h with h | h
    · exact .inl h
    · exact .inr (.inl h)
  · rename_i hc
    rw [List.mem_singleton] at h
    rcases Run.image_cases lowerRuns c.toNat with ⟨r, hr, hm, hi⟩ | ⟨hi, hall⟩
    · rw [hi] at h
      by_cases hv : (c.toNat + r.shift).toNat.isValidChar
      · refine .inr (.inr (.inr (.inl ⟨r, hr, hm, ?_⟩)))
        rw [h, Char.ofNat, dif_pos hv]
        rfl
      · refine .inr (.inr (.inl ?_))
        rw [h, Char.ofNat, dif_neg hv]
        rfl
    · rw [hi, Char.ofNat_toNat] at h
      refine .inr (.inr (.inr (.inr ⟨h, fun r hr => ?_⟩)))
      rcases List.mem_cons.mp hr with rfl | hr
      · rw [Bool.eq_false_iff, ne_eq, Run.moves_iff]
        rintro ⟨hlo, hhi, -⟩
        exact hc (Char.toNat_inj.mp (Nat.le_antisymm hhi hlo))
      · exact hall r hr

theorem isSmall_of_mem_lowerChar {c d : Char} (h : d ∈ lowerChar c) : IsSmall d := by
  rcases lowerChar_cases h with rfl | rfl | rfl | ⟨r, hr, hm, hd⟩ | ⟨rfl, hall⟩
  · exact ⟨by decide, by decide⟩
  · exact ⟨by decide, by decide⟩
  · exact ⟨by decide, by decide⟩
  · refine isSmall_of_not_moves fun q hq => ?_
    have hs := List.all_eq_true.mp (List.all_eq_true.mp lowerRuns_settle r hr) q hq
    rw [hd]
    exact Run.moves_eq_false_of_settles hs hm
  · exact isSmall_of_not_moves hall

theorem isBlank_eq_true_iff {c : Char} :
    isBlank c = true ↔ ∃ s ∈ blankSpans, s.has c.toNat = true := by
  simp only [isBlank, Span.anyHas, List.any_eq_true]

theorem isBlank_of_mem_lowerChar {c d : Char} (hc : isBlank c = false) (h : d ∈ lowerChar c) :
    isBlank d = false := by
  rcases lowerChar_cases h with rfl | rfl | rfl | ⟨r, hr, hm, hd⟩ | ⟨rfl, -⟩
  · decide
  · decide
  · decide
  · rw [Bool.eq_false_iff, ne_eq, isBlank_eq_true_iff]
    rintro ⟨s, hs, hb⟩
    have hmiss := List.all_eq_true.mp
      (List.all_eq_true.mp capitalRuns_miss_blanks r (List.mem_cons_of_mem _ hr)) s hs
    rw [hd, Run.has_eq_false_of_misses hmiss hm] at hb
    cases hb
  · exact hc

theorem capitalRuns_ascii :
    (capitalRuns.all fun r => Nat.blt 0x7A r.first || Nat.ble 0x41 r.first && Nat.ble r.last 0x5A) =
      true := by
  decide +kernel

theorem isSmall_of_ascii {c : Char} (h : c.toNat ≤ 0x7A)
    (hcapital : ¬ (0x41 ≤ c.toNat ∧ c.toNat ≤ 0x5A)) : IsSmall c := by
  refine isSmall_of_not_moves fun r hr => ?_
  have hrange := List.all_eq_true.mp capitalRuns_ascii r hr
  simp only [Bool.or_eq_true, Bool.and_eq_true, Nat.blt_eq, Nat.ble_eq] at hrange
  rw [Bool.eq_false_iff, ne_eq, Run.moves_iff]
  omega

theorem IsSmall.not_capital {c : Char} (h : IsSmall c) : ¬ (0x41 ≤ c.toNat ∧ c.toNat ≤ 0x5A) := by
  rintro ⟨hlo, hhi⟩
  have hall : ∀ k < 26, lowerChar (Char.ofNat (0x41 + k)) ≠ [Char.ofNat (0x41 + k)] := by decide
  have hc : Char.ofNat (0x41 + (c.toNat - 0x41)) = c := by
    rw [show 0x41 + (c.toNat - 0x41) = c.toNat by omega, Char.ofNat_toNat]
  have hk := hall (c.toNat - 0x41) (by omega)
  rw [hc] at hk
  exact hk h.1

theorem lowerChar_ne_nil (c : Char) : lowerChar c ≠ [] := by
  unfold lowerChar
  split <;> simp

/-! ## Texts -/

/-- What a character becomes after `before` and in front of `after`. -/
def lowerAt (before : List Char) (c : Char) (after : List Char) : List Char :=
  if c = '\u03A3' then [lowerSigma before after] else lowerChar c

theorem lowerAfter_cons (before : List Char) (c : Char) (cs : List Char) :
    lowerAfter before (c :: cs) = lowerAt before c cs ++ lowerAfter (c :: before) cs := rfl

theorem lowerSigma_cases (before after : List Char) :
    lowerSigma before after = '\u03C2' ∨ lowerSigma before after = '\u03C3' := by
  unfold lowerSigma
  split
  · exact .inl rfl
  · exact .inr rfl

theorem lowerAt_ne_nil (before : List Char) (c : Char) (after : List Char) :
    lowerAt before c after ≠ [] := by
  unfold lowerAt
  split
  · simp
  · exact lowerChar_ne_nil c

theorem isSmall_of_mem_lowerAt {before after : List Char} {c d : Char}
    (h : d ∈ lowerAt before c after) : IsSmall d := by
  unfold lowerAt at h
  split at h
  · rw [List.mem_singleton] at h
    rcases lowerSigma_cases before after with hs | hs
    · rw [h, hs]
      exact ⟨by decide, by decide⟩
    · rw [h, hs]
      exact ⟨by decide, by decide⟩
  · exact isSmall_of_mem_lowerChar h

theorem isBlank_of_mem_lowerAt {before after : List Char} {c d : Char} (hc : isBlank c = false)
    (h : d ∈ lowerAt before c after) : isBlank d = false := by
  unfold lowerAt at h
  split at h
  · rw [List.mem_singleton] at h
    rcases lowerSigma_cases before after with hs | hs
    · rw [h, hs]
      decide
    · rw [h, hs]
      decide
  · exact isBlank_of_mem_lowerChar hc h

theorem lowerAfter_eq_nil_iff {before cs : List Char} : lowerAfter before cs = [] ↔ cs = [] := by
  cases cs with
  | nil => simp [lowerAfter]
  | cons c cs => simp [lowerAfter_cons, lowerAt_ne_nil]

theorem isSmall_of_mem_lowerAfter {before cs : List Char} {d : Char}
    (h : d ∈ lowerAfter before cs) : IsSmall d := by
  induction cs generalizing before with
  | nil => cases h
  | cons c cs ih =>
    rw [lowerAfter_cons, List.mem_append] at h
    rcases h with h | h
    · exact isSmall_of_mem_lowerAt h
    · exact ih h

theorem lowerAfter_of_small {before cs : List Char} (h : ∀ c ∈ cs, IsSmall c) :
    lowerAfter before cs = cs := by
  induction cs generalizing before with
  | nil => rfl
  | cons c cs ih =>
    have hc := h c List.mem_cons_self
    rw [lowerAfter_cons, lowerAt, if_neg hc.2, hc.1, ih fun d hd => h d (List.mem_cons_of_mem _ hd)]
    rfl

/-- A text is its own small form if and only if all of it is small. -/
theorem lowerChars_eq_self_iff {cs : List Char} : lowerChars cs = cs ↔ ∀ c ∈ cs, IsSmall c := by
  refine ⟨fun h c hc => ?_, lowerAfter_of_small⟩
  rw [← h] at hc
  exact isSmall_of_mem_lowerAfter hc

theorem isBlank_head?_lowerAfter {before cs : List Char}
    (h : ∀ c ∈ cs.head?, isBlank c = false) :
    ∀ c ∈ (lowerAfter before cs).head?, isBlank c = false := by
  cases cs with
  | nil => exact fun c hc => by cases hc
  | cons c cs =>
    intro d hd
    rw [lowerAfter_cons, List.head?_append_of_ne_nil _ (lowerAt_ne_nil before c cs)] at hd
    exact isBlank_of_mem_lowerAt (h c rfl) (List.mem_of_head? hd)

theorem isBlank_getLast?_lowerAfter {before cs : List Char}
    (h : ∀ c ∈ cs.getLast?, isBlank c = false) :
    ∀ c ∈ (lowerAfter before cs).getLast?, isBlank c = false := by
  induction cs generalizing before with
  | nil => exact fun c hc => by cases hc
  | cons c cs ih =>
    intro d hd
    rw [lowerAfter_cons] at hd
    cases cs with
    | nil =>
      rw [lowerAfter, List.append_nil] at hd
      exact isBlank_of_mem_lowerAt (h c rfl) (List.mem_of_getLast? hd)
    | cons e es =>
      have hne : lowerAfter (c :: before) (e :: es) ≠ [] := by simp [lowerAfter_eq_nil_iff]
      rw [List.getLast?_append_of_ne_nil _ hne] at hd
      exact ih (by simpa using h) d hd

theorem Trimmed.lowerChars {cs : List Char} (h : Trimmed cs) : Trimmed (Text.lowerChars cs) :=
  ⟨isBlank_head?_lowerAfter h.1, isBlank_getLast?_lowerAfter h.2⟩

theorem toList_lower (s : String) : (lower s).toList = lowerChars s.toList := String.toList_ofList

theorem lower_eq_self_iff {s : String} : lower s = s ↔ ∀ c ∈ s.toList, IsSmall c := by
  rw [← lowerChars_eq_self_iff, ← toList_lower, String.toList_inj]

/-! ## Capitals -/

theorem ascii_of_toUpper {c : Char} (h : c.toUpper.toNat < 0x80) : c.toNat < 0x80 := by
  unfold Char.toUpper at h
  split at h
  · rename_i hsmall
    have hlast : c.toNat ≤ 0x7A := UInt32.le_iff_toNat_le.mp hsmall.2
    omega
  · exact h

theorem upperChars_eq_map {f : Char → Char} {cs : List Char} (h : ∀ c ∈ cs, upperChar c = [f c]) :
    upperChars cs = cs.map f := by
  induction cs with
  | nil => rfl
  | cons c cs ih =>
    obtain ⟨hc, hcs⟩ := List.forall_mem_cons.mp h
    rw [upperChars, List.flatMap_cons, ← upperChars, hc, ih hcs]
    rfl

end Candidacy.Text
