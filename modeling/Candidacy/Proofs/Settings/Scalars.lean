import Candidacy.Proofs.Settings.Listing

/-!
# Texts and flags in a configuration

Some values that are no strings stand for a text, and some that are no truth values stand for a flag.
The checks of both are described by what is read from a value and what is wrong with it otherwise.

- `ReadsText`, `ReadsFlag`: the values that may stand for a text or a flag, and for which.
- `TextFlaw`, `FlagFlaw`: what is wrong with any other value.
-/

namespace Candidacy.Settings

/-! ## Texts -/

def utf8 (t : String) : List UInt8 := t.toUTF8.data.toList

/-- The value stands for the text: it is a string, or bytes that encode one. -/
inductive ReadsText : Value → String → Prop
  | text (t : String) : ReadsText (.text t) t
  | operator (op : Operator) : ReadsText (.operator op) op.name
  | bytes {bs : List UInt8} {t : String} : bs = utf8 t → ReadsText (.bytes bs) t

inductive TextFlaw : Value → Flaw → Prop
  | notUtf8 {bs : List UInt8} : (∀ t, bs ≠ utf8 t) → TextFlaw (.bytes bs) .notUtf8
  | notText {v : Value} : v.word? = none → (∀ bs, v ≠ .bytes bs) → TextFlaw v .notText

theorem decoded?_eq_some_iff {bs : List UInt8} {t : String} : decoded? bs = some t ↔ bs = utf8 t := by
  unfold decoded? String.fromUTF8?
  constructor
  · intro h
    split at h
    · cases h
      simp [utf8, String.fromUTF8]
    · cases h
  · rintro rfl
    have hbytes : ByteArray.mk (utf8 t).toArray = t.toByteArray := by
      simp [utf8]
    rw [dif_pos (hbytes ▸ t.isValidUTF8)]
    simp only [Option.some.injEq]
    exact String.toByteArray_inj.mp hbytes

theorem decoded?_eq_none_iff {bs : List UInt8} : decoded? bs = none ↔ ∀ t, bs ≠ utf8 t := by
  simp only [Option.eq_none_iff_forall_ne_some, ne_eq, decoded?_eq_some_iff]

theorem ReadsText.unique {v : Value} {t u : String} (ht : ReadsText v t) (hu : ReadsText v u) :
    t = u := by
  cases ht with
  | text | operator =>
    cases hu
    rfl
  | bytes ht =>
    cases hu with
    | bytes hu =>
      rw [← decoded?_eq_some_iff] at ht hu
      exact Option.some.inj (ht.symm.trans hu)

theorem ReadsText.not_flaw {v : Value} {t : String} (ht : ReadsText v t) (flaw : Flaw) :
    ¬ TextFlaw v flaw := by
  intro hflaw
  cases ht with
  | text | operator =>
    cases hflaw with
    | notText hword _ => cases hword
  | bytes ht =>
    cases hflaw with
    | notUtf8 hnone => exact hnone _ ht
    | notText _ hbytes => exact hbytes _ rfl

theorem TextFlaw.unique {v : Value} {g g' : Flaw} (h : TextFlaw v g) (h' : TextFlaw v g') :
    g = g' := by
  cases h with
  | notUtf8 =>
    cases h' with
    | notUtf8 => rfl
    | notText _ hbytes => exact (hbytes _ rfl).elim
  | notText _ hbytes =>
    cases h' with
    | notUtf8 => exact (hbytes _ rfl).elim
    | notText => rfl

theorem checkText_cases (v : Value) :
    (∃ t, ReadsText v t ∧ checkText v = ⟨t, []⟩) ∨
      ∃ t flaw, TextFlaw v flaw ∧ checkText v = ⟨t, here flaw⟩ := by
  cases v
  case text t => exact .inl ⟨t, .text t, rfl⟩
  case operator op => exact .inl ⟨op.name, .operator op, rfl⟩
  case bytes bs =>
    cases hbs : decoded? bs with
    | some t => exact .inl ⟨t, .bytes (decoded?_eq_some_iff.mp hbs), by simp only [checkText, hbs]⟩
    | none =>
      have hflaw := TextFlaw.notUtf8 (decoded?_eq_none_iff.mp hbs)
      exact .inr ⟨"", .notUtf8, hflaw, by simp only [checkText, hbs]⟩
  all_goals exact .inr ⟨"", .notText, .notText rfl nofun, rfl⟩

theorem meets_checkText (v : Value) : (checkText v).Meets (ReadsText v) (Itself (TextFlaw v)) :=
  .of_cases (fun _ _ => ReadsText.unique) (fun _ _ => TextFlaw.unique)
    (fun _ g ht => ht.not_flaw g) (checkText_cases v)

/-! ## Flags -/

def FlagWord (t : String) (b : Bool) : Prop :=
  ∃ word ∈ if b then onWords else offWords, t.toList.map Char.toLower = word.toList

/-- The value is an integer, or a number that equals one. -/
inductive WholeNumber : Value → Int → Prop
  | int (n : Int) : WholeNumber (.int n) n
  | float {x : Binary64} {n : Int} : x.toInt? = some n → WholeNumber (.float x) n

/-- The value stands for the flag: it is a truth value, or a word or a number for one. -/
inductive ReadsFlag : Value → Bool → Prop
  | bool (b : Bool) : ReadsFlag (.bool b) b
  | word {v : Value} {t : String} {b : Bool} : ReadsText v t → FlagWord t b → ReadsFlag v b
  | zero {v : Value} : WholeNumber v 0 → ReadsFlag v false
  | one {v : Value} : WholeNumber v 1 → ReadsFlag v true

/-- The value is looked at as a word, or as an integer of 64 bits at most. -/
inductive Legible : Value → Prop
  | text (t : String) : Legible (.text t)
  | operator (op : Operator) : Legible (.operator op)
  | bytes (bs : List UInt8) : Legible (.bytes bs)
  | int {n : Int} : -wordEnd ≤ n → n < wordEnd → Legible (.int n)
  | float {x : Binary64} {n : Int} : x.toInt? = some n → -wordEnd < n → n < wordEnd →
      Legible (.float x)

inductive FlagFlaw (v : Value) : Flaw → Prop
  | unreadable : (∀ b, ¬ ReadsFlag v b) → Legible v → FlagFlaw v .unreadableFlag
  | notFlag : (∀ b, ¬ ReadsFlag v b) → ¬ Legible v → FlagFlaw v .notFlag

theorem FlagWord.unique {t : String} {b b' : Bool} (h : FlagWord t b) (h' : FlagWord t b') :
    b = b' := by
  have hapart : ∀ word ∈ onWords, word ∉ offWords := by decide
  obtain ⟨w, hw, ht⟩ := h
  obtain ⟨w', hw', ht'⟩ := h'
  obtain rfl : w = w' := String.toList_inj.mp (ht.symm.trans ht')
  cases b <;> cases b'
  · rfl
  · exact (hapart w hw' hw).elim
  · exact (hapart w hw hw').elim
  · rfl

theorem WholeNumber.unique {v : Value} {m n : Int} (h : WholeNumber v m) (h' : WholeNumber v n) :
    m = n := by
  cases h with
  | int =>
    cases h'
    rfl
  | float h =>
    cases h' with
    | float h' => exact Option.some.inj (h.symm.trans h')

theorem WholeNumber.not_text {v : Value} {n : Int} (h : WholeNumber v n) (t : String) :
    ¬ ReadsText v t := by
  cases h <;> exact nofun

theorem ReadsFlag.unique {v : Value} {b b' : Bool} (h : ReadsFlag v b) (h' : ReadsFlag v b') :
    b = b' := by
  cases h with
  | bool =>
    cases h' with
    | bool => rfl
    | word ht => cases ht
    | zero hn | one hn => cases hn
  | word ht hb =>
    cases h' with
    | bool => cases ht
    | word ht' hb' => exact hb.unique (ht.unique ht' ▸ hb')
    | zero hn | one hn => exact (hn.not_text _ ht).elim
  | zero hn =>
    cases h' with
    | bool => cases hn
    | word ht => exact (hn.not_text _ ht).elim
    | zero => rfl
    | one hn' => cases hn.unique hn'
  | one hn =>
    cases h' with
    | bool => cases hn
    | word ht => exact (hn.not_text _ ht).elim
    | zero hn' => cases hn.unique hn'
    | one => rfl

theorem FlagFlaw.not_reads {v : Value} {g : Flaw} (h : FlagFlaw v g) (b : Bool) : ¬ ReadsFlag v b := by
  cases h with
  | unreadable h | notFlag h => exact h b

theorem FlagFlaw.unique {v : Value} {g g' : Flaw} (h : FlagFlaw v g) (h' : FlagFlaw v g') :
    g = g' := by
  cases h with
  | unreadable _ hv =>
    cases h' with
    | unreadable => rfl
    | notFlag _ hv' => exact (hv' hv).elim
  | notFlag _ hv =>
    cases h' with
    | unreadable _ hv' => exact (hv hv').elim
    | notFlag => rfl

theorem flagOfWord_cases (t : String) :
    (∃ b, FlagWord t b ∧ flagOfWord t = ⟨b, []⟩) ∨
      (∀ b, ¬ FlagWord t b) ∧ flagOfWord t = ⟨false, here .unreadableFlag⟩ := by
  have hword (b : Bool) : (if b then onWords else offWords).contains
      (String.ofList (t.toList.map Char.toLower)) = true ↔ FlagWord t b := by
    rw [List.contains_iff_mem]
    constructor
    · exact fun h => ⟨_, h, String.toList_ofList.symm⟩
    · rintro ⟨word, hword, ht⟩
      rw [ht, String.ofList_toList]
      exact hword
  unfold flagOfWord
  dsimp only
  split
  · rename_i h
    exact .inl ⟨true, (hword true).mp h, rfl⟩
  · rename_i hon
    split
    · rename_i h
      exact .inl ⟨false, (hword false).mp h, rfl⟩
    · rename_i hoff
      refine .inr ⟨fun b hb => ?_, rfl⟩
      cases b with
      | true => exact hon ((hword true).mpr hb)
      | false => exact hoff ((hword false).mpr hb)

theorem flag_of_text {v : Value} {t : String} (ht : ReadsText v t) (hv : Legible v)
    (hcheck : checkFlag v = flagOfWord t) :
    (∃ b, ReadsFlag v b ∧ checkFlag v = ⟨b, []⟩) ∨
      ∃ b flaw, FlagFlaw v flaw ∧ checkFlag v = ⟨b, here flaw⟩ := by
  rw [hcheck]
  rcases flagOfWord_cases t with ⟨b, hb, hflag⟩ | ⟨hnone, hflag⟩
  · exact .inl ⟨b, .word ht hb, hflag⟩
  · refine .inr ⟨false, .unreadableFlag, .unreadable (fun b hb => ?_) hv, hflag⟩
    cases hb with
    | bool => cases ht
    | word ht' hb => exact hnone b (ht.unique ht' ▸ hb)
    | zero hn | one hn => exact hn.not_text _ ht

theorem not_readsFlag_of_number {v : Value} {n : Int} (hn : WholeNumber v n) (h0 : n ≠ 0)
    (h1 : n ≠ 1) (b : Bool) : ¬ ReadsFlag v b := by
  intro hb
  cases hb with
  | bool => cases hn
  | word ht => exact hn.not_text _ ht
  | zero hn' => exact h0 (hn.unique hn')
  | one hn' => exact h1 (hn.unique hn')

theorem flag_of_number {v : Value} {n : Int} (hn : WholeNumber v n) (hv : Legible v)
    (hcheck : checkFlag v = flagOfInt n) :
    (∃ b, ReadsFlag v b ∧ checkFlag v = ⟨b, []⟩) ∨
      ∃ b flaw, FlagFlaw v flaw ∧ checkFlag v = ⟨b, here flaw⟩ := by
  rw [hcheck]
  unfold flagOfInt
  split
  · rename_i h0
    exact .inl ⟨false, .zero (h0 ▸ hn), rfl⟩
  · rename_i h0
    split
    · rename_i h1
      exact .inl ⟨true, .one (h1 ▸ hn), rfl⟩
    · rename_i h1
      exact .inr ⟨false, _, .unreadable (not_readsFlag_of_number hn h0 h1) hv, rfl⟩

theorem ne_zero_one_of_large {n : Int} (h : ¬ (-wordEnd < n ∧ n < wordEnd)) : n ≠ 0 ∧ n ≠ 1 := by
  unfold wordEnd at h
  omega

theorem checkFlag_cases (v : Value) :
    (∃ b, ReadsFlag v b ∧ checkFlag v = ⟨b, []⟩) ∨
      ∃ b flaw, FlagFlaw v flaw ∧ checkFlag v = ⟨b, here flaw⟩ := by
  cases v
  case bool b => exact .inl ⟨b, .bool b, rfl⟩
  case text t => exact flag_of_text (.text t) (.text t) rfl
  case operator op => exact flag_of_text (.operator op) (.operator op) rfl
  case bytes bs =>
    cases hbs : decoded? bs with
    | some t =>
      refine flag_of_text (.bytes (decoded?_eq_some_iff.mp hbs)) (.bytes bs) ?_
      simp only [checkFlag, hbs]
    | none =>
      have hnone := decoded?_eq_none_iff.mp hbs
      refine .inr ⟨false, _, .unreadable (fun b hb => ?_) (.bytes bs), by simp only [checkFlag, hbs]⟩
      cases hb with
      | word ht =>
        cases ht with
        | bytes ht => exact hnone _ ht
      | zero hn | one hn => cases hn
  case int n =>
    by_cases hfits : fitsWord n = true
    · have hrange : -wordEnd ≤ n ∧ n < wordEnd := by simpa [fitsWord] using hfits
      refine flag_of_number (.int n) (.int hrange.1 hrange.2) ?_
      simp only [checkFlag, if_pos hfits]
    · have hrange : ¬ (-wordEnd ≤ n ∧ n < wordEnd) := by simpa [fitsWord] using hfits
      obtain ⟨h0, h1⟩ := ne_zero_one_of_large fun h => hrange ⟨Int.le_of_lt h.1, h.2⟩
      refine .inr ⟨false, .notFlag, .notFlag (not_readsFlag_of_number (.int n) h0 h1) ?_,
        by simp only [checkFlag, if_neg hfits]⟩
      rintro (_ | _ | _ | ⟨hlo, hhi⟩)
      exact hrange ⟨hlo, hhi⟩
  case float x =>
    cases hx : x.toInt? with
    | none =>
      refine .inr ⟨false, .notFlag, .notFlag (fun b hb => ?_) ?_, by simp only [checkFlag, hx]⟩
      · cases hb with
        | word ht => cases ht
        | zero hn | one hn =>
          cases hn with
          | float h => rw [hx] at h; cases h
      · rintro (_ | _ | _ | _ | ⟨h, -, -⟩)
        rw [hx] at h
        cases h
    | some n =>
      by_cases hrange : -wordEnd < n ∧ n < wordEnd
      · refine flag_of_number (.float hx) (.float hx hrange.1 hrange.2) ?_
        simp only [checkFlag, hx, if_pos hrange]
      · obtain ⟨h0, h1⟩ := ne_zero_one_of_large hrange
        refine .inr ⟨false, .notFlag, .notFlag (not_readsFlag_of_number (.float hx) h0 h1) ?_,
          by simp only [checkFlag, hx, if_neg hrange]⟩
        rintro (_ | _ | _ | _ | ⟨h, hlo, hhi⟩)
        rw [hx] at h
        cases h
        exact hrange ⟨hlo, hhi⟩
  all_goals
    refine .inr ⟨false, .notFlag, .notFlag (fun b hb => ?_) nofun, rfl⟩
    cases hb with
    | word ht => cases ht
    | zero hn | one hn => cases hn

theorem meets_checkFlag (v : Value) : (checkFlag v).Meets (ReadsFlag v) (Itself (FlagFlaw v)) :=
  .of_cases (fun _ _ => ReadsFlag.unique) (fun _ _ => FlagFlaw.unique)
    (fun b _ hb hg => hg.not_reads b hb) (checkFlag_cases v)

end Candidacy.Settings
