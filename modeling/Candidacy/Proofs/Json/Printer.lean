import Candidacy.Json.Printer
import Candidacy.Proofs.Json.Grammar
import Candidacy.Proofs.Number.Decimal
import Mathlib.Data.Nat.Digits.Defs
import Mathlib.Tactic.IntervalCases
import Mathlib.Tactic.SplitIfs

/-!
# The JSON that is printed

The layout over several lines is a document that stands for the value laid out. Only a decimal without
digits behind the point would come back as another number (`Exact`).

- `spells_written`: a text with its escapes spells the text.
- `number_writtenInt`, `number_writtenDecimal`: numbers keep all their digits.
- `stands_indentedAt`: values, by induction on the value.
- `document_indented`: whole documents.
-/

namespace Candidacy.Json

open Decimal (zeroPadded zeroPadded_of_lt length_zeroPadded)
open Text (isDigit number hexDigits hexNumber?)

/-! ## Texts -/

theorem hexNumber?_hexDigits : ∀ n < 0x20, hexNumber? (hexDigits 4 n) = some n := by decide

/-- A character has an escape of one letter, is a control character, or stands for itself. -/
theorem writtenChar_cases (c : Char) :
    (∃ e, shortEscape? e = some c ∧ writtenChar false c = ['\\', e]) ∨
    (c.toNat < 0x20 ∧ writtenChar false c = unitEscape c.toNat) ∨
    (0x20 ≤ c.toNat ∧ c ≠ '"' ∧ c ≠ '\\' ∧ writtenChar false c = [c]) := by
  unfold writtenChar
  split_ifs with hself hfeed hreturn htab hform hback hcontrol
  · refine .inl ⟨c, ?_, rfl⟩
    rcases hself with rfl | rfl <;> rfl
  · exact .inl ⟨'n', hfeed ▸ rfl, rfl⟩
  · exact .inl ⟨'r', hreturn ▸ rfl, rfl⟩
  · exact .inl ⟨'t', htab ▸ rfl, rfl⟩
  · exact .inl ⟨'f', hform ▸ rfl, rfl⟩
  · exact .inl ⟨'b', hback ▸ rfl, rfl⟩
  · have hcode : c.toNat < 0x20 := by simpa using hcontrol
    exact .inr (.inl ⟨hcode, if_pos (by omega)⟩)
  · have hcode : 0x20 ≤ c.toNat := by simpa using hcontrol
    obtain ⟨hquote, hslash⟩ := not_or.mp hself
    exact .inr (.inr ⟨hcode, hquote, hslash, rfl⟩)

theorem spells_writtenChar (c : Char) {cs s : List Char} (h : Spells cs s) :
    Spells (writtenChar false c ++ cs) (c :: s) := by
  rcases writtenChar_cases c with ⟨e, he, hc⟩ | ⟨hcode, hc⟩ | ⟨hcode, hquote, hslash, hc⟩
  · rw [hc]
    exact .short he h
  · have hhigh : isHigh c.toNat = false := by simp [isHigh]; omega
    have hlow : isLow c.toNat = false := by simp [isLow]; omega
    have hunit := Spells.unit (hexNumber?_hexDigits c.toNat hcode) hhigh hlow h
    rw [Char.ofNat_toNat] at hunit
    rw [hc]
    exact hunit
  · rw [hc]
    exact .char hcode hquote hslash h

theorem spells_written (cs : List Char) : Spells (cs.flatMap (writtenChar false)) cs := by
  induction cs with
  | nil => exact .nil
  | cons c cs ih => exact spells_writtenChar c ih

theorem stands_writtenText (s : String) : Stands (writtenText false s) (.text s) := by
  have h := Stands.text (spells_written s.toList)
  rw [String.ofList_toList] at h
  exact h

/-! ## Numbers -/

theorem digits_decimal (n : Nat) : Digits (Text.decimal n) where
  ne_nil := Nat.toDigits_ne_nil
  isDigit _ hc := Nat.isDigit_of_mem_toDigits (by decide) (by decide) hc

theorem number_decimal (n : Nat) : number (Text.decimal n) = n := Nat.ofDigitChars_ten_toDigits

theorem number_zeros_append (k : Nat) (ds : List Char) :
    number (List.replicate k '0' ++ ds) = number ds := by
  induction k with
  | zero => rfl
  | succ k ih =>
    rw [List.replicate_succ, List.cons_append, ← ih]
    rfl

/-- The digits of a positive number begin with no zero, by induction on the number. -/
theorem decimal_head (n : Nat) (hn : 0 < n) : ∃ d ds, Text.decimal n = d :: ds ∧ d ≠ '0' := by
  induction n using Nat.strongRecOn with
  | ind n ih =>
    by_cases hlow : n < 10
    · refine ⟨n.digitChar, [], Nat.toDigits_of_lt_base hlow, ?_⟩
      interval_cases n <;> decide
    · obtain ⟨d, ds, hds, hd⟩ := ih (n / 10) (by omega) (by omega)
      refine ⟨d, ds ++ [(n % 10).digitChar], ?_, hd⟩
      rw [Text.decimal, Nat.toDigits_of_base_le (by decide) (by omega), ← Text.decimal, hds]
      rfl

theorem whole_decimal (n : Nat) : Whole (Text.decimal n) := by
  by_cases hn : n = 0
  · subst hn
    exact .zero
  · obtain ⟨d, ds, hds, hd⟩ := decimal_head n (by omega)
    have h := digits_decimal n
    rw [hds] at h ⊢
    exact .digits hd h

theorem number_of_unsigned {negative : Bool} {cs : List Char} {j : Json}
    (h : Unsigned negative cs j) : Number (if negative then '-' :: cs else cs) j := by
  cases negative with
  | true => exact .minus h
  | false => exact .plain h

theorem number_writtenInt (n : Int) : Number (writtenInt n) (.integer n) := by
  have hvalue : signed (decide (n < 0)) (Text.decimal n.natAbs) = n := by
    simp only [signed, number_decimal, decide_eq_true_eq]
    omega
  have hunsigned : Unsigned (decide (n < 0)) (Text.decimal n.natAbs) (.integer _) :=
    .integer (whole_decimal n.natAbs)
  have hnumber := number_of_unsigned hunsigned
  simp only [hvalue, decide_eq_true_eq] at hnumber
  exact hnumber

theorem Whole.take {ds : List Char} (h : Whole ds) {k : Nat} (hk : 0 < k) : Whole (ds.take k) := by
  obtain ⟨k, rfl⟩ : ∃ m, k = m + 1 := ⟨k - 1, by omega⟩
  cases h with
  | zero =>
    rw [List.take_succ_cons, List.take_nil]
    exact .zero
  | @digits d ds hd h =>
    refine .digits hd ⟨List.cons_ne_nil _ _, fun c hc => h.isDigit c ?_⟩
    rw [← List.take_succ_cons] at hc
    exact List.mem_of_mem_take hc

theorem digits_zeroPadded (places : Nat) {ds : List Char} (h : Digits ds) :
    Digits (zeroPadded places ds) where
  ne_nil := by simp [zeroPadded, h.ne_nil]
  isDigit c hc := by
    rcases List.mem_append.mp hc with hc | hc
    · rw [List.eq_of_mem_replicate hc]
      rfl
    · exact h.isDigit c hc

/-- What stands before the point is a zero, or begins as the digits do. -/
theorem whole_take_zeroPadded (places : Nat) {ds : List Char} (h : Whole ds) :
    Whole ((zeroPadded places ds).take ((zeroPadded places ds).length - places)) := by
  by_cases hshort : places < ds.length
  · rw [zeroPadded_of_lt hshort]
    exact h.take (by omega)
  · have hone : (zeroPadded places ds).length - places = 1 := by
      rw [length_zeroPadded]
      omega
    obtain ⟨k, hk⟩ : ∃ k, places + 1 - ds.length = k + 1 := ⟨places - ds.length, by omega⟩
    rw [hone, zeroPadded, hk, List.replicate_succ, List.cons_append, List.take_succ_cons,
      List.take_zero]
    exact .zero

theorem positional_eq {d : Decimal} (h : d.exponent < 0) :
    ∃ whole fraction, d.positional = whole ++ '.' :: fraction ∧ Whole whole ∧ Digits fraction ∧
      number (whole ++ fraction) = d.coefficient ∧ d.exponent = -(fraction.length : Int) := by
  let places := (-d.exponent).toNat
  let digits := zeroPadded places (Text.decimal d.coefficient)
  let fraction := digits.drop (digits.length - places)
  have hlength : fraction.length = places := by
    have hlong : places < digits.length := by
      rw [length_zeroPadded]
      omega
    rw [List.length_drop]
    omega
  have hne : fraction ≠ [] := by
    rw [← List.length_pos_iff]
    omega
  have hdigits := digits_zeroPadded places (digits_decimal d.coefficient)
  have hsplit : digits = digits.take (digits.length - places) ++ fraction :=
    (List.take_append_drop _ _).symm
  refine ⟨_, fraction, Decimal.positional_of_append h hsplit hlength,
    whole_take_zeroPadded places (whole_decimal _),
    ⟨hne, fun c hc => hdigits.isDigit c (List.mem_of_mem_drop hc)⟩, ?_, by omega⟩
  rw [← hsplit]
  exact (number_zeros_append _ _).trans (number_decimal _)

theorem unsigned_positional {d : Decimal} (h : d.exponent < 0) :
    Unsigned d.negative d.positional (.decimal d) := by
  obtain ⟨whole, fraction, hwritten, hwhole, hfraction, hnumber, hexponent⟩ := positional_eq h
  have hvalue : d = ⟨d.negative, number (whole ++ fraction),
      (none : Option Int).getD 0 - fraction.length⟩ := by
    rw [hnumber, Option.getD_none, Int.zero_sub, ← hexponent]
  have hunsigned : Unsigned d.negative (whole ++ ('.' :: fraction ++ [])) (.decimal _) :=
    .decimal hwhole (.digits hfraction) .none (.inl hfraction.ne_nil)
  rw [← hvalue, List.append_nil, ← hwritten] at hunsigned
  exact hunsigned

/-- A number with digits behind the point keeps them all, zeros at the end included. -/
theorem number_writtenDecimal {d : Decimal} (h : d.exponent < 0) :
    Number (writtenDecimal d) (.decimal d) :=
  number_of_unsigned (unsigned_positional h)

/-! ## Values -/

/-- Every decimal in the value has digits behind the point. -/
inductive Exact : Json → Prop
  | null : Exact .null
  | bool (b : Bool) : Exact (.bool b)
  | integer (n : Int) : Exact (.integer n)
  | decimal {d : Decimal} : d.exponent < 0 → Exact (.decimal d)
  | text (s : String) : Exact (.text s)
  | array {items : List Json} : (∀ j ∈ items, Exact j) → Exact (.array items)
  | object {fields : List (String × Json)} : (∀ f ∈ fields, Exact f.2) → Exact (.object fields)

theorem gap_nil : Gap [] := List.forall_mem_nil _

theorem gap_newline (depth : Nat) : Gap (newline depth) := by
  intro c hc
  rcases List.mem_cons.mp hc with rfl | hc
  · rfl
  · rw [List.eq_of_mem_replicate hc]
    rfl

def lineEnd (depth : Nat) : Margins := ⟨[], newline depth, gap_nil, gap_newline depth⟩

def colon : Margins := ⟨[], [' '], gap_nil, List.forall_mem_singleton.mpr rfl⟩

def itemAt (depth : Nat) (j : Json) : Item := ⟨indentedAt depth j, j⟩

def fieldAt (depth : Nat) (f : String × Json) : Field where
  text := indentedAt depth f.2
  value := f.2
  name := f.1.toList
  spelled := f.1.toList.flatMap (writtenChar false)
  spells := spells_written f.1.toList
  margins := colon

def rowAt {α β : Type} (place : α → β) (depth : Nat) (a : α) (as : List α) : Row β :=
  ⟨place a, as.map fun b => (lineEnd depth, place b)⟩

theorem parts_rowAt {α β : Type} (place : α → β) (depth : Nat) (a : α) (as : List α) :
    (rowAt place depth a as).parts = (a :: as).map place := by
  simp [rowAt, Row.parts]

theorem moreItems_eq (depth : Nat) (js : List Json) :
    moreItems depth js = js.flatMap fun j => ',' :: newline depth ++ indentedAt depth j := by
  induction js with
  | nil => rfl
  | cons j js ih => simp [moreItems, ih]

theorem written_fieldAt (depth : Nat) (f : String × Json) :
    (fieldAt depth f).written = writtenText false f.1 ++ ':' :: ' ' :: indentedAt depth f.2 := by
  simp [Field.written, fieldAt, colon, Margins.around, writtenText]

theorem moreFields_eq (depth : Nat) (fields : List (String × Json)) :
    moreFields depth fields =
      fields.flatMap fun f => ',' :: newline depth ++ (fieldAt depth f).written := by
  induction fields with
  | nil => rfl
  | cons f fields ih => simp [moreFields, ih, written_fieldAt]

theorem indentedAt_array (depth : Nat) (j : Json) (js : List Json) :
    indentedAt depth (.array (j :: js)) = '[' :: (newline (depth + 1) ++
      ((rowAt (itemAt (depth + 1)) (depth + 1) j js).written Item.text ++
        (newline depth ++ [']']))) := by
  simp [indentedAt, moreItems_eq, Row.written, rowAt, itemAt, lineEnd, Margins.around,
    List.flatMap_map]

theorem indentedAt_object (depth : Nat) (f : String × Json) (fields : List (String × Json)) :
    indentedAt depth (.object (f :: fields)) = '\x7b' :: (newline (depth + 1) ++
      ((rowAt (fieldAt (depth + 1)) (depth + 1) f fields).written Field.written ++
        (newline depth ++ ['\x7d']))) := by
  simp [indentedAt, moreFields_eq, Row.written, rowAt, written_fieldAt, lineEnd, Margins.around,
    List.flatMap_map]

theorem values_itemAt (depth : Nat) (js : List Json) :
    (js.map (itemAt depth)).map Item.value = js := by
  rw [List.map_map]
  exact List.map_id js

theorem entries_fieldAt (depth : Nat) (fields : List (String × Json)) :
    (fields.map (fieldAt depth)).map Field.entry = fields := by
  have hentry : Field.entry ∘ fieldAt depth = id := by
    funext f
    exact Prod.ext String.ofList_toList rfl
  rw [List.map_map, hentry, List.map_id]

/-- The layout over several lines is a value in writing at any depth, by induction on the value. -/
theorem stands_indentedAt {j : Json} (h : Exact j) (depth : Nat) :
    Stands (indentedAt depth j) j := by
  induction h generalizing depth with
  | null => exact .null
  | bool b =>
    cases b with
    | true => exact .yes
    | false => exact .no
  | integer n => exact .number (number_writtenInt n)
  | decimal hd => exact .number (number_writtenDecimal hd)
  | text s => exact stands_writtenText s
  | @array items _ ih =>
    cases items with
    | nil => exact .noItems gap_nil
    | cons j js =>
      have hparts : ∀ e ∈ (rowAt (itemAt (depth + 1)) (depth + 1) j js).parts,
          Stands e.text e.value := by
        rw [parts_rowAt]
        exact List.forall_mem_map.mpr fun j hj => ih j hj (depth + 1)
      have hitems := Stands.items (gap_newline (depth + 1)) (gap_newline depth) hparts
      rw [parts_rowAt, values_itemAt, ← indentedAt_array] at hitems
      exact hitems
  | @object fields _ ih =>
    cases fields with
    | nil => exact .noFields gap_nil
    | cons f fields =>
      have hparts : ∀ e ∈ (rowAt (fieldAt (depth + 1)) (depth + 1) f fields).parts,
          Stands e.text e.value := by
        rw [parts_rowAt]
        exact List.forall_mem_map.mpr fun f hf => ih f hf (depth + 1)
      have hfields := Stands.fields (gap_newline (depth + 1)) (gap_newline depth) hparts
      rw [parts_rowAt, entries_fieldAt, ← indentedAt_object] at hfields
      exact hfields

theorem document_indented {j : Json} (h : Exact j) {s : String} (hs : Gap s.toList) :
    Document (indented j ++ s) j :=
  ⟨[], indentedAt 0 j, s.toList, gap_nil, stands_indentedAt h 0, hs, by simp [indented]⟩

end Candidacy.Json
