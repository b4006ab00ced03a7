import Candidacy.Proofs.Json.Grammar
import Mathlib.Data.List.TakeWhile

/-!
# Reading JSON

Every document is read as the value that it stands for, so that no document stands for two values.
What is read ends where a number could not go on (`Stops`), and one unit of fuel for each character is
enough.

- `readText_of_spells`, `readNumber_of_unsigned`: texts and numbers, whatever stands behind them.
- `ReadsAs`: the characters are read as the value wherever they stand.
- `read_of_stands`: values are, by induction on how they are written.
- `read?_of_document`: whole documents.
-/

namespace Candidacy.Json

open Text (isDigit hexNumber? number)

variable {cs ds rest : List Char} {c : Char}

/-! ## White space -/

theorem isGap_iff : isGap c = true ↔ c = ' ' ∨ c = '\n' ∨ c = '\r' ∨ c = '\t' := by
  simp [isGap, or_assoc]

theorem skipGap_append {g : List Char} (hg : Gap g) (cs : List Char) :
    skipGap (g ++ cs) = skipGap cs :=
  List.dropWhile_append_of_pos hg

theorem skipGap_cons (h : isGap c = false) (cs : List Char) : skipGap (c :: cs) = c :: cs := by
  simp [skipGap, h]

theorem skipGap_mark {g : List Char} (hg : Gap g) (h : isGap c = false) (cs : List Char) :
    skipGap (g ++ c :: cs) = c :: cs := by
  rw [skipGap_append hg, skipGap_cons h]

theorem skipGap_of_gap {g : List Char} (hg : Gap g) : skipGap g = [] :=
  List.dropWhile_eq_nil_iff.mpr hg

/-! ## Texts -/

theorem readText_char (hmin : 0x20 ≤ c.toNat) (hquote : c ≠ '"') (hslash : c ≠ '\\')
    (cs : List Char) : readText none (c :: cs) = (readText none cs).map fun r => (c :: r.1, r.2) := by
  rw [readText.eq_def]
  split
  case h_5 =>
    rename_i heq
    cases heq
    rw [if_neg (by simp [hslash]; omega)]
    cases readText none cs <;> rfl
  all_goals simp_all

theorem readText_short {e : Char} (he : shortEscape? e = some c) (cs : List Char) :
    readText none ('\\' :: e :: cs) = (readText none cs).map fun r => (c :: r.1, r.2) := by
  unfold shortEscape? at he
  split at he
  all_goals cases he
  all_goals cases h : readText none cs <;> simp [readText, shortEscape?, h]

theorem readText_unit {a b c d : Char} {n : Nat} (hn : hexNumber? [a, b, c, d] = some n)
    (hhigh : isHigh n = false) (hlow : isLow n = false) (cs : List Char) :
    readText none ('\\' :: 'u' :: a :: b :: c :: d :: cs) =
      (readText none cs).map fun r => (Char.ofNat n :: r.1, r.2) := by
  cases h : readText none cs <;> simp [readText, unitChar, hn, hhigh, hlow, h]

theorem readText_pair {a b c d a' b' c' d' : Char} {high low : Nat}
    (hn : hexNumber? [a, b, c, d] = some high) (hhigh : isHigh high = true)
    (hn' : hexNumber? [a', b', c', d'] = some low) (hlow : isLow low = true) (cs : List Char) :
    readText none
        ('\\' :: 'u' :: a :: b :: c :: d :: '\\' :: 'u' :: a' :: b' :: c' :: d' :: cs) =
      (readText none cs).map fun r => (pairChar high low :: r.1, r.2) := by
  cases h : readText none cs <;> simp [readText, hn, hn', hhigh, hlow, h]

theorem readText_of_spells {s : List Char} (h : Spells cs s) (rest : List Char) :
    readText none (cs ++ '"' :: rest) = some (s, rest) := by
  induction h with
  | nil => rfl
  | char hmin hquote hslash _ ih =>
    rw [List.cons_append, readText_char hmin hquote hslash, ih]
    rfl
  | short he _ ih =>
    simp only [List.cons_append]
    rw [readText_short he, ih]
    rfl
  | unit hn hhigh hlow _ ih =>
    simp only [List.cons_append]
    rw [readText_unit hn hhigh hlow, ih]
    rfl
  | pair hn hhigh hn' hlow _ ih =>
    simp only [List.cons_append]
    rw [readText_pair hn hhigh hn' hlow, ih]
    rfl

/-! ## Numbers -/

/-- A number in front of these characters goes no further. -/
def Stops (cs : List Char) : Prop :=
  ∀ c ∈ cs.head?, isDigit c = false ∧ c ≠ '.' ∧ c ≠ 'e' ∧ c ≠ 'E'

theorem stops_nil : Stops [] := by
  rintro _ ⟨⟩

theorem stops_cons (h : isDigit c = false ∧ c ≠ '.' ∧ c ≠ 'e' ∧ c ≠ 'E') (cs : List Char) :
    Stops (c :: cs) := by
  rintro _ ⟨⟩
  exact h

theorem stops_gap_append {g : List Char} (hg : Gap g) (h : Stops rest) : Stops (g ++ rest) := by
  cases g with
  | nil => exact h
  | cons c g =>
    have hc := isGap_iff.mp (hg c List.mem_cons_self)
    refine stops_cons ?_ _
    rcases hc with rfl | rfl | rfl | rfl <;> decide

def endsValue (c : Char) : Bool := c == ',' || c == ']' || c == '\x7d'

theorem stops_mark {g : List Char} (hg : Gap g) (hc : endsValue c = true) (cs : List Char) :
    Stops (g ++ c :: cs) := by
  refine stops_gap_append hg (stops_cons ?_ cs)
  simp only [endsValue, Bool.or_eq_true, beq_iff_eq] at hc
  rcases hc with (rfl | rfl) | rfl <;> decide

theorem takeWhile_digits (hds : ∀ c ∈ ds, isDigit c = true)
    (hrest : ∀ c ∈ rest.head?, isDigit c = false) :
    (ds ++ rest).takeWhile isDigit = ds ∧ (ds ++ rest).dropWhile isDigit = rest := by
  rw [List.takeWhile_append_of_pos hds, List.dropWhile_append_of_pos hds]
  cases rest with
  | nil => simp
  | cons c rest => simp [hrest c rfl]

theorem readWhole_of_whole (h : Whole ds) (hrest : ∀ c ∈ rest.head?, isDigit c = false) :
    readWhole (ds ++ rest) = some (ds, rest) := by
  cases h with
  | zero => rfl
  | @digits d ds hd h =>
    obtain ⟨htake, hdrop⟩ := takeWhile_digits h.isDigit hrest
    rw [readWhole.eq_def]
    split
    · rename_i heq
      cases heq
      exact (hd rfl).elim
    · dsimp only
      rw [htake, hdrop, if_neg h.ne_nil]

theorem Digits.cons (h : Digits ds) : ∃ d ds', ds = d :: ds' ∧ Text.isDigit d = true := by
  obtain ⟨d, ds', rfl⟩ := List.exists_cons_of_ne_nil h.ne_nil
  exact ⟨d, ds', rfl, h.isDigit d List.mem_cons_self⟩

theorem readExponent_of_exponent {exponent : List Char} {power : Option Int}
    (h : Exponent exponent power) (hrest : Stops rest) :
    readExponent (exponent ++ rest) = some (power, rest) := by
  cases h with
  | none =>
    cases rest with
    | nil => rfl
    | cons c rest => simp [readExponent, (hrest c rfl).2]
  | @digits e sign ds negative he hsign hds =>
    obtain ⟨htake, hdrop⟩ := takeWhile_digits hds.isDigit fun c hc => (hrest c hc).1
    rw [List.cons_append, readExponent.eq_def]
    dsimp only
    rw [if_pos he]
    cases hsign with
    | none =>
      obtain ⟨d, ds', rfl, hd⟩ := hds.cons
      have hminus : d ≠ '-' := by
        rintro rfl
        cases hd
      have hplus : d ≠ '+' := by
        rintro rfl
        cases hd
      simp only [List.cons_append, List.nil_append] at htake hdrop ⊢
      simp [htake, hdrop, hminus, hplus, signed]
    | plus => simp [htake, hdrop, hds.ne_nil, signed]
    | minus => simp [htake, hdrop, hds.ne_nil, signed]

/-- What may follow the digits of a number is no digit and no point, if there is no fraction. -/
theorem exponent_head {exponent : List Char} {power : Option Int} (h : Exponent exponent power)
    (hrest : Stops rest) : ∀ c ∈ (exponent ++ rest).head?, isDigit c = false ∧ c ≠ '.' := by
  cases h with
  | none => exact fun c hc => ⟨(hrest c hc).1, (hrest c hc).2.1⟩
  | digits he =>
    rintro c ⟨⟩
    rcases he with rfl | rfl <;> decide

theorem readNumber_of_parts (negative : Bool) {fraction fs exponent : List Char}
    {power : Option Int} (hds : Whole ds) (hfraction : Fraction fraction fs)
    (hexponent : Exponent exponent power) (hrest : Stops rest) :
    readNumber negative (ds ++ (fraction ++ (exponent ++ rest))) =
      some (if fs = [] ∧ power = none then .integer (signed negative ds)
        else .decimal ⟨negative, number (ds ++ fs), power.getD 0 - fs.length⟩, rest) := by
  have hhead := exponent_head hexponent hrest
  have hpower := readExponent_of_exponent hexponent hrest
  generalize exponent ++ rest = tail at hhead hpower
  cases hfraction with
  | none =>
    have hwhole := readWhole_of_whole hds fun c hc => (hhead c hc).1
    have hpoint : ∀ more, tail ≠ '.' :: more := by
      rintro more rfl
      exact (hhead '.' rfl).2 rfl
    rw [List.nil_append, readNumber, hwhole]
    simp only [Option.bind_eq_bind, Option.bind_some, hpower]
    by_cases hnone : power = none <;> simp [hnone, signed]
  | digits hfs =>
    have hpoint : ∀ c ∈ ('.' :: (fs ++ tail)).head?, isDigit c = false := by
      rintro c ⟨⟩
      rfl
    have hwhole := readWhole_of_whole hds hpoint
    obtain ⟨htake, hdrop⟩ := takeWhile_digits hfs.isDigit fun c hc => (hhead c hc).1
    rw [List.cons_append, readNumber, hwhole]
    simp only [Option.bind_eq_bind, Option.bind_some, htake, hdrop, hfs.ne_nil, hpower, if_false,
      false_and]
    rfl

theorem readNumber_of_unsigned {negative : Bool} {j : Json} (h : Unsigned negative cs j)
    (hrest : Stops rest) : readNumber negative (cs ++ rest) = some (j, rest) := by
  cases h with
  | integer hds => exact readNumber_of_parts negative hds .none .none hrest
  | decimal hds hfraction hexponent hpoint =>
    have hdecimal := not_and_or.mpr hpoint
    rw [List.append_assoc, List.append_assoc,
      readNumber_of_parts negative hds hfraction hexponent hrest, if_neg hdecimal]

/-! ## Values -/

theorem readValue_gap_append {g : List Char} (hg : Gap g) (fuel : Nat) (cs : List Char) :
    readValue fuel (g ++ cs) = readValue fuel cs := by
  cases fuel with
  | zero => rw [readValue, readValue]
  | succ fuel => rw [readValue, readValue, skipGap_append hg]

theorem Whole.head (h : Whole ds) : ∃ d ds', ds = d :: ds' ∧ isDigit d = true := by
  cases h with
  | zero => exact ⟨'0', [], rfl, rfl⟩
  | digits _ h => exact h.cons

theorem Unsigned.head {negative : Bool} {j : Json} (h : Unsigned negative cs j) :
    ∃ d cs', cs = d :: cs' ∧ isDigit d = true := by
  cases h with
  | integer hds => exact hds.head
  | decimal hds =>
    obtain ⟨d, ds', rfl, hd⟩ := hds.head
    exact ⟨d, _, rfl, hd⟩

theorem ne_of_isDigit {d : Char} (hd : isDigit d = true) (hc : isDigit c = false) : d ≠ c := by
  rintro rfl
  rw [hd] at hc
  cases hc

theorem isGap_of_isDigit {d : Char} (hd : isDigit d = true) : isGap d = false := by
  rw [Bool.eq_false_iff, ne_eq, isGap_iff]
  rintro (rfl | rfl | rfl | rfl) <;> cases hd

/-- A value begins with a character that is neither white space nor closes anything. -/
theorem Stands.head {j : Json} (h : Stands cs j) :
    ∃ c cs', cs = c :: cs' ∧ isGap c = false ∧ c ≠ ']' := by
  cases h with
  | number h =>
    cases h with
    | minus => exact ⟨_, _, rfl, by decide⟩
    | plain h =>
      obtain ⟨d, cs', rfl, hd⟩ := h.head
      exact ⟨d, cs', rfl, isGap_of_isDigit hd, ne_of_isDigit hd rfl⟩
  | _ => exact ⟨_, _, rfl, by decide⟩

theorem readValue_digit {d : Char} (hd : isDigit d = true) (fuel : Nat) (cs : List Char) :
    readValue (fuel + 1) (d :: cs) = readNumber false (d :: cs) := by
  rw [readValue, skipGap_cons (isGap_of_isDigit hd)]
  split
  case h_8 => rfl
  all_goals
    rename_i heq
    cases heq
    cases hd

theorem readValue_of_number {j : Json} (h : Number cs j) (hrest : Stops rest) (fuel : Nat) :
    readValue (fuel + 1) (cs ++ rest) = some (j, rest) := by
  cases h with
  | minus h =>
    rw [List.cons_append, readValue, skipGap_cons (by decide)]
    exact readNumber_of_unsigned h hrest
  | plain h =>
    obtain ⟨d, cs', rfl, hd⟩ := h.head
    rw [List.cons_append, readValue_digit hd, ← List.cons_append]
    exact readNumber_of_unsigned h hrest

/-- The characters are read as the value, whatever stands behind them that ends a number. -/
def ReadsAs (cs : List Char) (j : Json) : Prop :=
  ∀ rest fuel, Stops rest → cs.length < fuel → readValue fuel (cs ++ rest) = some (j, rest)

theorem readItems_gap_append {g : List Char} (hg : Gap g) (fuel : Nat) (cs : List Char) :
    readItems fuel (g ++ cs) = readItems fuel cs := by
  cases fuel with
  | zero => rw [readItems, readItems]
  | succ fuel => rw [readItems, readItems, readValue_gap_append hg]

theorem readFields_gap_append {g : List Char} (hg : Gap g) (fuel : Nat) (cs : List Char) :
    readFields fuel (g ++ cs) = readFields fuel cs := by
  cases fuel with
  | zero => rw [readFields, readFields]
  | succ fuel => rw [readFields, readFields, skipGap_append hg]

theorem readItems_of_row {row : Row Item} {g : List Char} (hg : Gap g)
    (hread : ∀ e ∈ row.parts, ReadsAs e.text e.value) (rest : List Char) (fuel : Nat)
    (hfuel : (row.written Item.text).length + 1 < fuel) :
    readItems fuel (row.written Item.text ++ (g ++ ']' :: rest)) =
      some (row.parts.map Item.value, rest) := by
  obtain ⟨first, more⟩ := row
  induction more generalizing first fuel with
  | nil =>
    obtain ⟨fuel, rfl⟩ : ∃ n, fuel = n + 1 := ⟨fuel - 1, by omega⟩
    rw [Row.written_single] at hfuel ⊢
    have hend := stops_mark (c := ']') hg rfl rest
    have hfirst := hread first List.mem_cons_self _ fuel hend (by omega)
    rw [readItems, hfirst]
    simp only [Option.bind_eq_bind, Option.bind_some, skipGap_mark (c := ']') hg rfl]
    rfl
  | cons next more ih =>
    obtain ⟨m, second⟩ := next
    obtain ⟨fuel, rfl⟩ : ∃ n, fuel = n + 1 := ⟨fuel - 1, by omega⟩
    rw [Row.written_cons] at hfuel ⊢
    rw [Row.parts_cons, List.forall_mem_cons] at hread
    simp only [List.length_append, List.length_cons] at hfuel
    simp only [List.append_assoc, List.cons_append]
    have hothers := ih fuel second hread.2 (by omega)
    generalize (Row.mk second more).written Item.text ++ (g ++ ']' :: rest) = cs at hothers
    have hend := stops_mark (c := ',') m.gap_before rfl (m.after ++ cs)
    have hfirst := hread.1 _ fuel hend (by omega)
    rw [readItems, hfirst]
    simp only [Option.bind_eq_bind, Option.bind_some, skipGap_mark (c := ',') m.gap_before rfl,
      readItems_gap_append m.gap_after, hothers]
    rfl

/-- Of a field in front the name is read, the value behind the colon, and the fields behind it if a
comma follows. -/
theorem readFields_field {f : Field} (hread : ReadsAs f.text f.value) (fuel : Nat)
    (hfuel : f.text.length < fuel) {g : List Char} (hg : Gap g) (hc : c = ',' ∨ c = '\x7d') :
    readFields (fuel + 1) (f.written ++ (g ++ c :: rest)) =
      if c = ',' then (readFields fuel rest).map fun r => (f.entry :: r.1, r.2)
      else some ([f.entry], rest) := by
  have hvalue := hread (g ++ c :: rest) fuel
    (stops_mark hg (by rcases hc with rfl | rfl <;> rfl) rest) hfuel
  have hmark := skipGap_mark hg (show isGap c = false by rcases hc with rfl | rfl <;> rfl) rest
  generalize g ++ c :: rest = tail at hvalue hmark
  have hwritten : f.written ++ tail = '"' :: (f.spelled ++
      '"' :: (f.margins.before ++ ':' :: (f.margins.after ++ (f.text ++ tail)))) := by
    simp [Field.written, Margins.around]
  have hname := readText_of_spells f.spells
    (f.margins.before ++ ':' :: (f.margins.after ++ (f.text ++ tail)))
  rw [hwritten, readFields, skipGap_cons (by decide)]
  simp only [Option.bind_eq_bind, hname, Option.bind_some,
    skipGap_mark (c := ':') f.margins.gap_before rfl, readValue_gap_append f.margins.gap_after,
    hvalue, hmark]
  rcases hc with rfl | rfl
  · rw [if_pos rfl, Option.map_eq_bind]
    rfl
  · rfl

theorem readFields_of_row {row : Row Field} {g : List Char} (hg : Gap g)
    (hread : ∀ f ∈ row.parts, ReadsAs f.text f.value) (rest : List Char) (fuel : Nat)
    (hfuel : (row.written Field.written).length + 1 < fuel) :
    readFields fuel (row.written Field.written ++ (g ++ '\x7d' :: rest)) =
      some (row.parts.map Field.entry, rest) := by
  have hshort (f : Field) : f.text.length < f.written.length := by
    simp [Field.written, Margins.around]
    omega
  obtain ⟨first, more⟩ := row
  have hlength := hshort first
  induction more generalizing first fuel with
  | nil =>
    obtain ⟨fuel, rfl⟩ : ∃ n, fuel = n + 1 := ⟨fuel - 1, by omega⟩
    rw [Row.written_single] at hfuel ⊢
    rw [readFields_field (hread first List.mem_cons_self) fuel (by omega) hg (.inr rfl)]
    rfl
  | cons next more ih =>
    obtain ⟨m, second⟩ := next
    obtain ⟨fuel, rfl⟩ : ∃ n, fuel = n + 1 := ⟨fuel - 1, by omega⟩
    rw [Row.written_cons] at hfuel ⊢
    rw [Row.parts_cons, List.forall_mem_cons] at hread
    simp only [List.length_append, List.length_cons] at hfuel
    simp only [List.append_assoc, List.cons_append]
    have hothers := ih fuel second hread.2 (by omega) (hshort second)
    rw [readFields_field hread.1 fuel (by omega) m.gap_before (.inl rfl), if_pos rfl,
      readFields_gap_append m.gap_after, hothers]
    rfl

theorem ReadsAs.of_succ {j : Json} (h : ∀ rest fuel, Stops rest → cs.length ≤ fuel →
    readValue (fuel + 1) (cs ++ rest) = some (j, rest)) : ReadsAs cs j := by
  intro rest fuel hrest hfuel
  obtain ⟨fuel, rfl⟩ : ∃ n, fuel = n + 1 := ⟨fuel - 1, by omega⟩
  exact h rest fuel hrest (by omega)

theorem Row.written_head {α : Type} {text : α → List Char} {row : Row α} {cs : List Char}
    (h : text row.first = c :: cs) : ∃ tail, row.written text = c :: tail := by
  rw [Row.written, h]
  exact ⟨_, rfl⟩

theorem read_items {row : Row Item} {g g' : List Char} (hg : Gap g) (hg' : Gap g')
    (hstands : Stands row.first.text row.first.value)
    (hread : ∀ e ∈ row.parts, ReadsAs e.text e.value) :
    ReadsAs ('[' :: (g ++ (row.written Item.text ++ (g' ++ [']']))))
      (.array (row.parts.map Item.value)) := by
  refine .of_succ fun rest fuel _ hfuel => ?_
  simp only [List.length_append, List.length_cons, List.length_nil] at hfuel
  have hitems := readItems_of_row hg' hread rest fuel (by omega)
  obtain ⟨c, cs, hcs, hgap, hclose⟩ := hstands.head
  obtain ⟨tail, htail⟩ := Row.written_head hcs
  simp only [htail, List.append_assoc, List.cons_append, List.nil_append] at hitems ⊢
  rw [readValue, skipGap_cons (by decide)]
  simp only [skipGap_mark hg hgap]
  split
  · rename_i heq
    cases heq
    exact (hclose rfl).elim
  · rw [hitems]
    rfl

theorem read_fields {row : Row Field} {g g' : List Char} (hg : Gap g) (hg' : Gap g')
    (hread : ∀ f ∈ row.parts, ReadsAs f.text f.value) :
    ReadsAs ('\x7b' :: (g ++ (row.written Field.written ++ (g' ++ ['\x7d']))))
      (.object (row.parts.map Field.entry)) := by
  refine .of_succ fun rest fuel _ hfuel => ?_
  simp only [List.length_append, List.length_cons, List.length_nil] at hfuel
  have hfields := readFields_of_row hg' hread rest fuel (by omega)
  obtain ⟨tail, htail⟩ : ∃ tail, row.written Field.written = '"' :: tail := Row.written_head rfl
  simp only [htail, List.append_assoc, List.cons_append, List.nil_append] at hfields ⊢
  rw [readValue, skipGap_cons (by decide)]
  simp only [skipGap_mark (c := '"') hg rfl]
  split
  · rename_i heq
    cases heq
  · rw [hfields]
    rfl

/-- A value is read to its end, by induction on how it is written. -/
theorem read_of_stands {j : Json} (h : Stands cs j) : ReadsAs cs j := by
  induction h with
  | items hg hg' hparts ih => exact read_items hg hg' (hparts _ List.mem_cons_self) ih
  | fields hg hg' hparts ih => exact read_fields hg hg' ih
  | number h => exact .of_succ fun rest fuel hrest _ => readValue_of_number h hrest fuel
  | null | yes | no =>
    refine .of_succ fun rest fuel _ _ => ?_
    rw [List.cons_append, readValue, skipGap_cons (by decide)]
    rfl
  | text h =>
    refine .of_succ fun rest fuel _ _ => ?_
    rw [List.cons_append, readValue, skipGap_cons (by decide)]
    simp [readText_of_spells h]
  | noItems hg =>
    refine .of_succ fun rest fuel _ _ => ?_
    rw [List.cons_append, readValue, skipGap_cons (by decide)]
    simp [skipGap_mark (c := ']') hg rfl]
  | noFields hg =>
    refine .of_succ fun rest fuel _ _ => ?_
    rw [List.cons_append, readValue, skipGap_cons (by decide)]
    simp [skipGap_mark (c := '\x7d') hg rfl]

/-- The reader accepts every document, and gives the value that it stands for. -/
theorem read?_of_document {s : String} {j : Json} (h : Document s j) : read? s = some j := by
  obtain ⟨g, cs, g', hg, hstands, hg', hs⟩ := h
  have hrest : Stops g' := List.append_nil g' ▸ stops_gap_append hg' stops_nil
  have hread := read_of_stands hstands g' (s.toList.length + 1) hrest (by simp [hs]; omega)
  rw [← readValue_gap_append hg, ← hs] at hread
  simp [read?, hread, skipGap_of_gap hg']

theorem Document.unique {s : String} {j j' : Json} (h : Document s j) (h' : Document s j') :
    j = j' :=
  Option.some.inj ((read?_of_document h).symm.trans (read?_of_document h'))

end Candidacy.Json
