import Candidacy.Json.Reader

/-!
# The grammar of JSON

The texts that are JSON, and the value that each of them stands for. White space may stand around
every value and every mark. A character beyond the first plane may be escaped as two UTF-16 units;
half of such a pair stands for nothing.

- `Spells`: what may stand between the quotes of a text, and the text it spells.
- `Number`: digits with a sign, a fraction and an exponent.
- `Stands`: a value without white space around it.
- `Document`: a value with white space around it, and nothing else.
-/

namespace Candidacy.Json

open Text (isDigit hexNumber? number)

def Gap (cs : List Char) : Prop := ∀ c ∈ cs, isGap c = true

/-- The white space on both sides of a mark. -/
structure Margins where
  before : List Char
  after : List Char
  gap_before : Gap before
  gap_after : Gap after

def Margins.around (m : Margins) (mark : Char) : List Char := m.before ++ mark :: m.after

/-! ## Texts -/

/-- What stands between quotes, and the text it spells: quotes, backslashes and control characters
are escaped, and other characters may be. -/
inductive Spells : List Char → List Char → Prop
  | nil : Spells [] []
  | char {c : Char} {cs s : List Char} : 0x20 ≤ c.toNat → c ≠ '"' → c ≠ '\\' →
      Spells cs s → Spells (c :: cs) (c :: s)
  | short {e c : Char} {cs s : List Char} : shortEscape? e = some c →
      Spells cs s → Spells ('\\' :: e :: cs) (c :: s)
  | unit {a b c d : Char} {n : Nat} {cs s : List Char} : hexNumber? [a, b, c, d] = some n →
      isHigh n = false → isLow n = false →
      Spells cs s → Spells ('\\' :: 'u' :: a :: b :: c :: d :: cs) (Char.ofNat n :: s)
  | pair {a b c d a' b' c' d' : Char} {high low : Nat} {cs s : List Char} :
      hexNumber? [a, b, c, d] = some high → isHigh high = true →
      hexNumber? [a', b', c', d'] = some low → isLow low = true → Spells cs s →
      Spells ('\\' :: 'u' :: a :: b :: c :: d :: '\\' :: 'u' :: a' :: b' :: c' :: d' :: cs)
        (pairChar high low :: s)

/-! ## Numbers -/

structure Digits (ds : List Char) : Prop where
  ne_nil : ds ≠ []
  isDigit : ∀ c ∈ ds, isDigit c = true

/-- The digits before the point: a zero, or digits that begin with another one. -/
inductive Whole : List Char → Prop
  | zero : Whole ['0']
  | digits {d : Char} {ds : List Char} : d ≠ '0' → Digits (d :: ds) → Whole (d :: ds)

/-- The part behind the whole digits, and the digits in it. -/
inductive Fraction : List Char → List Char → Prop
  | none : Fraction [] []
  | digits {ds : List Char} : Digits ds → Fraction ('.' :: ds) ds

inductive Sign : List Char → Bool → Prop
  | none : Sign [] false
  | plus : Sign ['+'] false
  | minus : Sign ['-'] true

def signed (negative : Bool) (ds : List Char) : Int :=
  if negative then -(number ds : Int) else number ds

inductive Exponent : List Char → Option Int → Prop
  | none : Exponent [] none
  | digits {e : Char} {sign ds : List Char} {negative : Bool} : e = 'e' ∨ e = 'E' →
      Sign sign negative → Digits ds → Exponent (e :: (sign ++ ds)) (some (signed negative ds))

/-- A number without its sign, and its value with the sign. Without a point and an exponent it is an
integer. -/
inductive Unsigned (negative : Bool) : List Char → Json → Prop
  | integer {ds : List Char} : Whole ds → Unsigned negative ds (.integer (signed negative ds))
  | decimal {ds fraction fs exponent : List Char} {power : Option Int} : Whole ds →
      Fraction fraction fs → Exponent exponent power → fs ≠ [] ∨ power ≠ none →
      Unsigned negative (ds ++ (fraction ++ exponent))
        (.decimal ⟨negative, number (ds ++ fs), power.getD 0 - fs.length⟩)

inductive Number : List Char → Json → Prop
  | plain {cs : List Char} {j : Json} : Unsigned false cs j → Number cs j
  | minus {cs : List Char} {j : Json} : Unsigned true cs j → Number ('-' :: cs) j

/-! ## Values -/

/-- Parts in a row with marks between them. -/
structure Row (α : Type) where
  first : α
  more : List (Margins × α)

namespace Row

variable {α : Type}

def parts (row : Row α) : List α := row.first :: row.more.map (·.2)

def written (text : α → List Char) (row : Row α) : List Char :=
  text row.first ++ row.more.flatMap fun e => e.1.around ',' ++ text e.2

theorem written_single (text : α → List Char) (a : α) : (mk a []).written text = text a := by
  simp [written]

theorem written_cons (text : α → List Char) (a b : α) (m : Margins) (more : List (Margins × α)) :
    (mk a ((m, b) :: more)).written text =
      text a ++ (m.before ++ ',' :: (m.after ++ (mk b more).written text)) := by
  simp [written, Margins.around]

theorem parts_cons (a b : α) (m : Margins) (more : List (Margins × α)) :
    (mk a ((m, b) :: more)).parts = a :: (mk b more).parts := rfl

end Row

/-- An item of an array in writing, and the value that it is to stand for. -/
structure Item where
  text : List Char
  value : Json

/-- A field of an object in writing: the name in quotes, a colon and an item. -/
structure Field extends Item where
  name : List Char
  spelled : List Char
  spells : Spells spelled name
  margins : Margins

namespace Field

def written (f : Field) : List Char := '"' :: f.spelled ++ '"' :: (f.margins.around ':' ++ f.text)

def entry (f : Field) : String × Json := (String.ofList f.name, f.value)

end Field

/-- The characters stand for the value, without white space around them. -/
inductive Stands : List Char → Json → Prop
  | null : Stands ['n', 'u', 'l', 'l'] .null
  | yes : Stands ['t', 'r', 'u', 'e'] (.bool true)
  | no : Stands ['f', 'a', 'l', 's', 'e'] (.bool false)
  | number {cs : List Char} {j : Json} : Number cs j → Stands cs j
  | text {cs s : List Char} : Spells cs s → Stands ('"' :: (cs ++ ['"'])) (.text (String.ofList s))
  | noItems {g : List Char} : Gap g → Stands ('[' :: (g ++ [']'])) (.array [])
  | items {g g' : List Char} {row : Row Item} : Gap g → Gap g' →
      (∀ e ∈ row.parts, Stands e.text e.value) →
      Stands ('[' :: (g ++ (row.written Item.text ++ (g' ++ [']']))))
        (.array (row.parts.map Item.value))
  | noFields {g : List Char} : Gap g → Stands ('\x7b' :: (g ++ ['\x7d'])) (.object [])
  | fields {g g' : List Char} {row : Row Field} : Gap g → Gap g' →
      (∀ f ∈ row.parts, Stands f.text f.value) →
      Stands ('\x7b' :: (g ++ (row.written Field.written ++ (g' ++ ['\x7d']))))
        (.object (row.parts.map Field.entry))

/-- The text is a JSON document that stands for the value. -/
def Document (s : String) (j : Json) : Prop :=
  ∃ g cs g', Gap g ∧ Stands cs j ∧ Gap g' ∧ s.toList = g ++ (cs ++ g')

end Candidacy.Json
