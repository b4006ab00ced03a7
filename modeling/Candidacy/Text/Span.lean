/-!
# Spans of code points

A `Span` is a closed interval of code points; a list of spans describes a class of characters.
A `Run` is a span walked with a fixed step, all of whose members map to a code point a fixed
`shift` further on; a list of runs describes a map on characters that moves only some of them.
-/

namespace Candidacy.Text

/-- The code points from `first` to `last`. -/
structure Span where
  first : Nat
  last : Nat
  deriving DecidableEq, Repr

namespace Span

def has (s : Span) (n : Nat) : Bool := s.first ≤ n && n ≤ s.last

def anyHas (spans : List Span) (n : Nat) : Bool := spans.any (·.has n)

theorem has_iff {s : Span} {n : Nat} : s.has n = true ↔ s.first ≤ n ∧ n ≤ s.last := by
  simp [has]

end Span

/-- The code points `first`, `first + step`, … up to `last`, each moved by `shift`. -/
structure Run where
  first : Nat
  last : Nat
  step : Nat
  shift : Int
  deriving DecidableEq, Repr

namespace Run

def moves (r : Run) (n : Nat) : Bool :=
  r.first ≤ n && n ≤ r.last && (n - r.first) % r.step == 0

/-- Where the first run that moves the code point takes it; a code point no run moves stays. -/
def image : List Run → Nat → Nat
  | [], n => n
  | r :: rs, n => if r.moves n then (n + r.shift).toNat else image rs n

theorem image_eq_self {rs : List Run} {n : Nat} (h : ∀ r ∈ rs, r.moves n = false) :
    image rs n = n := by
  induction rs with
  | nil => rfl
  | cons r rs ih =>
    simp only [image, h r List.mem_cons_self]
    exact ih fun r hr => h r (List.mem_cons_of_mem _ hr)

end Run

end Candidacy.Text
