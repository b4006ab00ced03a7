/-!
# Sorted texts

Texts in the order of their code points.
-/

namespace Candidacy.Text

/-- The members of a list by the code points of a text taken from each; equals keep their order. -/
def sortedOn {α : Type} (key : α → String) (xs : List α) : List α :=
  xs.mergeSort fun a b => decide (key a ≤ key b)

def sorted (ss : List String) : List String := sortedOn id ss

def sortedSet (ss : List String) : List String := sorted ss.eraseDups

end Candidacy.Text
