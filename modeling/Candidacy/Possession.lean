import Candidacy.Text.Blank
import Candidacy.Text.LetterCase

/-!
# Possessions

A possession counts by its normal form: trimmed and in small letters. `heldItems` is the set of the
normal forms of a collection, each once.
-/

namespace Candidacy

/-- The form in which items are compared. -/
def normalizeItem (s : String) : String := Text.lower (Text.trim s)

/-- The items that the owner of these possessions holds. -/
def heldItems (possessions : List String) : List String :=
  (possessions.map normalizeItem).eraseDups

end Candidacy
