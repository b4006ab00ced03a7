import Candidacy.Text.Blank
import Candidacy.Text.LetterCase

/-!
# Operators

How the parts of a composite requirement combine. An operator is written as its name, in any letter
case and with any white space around it.
-/

namespace Candidacy

/-- Whether a composite asks for all of its parts or for any one of them. -/
inductive Operator where
  | all
  | any
  deriving DecidableEq, Repr, Inhabited

namespace Operator

def name : Operator → String
  | all => "AND"
  | any => "OR"

/-- The operator with a given name, white space and letter case aside. -/
def ofName? (s : String) : Option Operator :=
  let upper := Text.upper (Text.trim s)
  if upper = all.name then some all else if upper = any.name then some any else none

end Operator

end Candidacy
