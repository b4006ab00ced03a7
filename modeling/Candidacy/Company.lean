import Candidacy.Possession
import Candidacy.Requirement

/-!
# Companies

A company has a name and, unless everyone may work there, a requirement.
-/

namespace Candidacy

/-- A company and what it asks of a candidate. -/
structure Company where
  name : String
  requirement : Option Requirement
  deriving DecidableEq, Repr, Inhabited

namespace Company

/-- What stands for the requirement of a company that has none. -/
def noRequirements : String := "No requirements"

def canWork (c : Company) (possessions : List String) : Bool :=
  match c.requirement with
  | none => true
  | some r => r.holds (heldItems possessions)

def requirementDescription (c : Company) : String :=
  match c.requirement with
  | none => noRequirements
  | some r => r.describe

def describe (c : Company) : String := c.name ++ ": " ++ c.requirementDescription

def requiredItems (c : Company) : List String :=
  match c.requirement with
  | none => []
  | some r => r.items

end Company

end Candidacy
