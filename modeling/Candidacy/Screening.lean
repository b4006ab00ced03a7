import Candidacy.ByName
import Candidacy.Company
import Candidacy.Event

/-!
# Screening

Which of several companies a candidate may work for. Two questions are answered by name and two by
company; under a name that occurs more than once the last company answers, and each repetition is
reported as an event.
-/

namespace Candidacy

structure Verdict where
  eligible : Bool
  description : String
  deriving DecidableEq, Repr

namespace Screening

/-- Enters an answer per company under its name, with an event per name met before. -/
def tally {α : Type} (answer : Company → α) (table : ByName α) :
    List Company → Traced (ByName α)
  | [] => ⟨table, []⟩
  | c :: cs =>
    let rest := tally answer (table.put c.name (answer c)) cs
    ⟨rest.value, (if table.has c.name then [.duplicateCompany c.name] else []) ++ rest.events⟩

/-- Whether the candidate may work for each company, by name. -/
def eligibility (companies : List Company) (possessions : List String) : Traced (ByName Bool) :=
  tally (·.canWork (heldItems possessions)) [] companies

def eligible (companies : List Company) (possessions : List String) : List Company :=
  companies.filter (·.canWork (heldItems possessions))

def ineligible (companies : List Company) (possessions : List String) : List Company :=
  companies.filter fun c => !c.canWork (heldItems possessions)

def verdicts (companies : List Company) (possessions : List String) : Traced (ByName Verdict) :=
  tally (fun c => ⟨c.canWork (heldItems possessions), c.requirementDescription⟩) [] companies

end Screening

end Candidacy
