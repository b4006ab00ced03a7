import Candidacy.Screening
import Candidacy.Word

/-!
# Reports

The report of a candidate against a list of companies: an outcome per company name, the counts and
the success rate. `Report.draw` draws one up and tells the events on the way: the warnings of the
screening, a result per company and a summary.
-/

namespace Candidacy

structure Outcome where
  company : String
  eligible : Bool
  description : String
  requiredItems : List String
  missingItems : List String
  deriving DecidableEq, Repr

structure Report where
  possessions : List Word
  outcomes : List Outcome
  eligibleCount : Nat
  ineligibleCount : Nat
  rate : SuccessRate
  companyCount : Nat
  timestamp : String
  version : String
  deriving DecidableEq, Repr

namespace Outcome

/-- The outcome for a company given its verdict and the items held. -/
def ofVerdict (held : List String) (c : Company) (v : Verdict) : Outcome where
  company := c.name
  eligible := v.eligible
  description := v.description
  requiredItems := c.requiredItems
  missingItems := if v.eligible then [] else c.requiredItems.filter (!held.contains ·)

def event (o : Outcome) : Event := .result o.company o.eligible o.description

end Outcome

namespace Report

/-- The version that new reports carry. -/
def currentVersion : String := "0.1.0"

def eligible (r : Report) : List Outcome := r.outcomes.filter (·.eligible)

def ineligible (r : Report) : List Outcome := r.outcomes.filter (!·.eligible)

/-- The outcome for every company of the list, repeated names included. -/
def outcomesOf (companies : List Company) (verdicts : ByName Verdict) (held : List String) :
    List Outcome :=
  companies.map fun c =>
    .ofVerdict held c ((verdicts.get? c.name).getD ⟨false, c.requirementDescription⟩)

/-- The report on these companies for the owner of these possessions, drawn up at a given time. -/
def draw (companies : List Company) (possessions : List Word) (timestamp : String) :
    Traced Report :=
  let texts := possessions.map (·.text)
  let verdicts := Screening.verdicts companies texts
  let all := outcomesOf companies verdicts.value (heldItems texts)
  let outcomes := (ByName.ofList Outcome.company all).values
  let eligibleCount := (outcomes.filter (·.eligible)).length
  let report : Report :=
    { possessions := Text.sortedOn Word.text possessions
      outcomes := outcomes
      eligibleCount := eligibleCount
      ineligibleCount := outcomes.length - eligibleCount
      rate := .ofCounts eligibleCount outcomes.length
      companyCount := outcomes.length
      timestamp := timestamp
      version := currentVersion }
  ⟨report, verdicts.events ++ all.map (·.event) ++
    [.summary report.eligibleCount report.ineligibleCount report.rate]⟩

end Report

end Candidacy
