import Candidacy.Report.Basic

/-!
# The report as text

The sections of a report one below the other, with a line per company in each.
-/

namespace Candidacy.Report

/-- A line about a company: its name in a column of twelve, and what there is to say. -/
def companyLine (name text : String) : String := Text.padded 12 name ++ ": " ++ text

def statusText (eligible : Bool) : String :=
  if eligible then "\u2713 CAN WORK" else "\u2717 CANNOT WORK"

def commaList (ss : List String) : String := ", ".intercalate ss

/-- What the candidate owns, or a word for nothing. -/
def possessionText (r : Report) : String :=
  let listed := commaList (r.possessions.map (·.text))
  if listed = "" then "(none)" else listed

def lines (r : Report) : List String :=
  ["=== Job Eligibility Evaluation System ===",
   "",
   "Candidate Possessions: " ++ r.possessionText,
   "Total Companies: " ++ toString r.outcomes.length,
   "",
   "=== ELIGIBILITY RESULTS ==="] ++
  r.outcomes.map (fun o => companyLine o.company (statusText o.eligible)) ++
  ["",
   "=== SUMMARY ===",
   "Eligible Companies: " ++ toString r.eligibleCount,
   "Ineligible Companies: " ++ toString r.ineligibleCount,
   "Success Rate: " ++ r.rate.text ++ "%",
   "",
   "=== DETAILED ANALYSIS ===",
   "",
   "--- ELIGIBLE COMPANIES ---"] ++
  r.eligible.map (fun o => companyLine o.company ("Requirements: " ++ o.description)) ++
  ["", "--- INELIGIBLE COMPANIES ---"] ++
  r.ineligible.map (fun o => companyLine o.company ("Requirements: " ++ o.description)) ++
  ["", "--- MISSING REQUIREMENTS ANALYSIS ---"] ++
  r.ineligible.map (fun o => companyLine o.company ("Missing items: " ++ commaList o.missingItems))

def text (r : Report) : String := "\n".intercalate r.lines

end Candidacy.Report
