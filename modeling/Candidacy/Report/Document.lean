import Candidacy.Json.Printer
import Candidacy.Report.Basic

/-!
# The report as a JSON document
-/

namespace Candidacy

def Outcome.document (o : Outcome) : Json :=
  .object [
    ("company", .text o.company),
    ("eligible", .bool o.eligible),
    ("requirement_description", .text o.description),
    ("required_items", .texts o.requiredItems),
    ("missing_items", .texts o.missingItems)]

namespace Report

def document (r : Report) : Json :=
  .object [
    ("possessions", .texts (r.possessions.map (·.text))),
    ("outcomes", .array (r.outcomes.map (·.document))),
    ("eligible_count", .integer r.eligibleCount),
    ("ineligible_count", .integer r.ineligibleCount),
    ("success_rate", .decimal r.rate.decimal),
    ("metadata", .object [
      ("company_count", .integer r.companyCount),
      ("timestamp", .text r.timestamp),
      ("app_version", .text r.version)])]

/-- The JSON document of the report, laid out over several lines. -/
def jsonText (r : Report) : String := r.document.indented

end Report

end Candidacy
