import Candidacy.Event
import Candidacy.Json.Printer
import Candidacy.Log.Level
import Candidacy.Text.Blank
import Candidacy.Text.Quoted
import Candidacy.Text.Sorted

/-!
# Log entries

An event as one line of text: a JSON object, or columns for people to read with the fields behind
them in the order of their names.
-/

namespace Candidacy

/-- The value of a field of an event. -/
inductive Detail where
  | text (s : String)
  | flag (b : Bool)
  | count (n : Nat)
  | rate (r : SuccessRate)
  deriving DecidableEq, Repr

namespace Detail

def json : Detail → Json
  | text s => .text s
  | flag b => .bool b
  | count n => .integer n
  | rate r => .decimal r.decimal

/-- Whether a bare text could be taken for something else in a line of columns. -/
def isAmbiguous (c : Char) : Bool := [' ', '\t', '=', '\r', '\n', '"', '\''].contains c

def column : Detail → String
  | text s => if s.toList.any isAmbiguous then Text.quoted s else s
  | flag b => if b then "True" else "False"
  | count n => toString n
  | rate r => r.text

end Detail

namespace Event

def name : Event → String
  | duplicateCompany _ => "eligibility.duplicate_company"
  | result .. => "eligibility.result"
  | summary .. => "eligibility.summary"

def level : Event → Level
  | duplicateCompany _ => .warning
  | result .. | summary .. => .info

def details : Event → List (String × Detail)
  | duplicateCompany company => [("company", .text company)]
  | result company eligible requirement =>
    [("company", .text company), ("eligible", .flag eligible), ("requirement", .text requirement)]
  | summary eligible ineligible rate =>
    [("eligible", .count eligible), ("ineligible", .count ineligible), ("success_rate", .rate rate)]

def jsonLine (timestamp : String) (e : Event) : String :=
  (Json.object (e.details.map (fun (k, d) => (k, d.json)) ++
    [("event", .text e.name), ("timestamp", .text timestamp), ("level", .text e.level.name)])).line

/-- The event as columns: time, level, name and fields, without blanks at the end. -/
def columnLine (timestamp : String) (e : Event) : String :=
  let fields := (Text.sortedOn (·.1) e.details).map fun (k, d) => k ++ "=" ++ d.column
  let line := timestamp ++ " [" ++ Text.padded 9 e.level.name ++ "] " ++ Text.padded 30 e.name ++
    " " ++ " ".intercalate fields
  String.ofList (line.toList.reverse.dropWhile (· == ' ')).reverse

end Event

end Candidacy
