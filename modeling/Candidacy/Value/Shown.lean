import Candidacy.Number.Reading
import Candidacy.Text.Quoted
import Candidacy.Value.Equality

/-!
# Values in words

How error texts show a value: texts in quotes, collections in their brackets, records with their
fields by name. A list, table or set inside itself is shown as dots. Two things cannot be shown: an
integer with too many digits, and what is nested deeper than calls may be.
-/

namespace Candidacy

/-- Parts with a comma and a blank between them. -/
def commaParts (parts : List String) : String := ", ".intercalate parts

def listText (parts : List String) : String := "[" ++ commaParts parts ++ "]"

/-- Parts in round brackets, with a comma behind a single one. -/
def tupleText (parts : List String) : String :=
  "(" ++ commaParts parts ++ (if parts.length = 1 then ",)" else ")")

/-- Parts in curly brackets, nothing at all if there are none. -/
def membersText (parts : List String) : String :=
  if parts = [] then "" else "\x7b" ++ commaParts parts ++ "\x7d"

def callText (name : String) (parts : List String) : String :=
  name ++ "(" ++ commaParts parts ++ ")"

def boolText (b : Bool) : String := if b then "True" else "False"

def Operator.fullName (op : Operator) : String := "LogicalOperator." ++ op.name

def Operator.shown (op : Operator) : String :=
  "<" ++ op.fullName ++ ": " ++ Text.quoted op.name ++ ">"

def Verdict.shown (v : Verdict) : String :=
  callText "EligibilityResult"
    ["eligible=" ++ boolText v.eligible, "requirement_description=" ++ Text.quoted v.description]

def Word.shown : Word → String
  | plain s => Text.quoted s
  | operator op => op.shown

def quotedList (ss : List String) : String := listText (ss.map Text.quoted)

namespace Settings

def sectionTexts (s : Settings) : List String :=
  ["candidate=" ++ callText "CandidateConfig"
      ["possessions=" ++ (match s.possessions with | some ps => quotedList ps | none => "None")],
   "logging=" ++ callText "LoggingConfig"
      ["level=" ++ Text.quoted s.level, "json_logs=" ++ boolText s.jsonLogs]]

def shown (s : Settings) : String := callText "AppConfig" s.sectionTexts

end Settings

def Outcome.shown (o : Outcome) : String :=
  callText "CompanyOutcome"
    ["company=" ++ Text.quoted o.company,
     "eligible=" ++ boolText o.eligible,
     "requirement_description=" ++ Text.quoted o.description,
     "required_items=" ++ quotedList o.requiredItems,
     "missing_items=" ++ quotedList o.missingItems]

def Report.shown (r : Report) : String :=
  callText "EligibilityReport"
    ["possessions=" ++ listText (r.possessions.map (·.shown)),
     "outcomes=" ++ listText (r.outcomes.map (·.shown)),
     "eligible_count=" ++ toString r.eligibleCount,
     "ineligible_count=" ++ toString r.ineligibleCount,
     "success_rate=" ++ r.rate.text,
     "metadata=\x7b" ++ commaParts
        ["'company_count': " ++ toString r.companyCount,
         "'timestamp': " ++ Text.quoted r.timestamp,
         "'app_version': " ++ Text.quoted r.version] ++ "\x7d"]

/-- Why a value cannot be put into words. -/
inductive Unshowable where
  | tooManyDigits
  | tooDeep
  deriving DecidableEq, Repr

namespace Value

/-- The list, table or set that the value refers to, which may lie inside itself. -/
def holder? : Value → Option (Kind × Nat)
  | list ref => some (.list, ref)
  | table ref => some (.table, ref)
  | set ref => some (.set, ref)
  | _ => Option.none

def dots : Value → String
  | list _ => "[...]"
  | table _ => "\x7b...\x7d"
  | _ => "set(...)"

def hasTooManyDigits : Value → Bool
  | int n => Number.isTooLong n
  | _ => false

/-- Keys and values in turn, each pair with a colon between. -/
def entryTexts : List String → List String
  | key :: value :: more => (key ++ ": " ++ value) :: entryTexts more
  | _ => []

/-- The value in words, given its parts in words. -/
def words (v : Value) (parts : List String) : String :=
  match v with
  | none => "None"
  | bool b => boolText b
  | int n => toString n
  | float x => x.text
  | notANumber _ => "nan"
  | text t => Text.quoted t
  | operator op => op.shown
  | bytes bs => Text.quotedBytes bs
  | tuple _ => tupleText parts
  | frozenSet _ => "frozenset(" ++ membersText parts ++ ")"
  | set _ => if parts = [] then "set()" else membersText parts
  | list _ => listText parts
  | table _ => "\x7b" ++ commaParts (entryTexts parts) ++ "\x7d"
  | iterator _ | pipeline _ => "<" ++ v.kind.name ++ " object>"
  | requirement (.item name) => callText "SimpleRequirement" ["item=" ++ Text.quoted name]
  | requirement (.composite op _) =>
    callText "CompositeRequirement" ["operator=" ++ op.shown, "children=" ++ tupleText parts]
  | company c =>
    callText "Company" (("name=" ++ Text.quoted c.name) :: parts.map ("requirement=" ++ ·))
  | record .. => callText "CompanyData" (List.zipWith (· ++ ·) ["name=", "requirement="] parts)
  | verdict w => w.shown
  | settings c => c.shown
  | report r => r.shown
  | moment m => m.shown

end Value

namespace Store

/-- The values that are shown inside a value; of a table each key and then what stands under it. -/
def parts (s : Store) : Value → List Value
  | .tuple items | .frozenSet items => items
  | .set ref => s.setMembers ref
  | .list ref => s.listItems ref
  | .table ref => (s.entries ref).flatMap fun (k, v) => [k, v]
  | .record name requirement => [name, requirement]
  | .requirement (.composite _ children) => children.map .requirement
  | .company c => [(c.requirement.map Value.requirement).getD .none]
  | _ => []

/-- The value in words, given the collections it lies in and how many calls may still be nested. -/
def shownWithin? (s : Store) : Nat → List (Kind × Nat) → Value → Except Unshowable String
  | 0, _, _ => .error .tooDeep
  | room + 1, around, v =>
    if v.holder?.any around.contains then .ok v.dots
    else if v.hasTooManyDigits then .error .tooManyDigits
    else v.words <$> (s.parts v).mapM (shownWithin? s room (v.holder?.toList ++ around))

def callLimit : Nat := 1000

def shown? (s : Store) (v : Value) : Except Unshowable String := s.shownWithin? callLimit [] v

/-- The value as it stands in running text: texts and descriptions bare. -/
def plain? (s : Store) (v : Value) : Except Unshowable String :=
  match v with
  | .text t => .ok t
  | .operator op => .ok op.fullName
  | .requirement r => .ok r.describe
  | .company c => .ok c.describe
  | .settings c => .ok (" ".intercalate c.sectionTexts)
  | _ => s.shown? v

end Store

end Candidacy
