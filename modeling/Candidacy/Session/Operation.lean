import Candidacy.Container
import Candidacy.Input.Companies
import Candidacy.Session.Command
import Candidacy.Settings.Defaults

/-!
# Operations on values

What each operation of a session makes of the values it is given. An operation that a kind of value
does not know is a fault.
-/

namespace Candidacy.Session

def unknownOperation {α : Type} (v : Value) (name : String) : Work α :=
  throw (.input (.noAttribute v.kind name))

namespace Operation

def holds (requirement possessions : Value) : Work Bool :=
  match requirement with
  | .requirement r => do
    let held ← Work.ofInput (Possessions.normalForms · possessions)
    return r.holds held
  | v => unknownOperation v "is_satisfied_by"

def canWork (company possessions : Value) : Work Bool :=
  match company with
  | .company c => do
    let words ← Work.ofInput (Possessions.ofValue · possessions)
    return c.canWork (words.map (·.text))
  | v => unknownOperation v "can_work"

/-- The normal form of an item; of bytes it is made of the ASCII letters and blanks alone. -/
def normalForm : Value → Work Value
  | .text t => return .text (normalizeItem t)
  | .operator op => return .text (normalizeItem op.name)
  | .bytes bs => return .bytes ((Text.trimBytes bs).map Text.lowerByte)
  | v => unknownOperation v "strip"

def distinct (v : Value) : Work Nat := do
  let vs ← Work.ofInput (Companies.walk · v)
  vs.forM Work.unchangeable
  return ((← get).members vs).length

/-- Whether two values are equal, and how many members a set of the two has. -/
def equality (a b : Value) : Work (Bool × Nat) := do
  [a, b].forM Work.unchangeable
  let s ← get
  return (s.equal a b, (s.members [a, b]).length)

def inWords (words : Store → Value → Except Unshowable String) (v : Value) : Work String :=
  Work.ofInput fun s => ((words s v).mapError .unshowable, s)

/-- The fields of an object that stays as it was built. -/
def frozenFields? : Value → Option (List String)
  | .requirement (.item _) => some ["item"]
  | .requirement (.composite ..) => some ["operator", "children"]
  | .company _ | .record .. => some ["name", "requirement"]
  | .verdict _ => some ["eligible", "requirement_description"]
  | _ => none

/-- Whether an object has fields that change. No step of a session changes them: what a session holds
of such an object stays as it is. -/
def isOpen : Value → Bool
  | .settings _ | .report _ | .pipeline _ => true
  | _ => false

def touchField {α : Type} (deleting : Bool) (target : Value) (field : String) : Work α :=
  match frozenFields? target with
  | some fields =>
    throw (if fields.contains field then .frozenField deleting field else .noSuchField)
  | none => if isOpen target then throw (.openField target.kind) else unknownOperation target field

def append (list value : Value) : Work Nat :=
  match list with
  | .list ref => do
    let items := (← get).listItems ref ++ [value]
    modify (·.setList ref items)
    return items.length
  | v => unknownOperation v "append"

def pop (list : Value) : Work Value :=
  match list with
  | .list ref => do
    let items := (← get).listItems ref
    match items.getLast? with
    | some v =>
      modify (·.setList ref items.dropLast)
      return v
    | none => throw .emptyList
  | v => unknownOperation v "pop"

def tableOf {α : Type} (toValue : α → Value) (table : ByName α) : Work Value :=
  Work.ofNew (·.newTable (table.map fun (name, a) => (.text name, toValue a)))

def listOf (companies : List Company) : Work Value :=
  Work.ofNew (·.newList (companies.map .company))

/-- The answer to a question about companies, with the events on the way. -/
def screen (query : Query) (companies possessions : Value) : Work (Traced Value) := do
  let input ← Work.ofInput (Screening.Input.ofValues · companies possessions)
  match query with
  | .eligibility =>
    let answer := Screening.eligibility input.companies input.possessions
    return ⟨← tableOf .bool answer.value, answer.events⟩
  | .verdicts =>
    let answer := Screening.verdicts input.companies input.possessions
    return ⟨← tableOf .verdict answer.value, answer.events⟩
  | .eligible => return ⟨← listOf (Screening.eligible input.companies input.possessions), []⟩
  | .ineligible => return ⟨← listOf (Screening.ineligible input.companies input.possessions), []⟩

def companiesOf (records : Value) : Work Value := do
  listOf (← Work.ofInput (Companies.ofRecordCollection · records))

def companiesUnder (pipeline : Value) (operation : String) : Work Value :=
  match pipeline with
  | .pipeline ref => return (← get).pipelineCompanies ref
  | v => unknownOperation v operation

/-- The companies of a pipeline as a list of its own. -/
def pipelineCompanies (pipeline : Value) : Work Value := do
  let companies ← companiesUnder pipeline "companies"
  let vs ← Work.ofInput (Report.companiesOf · companies)
  Work.ofNew (·.newList vs)

def report (timestamp : String) (companies possessions : Value) : Work (Traced Report) :=
  Work.ofInput (Report.run · companies possessions timestamp)

def settings (configuration : Value) : Work Settings :=
  Work.ofResult fun s =>
    ((Settings.ofValue s configuration).mapError .settings, Settings.afterCheck s configuration)

def base : Value → Work Path
  | .text t => return .ofString t
  | .operator op => return .ofString op.fullName
  | .bytes _ => throw .bytesPath
  | v => throw (.notPath v.kind)

def levelText : Value → Work String
  | .text t => return t
  | .operator op => return op.name
  | .bytes _ => throw (.notAttributeName .bytes)
  | v => unknownOperation v "upper"

def logSetup (level jsonLogs : Value) : Work LogSetup := do
  let text ← levelText level
  match Log.configure text ((← get).truthy jsonLogs) with
  | .ok setup => return setup
  | .error why => throw (.levelRefused why)

end Operation

end Candidacy.Session
