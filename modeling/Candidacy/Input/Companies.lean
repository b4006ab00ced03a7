import Candidacy.Input.Possessions
import Candidacy.Input.Requirement
import Candidacy.Sample

/-!
# Companies handed over

The companies and possessions of a screening, and companies made from plain records. A fault in the
companies is found before one in the possessions. Companies are walked through to the end before they
are looked at; records are taken one by one, up to the first that makes no company.
-/

namespace Candidacy

namespace Companies

def ofList : List Value → Except Kind (List Company)
  | [] => .ok []
  | .company c :: vs => (c :: ·) <$> ofList vs
  | v :: _ => .error v.kind

/-- The values of a collection in order, and the store after the walk to its end. -/
def walk (s : Store) (v : Value) : Except InputFault (List Value) × Store :=
  match s.elements? v with
  | none => (.error (.notIterable v.kind), s)
  | some vs => (.ok vs, s.exhaust v)

def checked (vs : List Value) : Except InputFault (List Company) :=
  (ofList vs).mapError fun kind => .invalid (.companyKind kind)

def ofValue (s : Store) (v : Value) : Except InputFault (List Company) × Store :=
  match v with
  | .none => (.error (.invalid .companiesMissing), s)
  | _ =>
    let (r, s) := walk s v
    (r.bind checked, s)

/-- What a record says under a field name that it may not have. -/
def fieldOf (field : Value → Option Value) (name : String) (v : Value) :
    Except InputFault Value :=
  match field v with
  | some w => .ok w
  | none => .error (.noAttribute v.kind name)

def nameOf? : Value → Option Value
  | .company c => some (.text c.name)
  | .record name _ => some name
  | .operator op => some (.text op.name)
  | _ => none

def requirementOf? : Value → Option Value
  | .company c => some (.ofRequirement? c.requirement)
  | .record _ requirement => some requirement
  | _ => none

def ofRecord (v : Value) : Except InputFault Company := do
  let name ← fieldOf nameOf? "name" v
  let requirement ← fieldOf requirementOf? "requirement" v
  (Company.ofValues name requirement).mapError .invalid

/-- The companies that records describe, and how many records were taken. -/
def ofRecords : List Value → Except InputFault (List Company) × Nat
  | [] => (.ok [], 0)
  | v :: vs =>
    match ofRecord v with
    | .error e => (.error e, 1)
    | .ok c =>
      let (r, count) := ofRecords vs
      (r.map (c :: ·), count + 1)

def ofRecordCollection (s : Store) (v : Value) : Except InputFault (List Company) × Store :=
  match s.elements? v with
  | none => (.error (.notIterable v.kind), s)
  | some vs =>
    let (r, count) := ofRecords vs
    (r, s.advance v count)

end Companies

namespace Screening

structure Input where
  companies : List Company
  possessions : List String

/-- The input of a screening, companies checked first, and the store after the walks. -/
def Input.ofValues (s : Store) (companies possessions : Value) :
    Except InputFault Input × Store :=
  match Companies.ofValue s companies with
  | (.error e, s) => (.error e, s)
  | (.ok cs, s) =>
    let (r, s) := Possessions.ofValue s possessions
    (r.map fun words => ⟨cs, words.map (·.text)⟩, s)

end Screening

namespace Report

/-- The companies that a pipeline reports on, and the store after the walk to their end: those it
was created over, or else the sample companies. -/
def companiesOf (s : Store) (companies : Value) : Except InputFault (List Value) × Store :=
  match companies with
  | .none => (.ok (Sample.companies.map .company), s)
  | v => Companies.walk s v

def possessionsOf (s : Store) (possessions : Value) : Except InputFault (List Value) × Store :=
  match possessions with
  | .none | .text _ | .operator _ | .bytes _ =>
    (.error (.invalid .possessionsNotCollection), s)
  | v => Companies.walk s v

def checkedWords (vs : List Value) : Except InputFault (List Word) :=
  (Possessions.words vs).mapError fun kind => .invalid (.possessionKind kind)

def run (s : Store) (companies possessions : Value) (timestamp : String) :
    Except InputFault (Traced Report) × Store :=
  match possessionsOf s possessions with
  | (.error e, s) => (.error e, s)
  | (.ok given, s) =>
    match companiesOf s companies with
    | (.error e, s) => (.error e, s)
    | (.ok vs, s) =>
      (do
        let cs ← Companies.checked vs
        let words ← checkedWords given
        return draw cs words timestamp, s)

end Report

end Candidacy
