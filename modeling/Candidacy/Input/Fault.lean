import Candidacy.Value.Shown

/-!
# Refused input

Why a requirement, a company, a list of companies or a collection of possessions was refused.
-/

namespace Candidacy

/-- What is wrong with the parts of a requirement, a company or a screening. -/
inductive InvalidInput where
  | operatorMissing
  | operatorUnknown (shown : String)
  | itemBlank
  | partsEmpty
  | partsNotSequence
  | partMissing
  | partKind (kind : Kind)
  | nameBlank
  | requirementKind (kind : Kind)
  | possessionsMissing
  | possessionsText
  | possessionKind (kind : Kind)
  | possessionsNotCollection
  | companiesMissing
  | companyKind (kind : Kind)
  deriving DecidableEq, Repr

namespace InvalidInput

def message : InvalidInput → String
  | operatorMissing => "Operator cannot be None"
  | operatorUnknown shown => "Unknown logical operator: " ++ shown
  | itemBlank => "Required item cannot be None or empty"
  | partsEmpty => "Sub-requirements cannot be None or empty"
  | partsNotSequence => "Sub-requirements must be a sequence of requirements"
  | partMissing => "Sub-requirements cannot contain None elements"
  | partKind kind => "Sub-requirement must be a requirement, got " ++ kind.name
  | nameBlank => "Company name cannot be None or empty"
  | requirementKind kind => "Company requirement must be a requirement, got " ++ kind.name
  | possessionsMissing => "Possessions cannot be None"
  | possessionsText => "Possessions must be a collection of strings, not a single string"
  | possessionKind kind => "Possession must be a string, got " ++ kind.name
  | possessionsNotCollection => "Possessions must be a collection of strings"
  | companiesMissing => "Companies list cannot be None"
  | companyKind kind => "Expected Company instances, got " ++ kind.name

end InvalidInput

/-- Why input was refused, or why a value could not be used at all where it was handed over or even
be named in a refusal. -/
inductive InputFault where
  | invalid (why : InvalidInput)
  | notIterable (kind : Kind)
  | noAttribute (kind : Kind) (name : String)
  | unshowable (why : Unshowable)
  deriving DecidableEq, Repr

namespace InputFault

def message : InputFault → String
  | invalid why => why.message
  | notIterable kind => "'" ++ kind.name ++ "' object is not iterable"
  | noAttribute kind name => "'" ++ kind.name ++ "' object has no attribute '" ++ name ++ "'"
  | unshowable .tooManyDigits =>
    "Exceeds the limit (" ++ toString Number.digitLimit ++ " digits) for integer string " ++
      "conversion; use sys.set_int_max_str_digits() to increase the limit"
  | unshowable .tooDeep =>
    "maximum recursion depth exceeded while getting the repr of an object"

end InputFault

end Candidacy
