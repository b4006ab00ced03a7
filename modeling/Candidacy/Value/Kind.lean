/-!
# Kinds of values

The kinds that error texts tell apart, and their names there.
-/

namespace Candidacy

inductive Kind where
  | none | bool | int | float | text | bytes | list | table | tuple | set | frozenSet
  | simple | composite | company | record | operator | iterator
  | verdict | settings | candidateSection | report | pipeline | date | dateTime
  deriving DecidableEq, Repr

/-- The name of a kind in error texts. -/
def Kind.name : Kind → String
  | none => "NoneType"
  | bool => "bool"
  | int => "int"
  | float => "float"
  | text => "str"
  | bytes => "bytes"
  | list => "list"
  | table => "dict"
  | tuple => "tuple"
  | set => "set"
  | frozenSet => "frozenset"
  | simple => "SimpleRequirement"
  | composite => "CompositeRequirement"
  | company => "Company"
  | record => "CompanyData"
  | operator => "LogicalOperator"
  | iterator => "list_iterator"
  | verdict => "EligibilityResult"
  | settings => "AppConfig"
  | candidateSection => "CandidateConfig"
  | report => "EligibilityReport"
  | pipeline => "EligibilityPipeline"
  | date => "date"
  | dateTime => "datetime"

end Candidacy
