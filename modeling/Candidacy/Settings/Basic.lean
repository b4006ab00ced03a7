/-!
# Settings

What a configuration sets: the possessions assumed when none are given, and the log.
-/

namespace Candidacy

structure Settings where
  possessions : Option (List String)
  level : String
  jsonLogs : Bool
  deriving DecidableEq, Repr

namespace Settings

/-- The settings of an empty configuration. -/
def default : Settings := ⟨none, "INFO", true⟩

/-- The possessions of a candidate about whom nothing is said. -/
def standardPossessions : List String := ["bike", "driving license"]

end Settings

end Candidacy
