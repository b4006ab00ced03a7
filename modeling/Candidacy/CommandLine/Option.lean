/-!
# Options of the command line

An option is written by its long name behind two dashes or by its letter behind one. Some options take
a value: behind an equals sign or, for a letter, directly behind it, and otherwise as the next
argument, whatever that looks like.
-/

namespace Candidacy.CommandLine

/-- What an option is about. -/
inductive Choice where
  | possession
  | config
  | json
  | logLevel
  | help
  deriving DecidableEq, Repr

/-- How an option is written. -/
structure OptionRule where
  choice : Choice
  name : String
  letter : Option Char
  takesValue : Bool

/-- An option that was given, with its value if it takes one. -/
structure Setting where
  choice : Choice
  value : String
  deriving DecidableEq, Repr

namespace OptionRule

/-- The option that asks for help; every command knows it. -/
def help : OptionRule := ⟨.help, "--help", none, false⟩

def ofRun : List OptionRule := [
  ⟨.possession, "--possession", some 'p', true⟩,
  ⟨.config, "--config", none, true⟩,
  ⟨.json, "--json", none, false⟩,
  ⟨.logLevel, "--log-level", none, true⟩,
  help]

def plain : List OptionRule := [help]

end OptionRule

end Candidacy.CommandLine
