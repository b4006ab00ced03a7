/-!
# Faults of a configuration

What is wrong with a configuration and where: the place is the path of names and positions that leads
to the value at fault.
-/

namespace Candidacy

/-- A step into a configuration. -/
inductive Step where
  | name (s : String)
  | index (n : Int)
  deriving DecidableEq, Repr

inductive Flaw where
  | unknownName
  | keyNotText
  | notSection (model : String)
  | notList
  | notText
  | notUtf8
  | notFlag
  | unreadableFlag
  | nullInPath
  deriving DecidableEq, Repr

namespace Flaw

def tag : Flaw → String
  | unknownName => "extra_forbidden"
  | keyNotText => "invalid_key"
  | notSection _ => "model_type"
  | notList => "list_type"
  | notText => "string_type"
  | notUtf8 => "string_unicode"
  | notFlag => "bool_type"
  | unreadableFlag => "bool_parsing"
  | nullInPath => "value_error"

def message : Flaw → String
  | unknownName => "Extra inputs are not permitted"
  | keyNotText => "Keys should be strings"
  | notSection model => "Input should be a valid dictionary or instance of " ++ model
  | notList => "Input should be a valid list"
  | notText => "Input should be a valid string"
  | notUtf8 => "Input should be a valid string, unable to parse raw data as a unicode string"
  | notFlag => "Input should be a valid boolean"
  | unreadableFlag => "Input should be a valid boolean, unable to interpret input"
  | nullInPath => "Value error, embedded null byte"

end Flaw

structure SettingsFault where
  place : List Step
  flaw : Flaw
  deriving DecidableEq, Repr

namespace SettingsFault

/-- The faults as seen from one step further out. -/
def under (step : Step) (faults : List SettingsFault) : List SettingsFault :=
  faults.map fun f => { f with place := step :: f.place }

end SettingsFault

/-- Why a configuration was refused: it is no table, or it has faults. -/
inductive SettingsRefusal where
  | notTable
  | faults (all : List SettingsFault)
  deriving DecidableEq, Repr

end Candidacy
