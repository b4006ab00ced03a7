import Candidacy.Fault

/-!
# Refused command lines

Why a command line was refused, before or instead of doing what it asks for, and the names that may
have been meant where a name is unknown.
-/

namespace Candidacy.CommandLine

inductive UsageFault where
  | commandMissing
  | commandUnknown (name : String)
  | optionUnknown (name : String) (similar : List String)
  | valueMissing (name : String)
  | valueUnwanted (name : String)
  | argumentsUnexpected (arguments : List String)
  | configMissing (path : String)
  | configIsDirectory (path : String)
  | configRejected (why : Fault)
  deriving DecidableEq, Repr

/-- A refused command line: what is wrong with it, and the commands that may have been meant. -/
structure Refusal where
  why : UsageFault
  commands : List String
  deriving DecidableEq, Repr

namespace UsageFault

def sentence : UsageFault → String
  | commandMissing => "Missing command."
  | commandUnknown name => "No such command " ++ Text.quoted name ++ "."
  | optionUnknown name _ => "No such option: " ++ name
  | valueMissing name => "Option " ++ Text.quoted name ++ " requires an argument."
  | valueUnwanted name => "Option " ++ Text.quoted name ++ " does not take a value."
  | argumentsUnexpected arguments =>
    "Got unexpected extra argument(s) (" ++ " ".intercalate arguments ++ ")"
  | configMissing path =>
    "Invalid value for '--config': file " ++ Text.quoted path ++ " does not exist."
  | configIsDirectory path =>
    "Invalid value for '--config': file " ++ Text.quoted path ++ " is a directory."
  | configRejected why =>
    "Invalid value for '--config': Invalid config file: " ++
      why.message?.getD "the document cannot be used"

/-- What to say of options that a mistaken one may stand for. -/
def optionHint : UsageFault → String
  | optionUnknown _ [] => ""
  | optionUnknown _ names => " (Possible options: " ++ ", ".intercalate names ++ ")"
  | _ => ""

def refusal (why : UsageFault) : Refusal := ⟨why, []⟩

end UsageFault

/-- The sentence with the commands that may have been meant, in the place of its full stop. -/
def withCommands (commands : List String) (sentence : String) : String :=
  if commands = [] then sentence
  else
    let body := (sentence.toList.reverse.dropWhile (· == '.')).reverse
    String.ofList body ++ ". Did you mean " ++
      ", ".intercalate (commands.map Text.quoted) ++ "?"

/-- The refusal in words, without control characters. -/
def Refusal.message (r : Refusal) : String :=
  Text.escapeControls (withCommands r.commands r.why.sentence ++ r.why.optionHint)

end Candidacy.CommandLine
