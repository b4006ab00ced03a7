import Candidacy.CommandLine.Arguments

/-!
# Commands

What a command line asks for: a report, the list of the sample companies, or help.
-/

namespace Candidacy.CommandLine

/-- What a report is to be drawn up from, and how it is to be shown. -/
structure RunOptions where
  possessions : List String
  config : Option String
  json : Bool
  logLevel : Option String
  /-- Arguments that the command has no use for. -/
  extra : List String
  deriving DecidableEq, Repr

inductive Command where
  | run (options : RunOptions)
  | companies
  | help
  deriving DecidableEq, Repr

namespace RunOptions

/-- The options in arguments; of a repeated option that is no list the last one counts. -/
def ofArguments (a : Arguments) : RunOptions where
  possessions := a.values .possession
  config := (a.values .config).getLast?
  json := a.has .json
  logLevel := (a.values .logLevel).getLast?
  extra := a.plain

end RunOptions

namespace Command

def names : List String := ["run", "companies"]

/-- The arguments taken apart, where a fault needs no hint. -/
def arguments (rules : List OptionRule) (mixed : Bool) (given : List String) :
    Except Refusal Arguments :=
  (Arguments.read rules mixed given).mapError (·.why.refusal)

def ofRun (given : List String) : Except Refusal Command := do
  let a ← arguments OptionRule.ofRun true given
  return if a.has .help then help else run (.ofArguments a)

def ofCompanies (given : List String) : Except Refusal Command := do
  let a ← arguments OptionRule.plain true given
  if a.has .help then return help
  else if a.plain = [] then return companies
  else throw (UsageFault.argumentsUnexpected a.plain).refusal

/-- The refusal with a hint at the commands that the first of the arguments left may stand for. -/
def hinted (why : UsageFault) : List String → Refusal
  | [] => why.refusal
  | word :: _ => ⟨why, Text.suggestions word names⟩

/-- The command that an unknown name and the arguments behind it make: none, unless the name is an
option. The hint goes by the argument at which the search for options ended. -/
def ofUnknown (name : String) (rest : List String) : Except Refusal Command :=
  match Arguments.read OptionRule.plain false (name :: rest) with
  | .error stop => .error (hinted stop.why stop.unread)
  | .ok a => if a.has .help then .ok help else .error (hinted (.commandUnknown name) a.plain)

def ofArguments (given : List String) : Except Refusal Command := do
  let a ← arguments OptionRule.plain false given
  if a.has .help then return help
  match a.plain with
  | [] => throw UsageFault.commandMissing.refusal
  | name :: rest =>
    if name = "run" then ofRun rest
    else if name = "companies" then ofCompanies rest
    else ofUnknown name rest

end Command

end Candidacy.CommandLine
