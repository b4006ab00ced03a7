import Candidacy.CommandLine.Execute
import Candidacy.Log.Root
import Candidacy.Session.Term

/-!
# Commands and answers of a session

A command asks for one operation on values, and an answer tells what it gave. Terms in a command are
evaluated in the order in which the command names them, all before the operation begins.
-/

namespace Candidacy.Session

inductive Query where
  | eligibility
  | eligible
  | ineligible
  | verdicts
  deriving DecidableEq, Repr

inductive Command where
  | make (value : Term)
  | view (value : Term)
  | holds (requirement possessions : Term)
  | canWork (company possessions : Term)
  | readOperator (value : Term)
  | normalizeItem (value : Term)
  | normalizePossessions (possessions : Term)
  | equal (a b : Term)
  | distinct (values : Term)
  | setField (target : Term) (field : String) (value : Term)
  | eraseField (target : Term) (field : String)
  | append (list value : Term)
  | pop (list : Term)
  | screen (query : Query) (companies possessions : Term)
  | sampleCompanies
  | companiesOf (records : Term)
  | newPipeline (companies : Term)
  | pipelineCompanies (pipeline : Term)
  | run (pipeline possessions : Term)
  | runOver (companies possessions : Term)
  | loadSettings (configuration : Term)
  | settingsFile (files : FileTree) (name : Term)
  | pathFor (base name : Term)
  | container (settings : Term) (run : Bool)
  | configureLog (level jsonLogs : Term)
  | commandLine (files : FileTree) (arguments : List String)

/-- What the log makes of the events of an operation: those it keeps, and the lines it shows. -/
structure Trace where
  events : List Event
  lines : List String
  deriving DecidableEq, Repr

def Trace.ofEvents (log : Log) (timestamp : String) (events : List Event) : Trace :=
  ⟨log.kept events, log.lines timestamp events⟩

/-- What a command that succeeds answers. -/
inductive Answer where
  | value (v : Value)
  | view (v : Value) (plain shown : String)
  | equality (equal : Bool) (members : Nat)
  | traced (v : Value) (trace : Trace)
  | possessions (given : List Value) (run : Option (Report × Trace))
  | configured (setup : LogSetup)
  | commandLine (completion : CommandLine.Completion)

namespace Answer

/-- The value that the answer gives to whoever wants to keep it. -/
def toValue : Answer → Value
  | value v | view v .. | traced v _ => v
  | equality equal _ => .bool equal
  | possessions .. | configured _ | commandLine _ => .none

def logAfter (log : Log) : Answer → Log
  | configured setup => some setup
  | commandLine completion => completion.log
  | _ => log

def rootAfter (root : RootLogger) : Answer → RootLogger
  | configured setup => root.setUp setup
  | commandLine ⟨.failed (.levelRefused _), _⟩ => root.withHandler
  | commandLine completion => root.underLog completion.log
  | _ => root

end Answer

/-- The root logger after a command failed. -/
def Command.rootAfter (root : RootLogger) : Command → Fault → RootLogger
  | configureLog .., .levelRefused _ => root.withHandler
  | _, _ => root

end Candidacy.Session
