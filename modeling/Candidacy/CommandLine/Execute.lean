import Candidacy.CommandLine.Command
import Candidacy.Log.Setup
import Candidacy.Report.Document
import Candidacy.Report.Text
import Candidacy.Sample
import Candidacy.Settings.File

/-!
# Carrying out commands

`CommandLine.execute` carries out what a list of arguments asks for and tells what the command writes:
its output, and the lines it adds to the log. A command line that is refused writes nothing. The log
is set up before the report is drawn up and stays as it was set up. Output is what a terminal gets:
elsewhere the sequences that set a terminal's colours are taken out of it, should a text hold any.
Of a request for help only the ending is told, not the text.
-/

namespace Candidacy.CommandLine

/-- How a command line ends: with its output and log lines, with help, refused, or with a fault of the
log. -/
inductive Ending where
  | done (output : String) (logLines : List String)
  | helped
  | refused (why : Refusal)
  | failed (why : Fault)
  deriving DecidableEq, Repr

namespace Ending

/-- What the command line prints. -/
def output : Ending → String
  | done output _ => output
  | helped | refused _ | failed _ => ""

def logLines : Ending → List String
  | done _ lines => lines
  | helped | refused _ | failed _ => []

def complaint? : Ending → Option String
  | done .. | helped => none
  | refused why => some why.message
  | failed why => some (why.message?.getD "The configuration file cannot be read.")

def exitCode : Ending → UInt32
  | done .. | helped => 0
  | refused _ => 2
  | failed _ => 1

end Ending

/-- What a command line leaves behind: its ending and the log. -/
structure Completion where
  ending : Ending
  log : Log

def companiesText : String :=
  String.join (Sample.companies.map fun c =>
    Report.companyLine c.name c.requirementDescription ++ "\n")

namespace RunOptions

def refused (why : UsageFault) : Ending := .refused why.refusal

/-- Why a configuration cannot be used: what is wrong with its contents counts against the command
line, and bytes that are no text do not. -/
def configFault (why : Fault) : Ending :=
  match why with
  | .settings _ | .yaml | .notScannable _ => refused (.configRejected why)
  | _ => .failed why

/-- The contents of a configuration file, which must be there when the command line is read. -/
def configBytes (files : Path → FileEntry) (path : String) : Except Ending (List UInt8) :=
  if path.contains '\x00' then
    .error (refused (.configRejected (.settings (.faults [⟨[], .nullInPath⟩]))))
  else match files (.ofString path) with
    | .file bytes => .ok bytes
    | .directory => .error (refused (.configIsDirectory path))
    | .missing | .blocked | .tooLong => .error (refused (.configMissing path))

def configBytes? (files : Path → FileEntry) (o : RunOptions) :
    Except Ending (Option (List UInt8)) :=
  match o.config with
  | none => .ok none
  | some path => some <$> configBytes files path

/-- The settings in the contents of a configuration file, or those of an empty one. -/
def settingsOf : Option (List UInt8) → Except Ending Settings
  | none => .ok .default
  | some bytes => (Settings.ofBytes bytes).mapError configFault

/-- The settings that the options name. A file that is not there is found out before arguments that
the command has no use for, and what is wrong with the contents of the file after them. -/
def settings (files : Path → FileEntry) (o : RunOptions) : Except Ending Settings := do
  let bytes ← configBytes? files o
  if o.extra ≠ [] then throw (refused (.argumentsUnexpected o.extra))
  settingsOf bytes

/-- The log level to use: that of the options unless it is missing or empty. -/
def levelWith (o : RunOptions) (c : Settings) : String :=
  match o.logLevel with
  | none | some "" => c.level
  | some level => level

def possessionsWith (o : RunOptions) (c : Settings) : List String :=
  if o.possessions = [] then c.candidatePossessions else o.possessions

/-- The report on the sample companies, as JSON or as text; on a terminal it is printed as it is. -/
def output (o : RunOptions) (r : Report) : String := (if o.json then r.jsonText else r.text) ++ "\n"

/-- Draws up the report that the options ask for. -/
def execute (files : Path → FileEntry) (timestamp : String) (log : Log) (o : RunOptions) :
    Completion :=
  match o.settings files with
  | .error ending => ⟨ending, log⟩
  | .ok c =>
    match Log.configure (o.levelWith c) c.jsonLogs with
    | .error why => ⟨.failed (.levelRefused why), log⟩
    | .ok setup =>
      let report := Report.draw Sample.companies ((o.possessionsWith c).map .plain) timestamp
      let log : Log := some setup
      ⟨.done (o.output report.value) (log.lines timestamp report.events), log⟩

end RunOptions

/-- Carries out what a list of arguments asks for; `files` tells what lies where. -/
def execute (files : Path → FileEntry) (timestamp : String) (log : Log) (arguments : List String) :
    Completion :=
  match Command.ofArguments arguments with
  | .error why => ⟨.refused why, log⟩
  | .ok .help => ⟨.helped, log⟩
  | .ok .companies => ⟨.done companiesText [], log⟩
  | .ok (.run o) => o.execute files timestamp log

end Candidacy.CommandLine
