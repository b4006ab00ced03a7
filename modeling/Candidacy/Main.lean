import Std.Time.Format
import Candidacy.CommandLine.Execute

/-!
# The program

Reads the configuration file and the clock, carries out the command line, prints its output and
writes the log to the standard error.
-/

namespace Candidacy

/-- The number of the system error for a directory that is read like a file. -/
def directoryErrorCode : UInt32 := 21

def fileEntry (path : String) : IO FileEntry := do
  try
    return .file (← IO.FS.readBinFile path).toList
  catch
    | .inappropriateType _ code _ =>
      return if code == directoryErrorCode then .directory else .missing
    | _ => return .missing

/-- What lies where the arguments look for a configuration file. -/
def configEntry (arguments : List String) : IO FileEntry :=
  match CommandLine.Command.ofArguments arguments with
  | .ok (.run o) =>
    match o.config with
    | some path => fileEntry (Path.ofString path).text
    | none => return .missing
  | _ => return .missing

def timestampNow : IO String := do
  let now ← Std.Time.Timestamp.now
  let time := Std.Time.DateTime.ofTimestamp now Std.Time.TimeZone.ZoneRules.UTC
  return time.format "uuuu-MM-dd'T'HH:mm:ss.SSSSSSXXX"

end Candidacy

open Candidacy in
def main (arguments : List String) : IO UInt32 := do
  let entry ← configEntry arguments
  let ending := (CommandLine.execute (fun _ => entry) (← timestampNow) none arguments).ending
  for line in ending.logLines do IO.eprintln line
  if let some complaint := ending.complaint? then IO.eprintln complaint
  IO.print ending.output
  return ending.exitCode
