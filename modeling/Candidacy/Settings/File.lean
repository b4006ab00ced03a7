import Candidacy.Files.Tree
import Candidacy.Settings.Schema
import Candidacy.Yaml.Document

/-!
# Configuration files

A configuration file holds a YAML document in UTF-8. Files are kept under a base by name, and the
file of a name carries the name with a fixed ending.
-/

namespace Candidacy.Settings

def ofBytes (bytes : List UInt8) : Except Fault Settings := do
  let (v, s) ← Yaml.load (.ofBlocks (.ofBytes bytes))
  (ofValue s v).mapError .settings

def pathFor (base : Path) (name : String) : Path := base.join (.ofString (name ++ ".yaml"))

def ofFile (files : FileTree) (path : Path) : Except Fault Settings :=
  if path.names.any (·.contains '\x00') then .error .nullInPath
  else match files.find path with
    | .missing => .error .fileMissing
    | .blocked => .error .fileBehindFile
    | .tooLong => .error .fileNameTooLong
    | .directory => .error .fileIsDirectory
    | .file bytes => ofBytes bytes

/-- The possessions of a candidate about whom nothing is said but these settings: theirs, unless
there are none. -/
def candidatePossessions (c : Settings) : List String :=
  match c.possessions with
  | none | some [] => standardPossessions
  | some ps => ps

end Candidacy.Settings
