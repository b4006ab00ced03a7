import Candidacy.Settings.Schema

/-!
# Settings as a configuration

The configuration that says what the settings say. Possessions that were not set are left out of it.
-/

namespace Candidacy.Settings

/-- The configuration of the settings as a value, and the store that holds its tables. -/
def toValue (c : Settings) (s : Store) : Value × Store :=
  let (logging, s) :=
    s.newTable [(.text "level", .text c.level), (.text "json_logs", .bool c.jsonLogs)]
  match c.possessions with
  | none => s.newTable [(.text "logging", logging)]
  | some ps =>
    let (possessions, s) := s.newList (ps.map .text)
    let (candidate, s) := s.newTable [(.text "possessions", possessions)]
    s.newTable [(.text "candidate", candidate), (.text "logging", logging)]

end Candidacy.Settings
