import Candidacy.Log.Entry

/-!
# Log setup

A log shows the events at or above its threshold, one line each. Until it is set up it shows
nothing but keeps the events.
-/

namespace Candidacy

/-- How a log was set up: from which level on it shows events, and in which form. -/
structure LogSetup where
  threshold : Level
  json : Bool
  deriving DecidableEq, Repr

/-- A log that may not have been set up yet. -/
abbrev Log := Option LogSetup

namespace LogSetup

def shows (setup : LogSetup) (e : Event) : Bool := setup.threshold.number ≤ e.level.number

def line (setup : LogSetup) (timestamp : String) (e : Event) : String :=
  if setup.json then e.jsonLine timestamp else e.columnLine timestamp

end LogSetup

namespace Log

/-- The setup that a level text asks for, unless the text is refused. -/
def configure (level : String) (json : Bool) : Except LayoutName LogSetup :=
  (Level.ofText level).map (⟨·, json⟩)

def kept (log : Log) (events : List Event) : List Event :=
  match log with
  | none => events
  | some setup => events.filter setup.shows

def lines (log : Log) (timestamp : String) (events : List Event) : List String :=
  match log with
  | none => []
  | some setup => (events.filter setup.shows).map (setup.line timestamp)

end Log

end Candidacy
