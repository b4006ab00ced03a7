import Candidacy.Log.Setup

/-!
# The root logger

All log entries of a process pass through one root logger, which writes those from a level on to its
handlers. Setting up a log installs a handler for the standard error, once, and then sets the level of
the root logger. A level that is refused is so only after the handler was installed.
-/

namespace Candidacy

/-- The root logger of a process: how many handlers for the standard error it has, and from which level
on it passes entries to them. -/
structure RootLogger where
  handlers : Nat
  level : Level
  deriving DecidableEq, Repr

namespace RootLogger

def start : RootLogger := ⟨0, .warning⟩

/-- The root logger with a handler, which is installed if there is none. -/
def withHandler (r : RootLogger) : RootLogger :=
  if r.handlers = 0 then { r with handlers := 1 } else r

def setUp (r : RootLogger) (setup : LogSetup) : RootLogger :=
  { r.withHandler with level := setup.threshold }

def underLog (r : RootLogger) : Log → RootLogger
  | none => r
  | some setup => r.setUp setup

end RootLogger

end Candidacy
