import Candidacy.Operator

/-!
# Words

A string as callers hand it over: plain text or an operator, which counts as the string of its name.
-/

namespace Candidacy

/-- A string, or an operator that stands for its name. -/
inductive Word where
  | plain (s : String)
  | operator (op : Operator)
  deriving DecidableEq, Repr

namespace Word

def text : Word → String
  | plain s => s
  | operator op => op.name

end Word

end Candidacy
