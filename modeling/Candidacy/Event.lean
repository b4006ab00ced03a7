import Candidacy.SuccessRate

/-!
# Events

What a screening reports to its log while it works.
-/

namespace Candidacy

inductive Event where
  | duplicateCompany (company : String)
  | result (company : String) (eligible : Bool) (requirement : String)
  | summary (eligible ineligible : Nat) (rate : SuccessRate)
  deriving DecidableEq, Repr

/-- A value together with the events that led to it, in order. -/
structure Traced (α : Type) where
  value : α
  events : List Event

end Candidacy
