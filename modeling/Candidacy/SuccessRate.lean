import Candidacy.Number.Decimal

/-!
# Success rates

The share of companies a candidate may work for, in percent and to one decimal. The percentage is
rounded twice: the quotient to the nearest binary64 number, then that number to the nearest tenth,
an exact half to the even neighbour both times.
-/

namespace Candidacy

/-- A percentage in tenths. -/
structure SuccessRate where
  tenths : Nat
  deriving DecidableEq, Repr, Inhabited

namespace SuccessRate

/-- The number of tenths nearest to a binary64 number that is not negative. -/
def nearestTenth (x : Binary64) : Nat :=
  match x.ratio? with
  | some (num, den) => divEven (10 * num) den
  | none => 0

/-- The rate of `eligible` companies among `total`; none among none is zero. -/
def ofCounts (eligible total : Nat) : SuccessRate :=
  if total = 0 then ⟨0⟩ else ⟨nearestTenth (.ofRatio false (100 * eligible) total)⟩

def decimal (r : SuccessRate) : Decimal := ⟨false, r.tenths, -1⟩

def text (r : SuccessRate) : String := String.ofList r.decimal.positional

end SuccessRate

end Candidacy
