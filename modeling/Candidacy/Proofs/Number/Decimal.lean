import Candidacy.Number.Decimal

/-!
# Digits around a point

A decimal with digits behind the point is written with zeros in front, if it takes any to have a digit
before the point.
-/

namespace Candidacy.Decimal

/-- Digits with zeros in front, so many that one digit at least is left over beside the last
`places`. -/
def zeroPadded (places : Nat) (ds : List Char) : List Char :=
  List.replicate (places + 1 - ds.length) '0' ++ ds

theorem length_zeroPadded (places : Nat) (ds : List Char) :
    (zeroPadded places ds).length = max (places + 1) ds.length := by
  simp only [zeroPadded, List.length_append, List.length_replicate]
  omega

theorem zeroPadded_of_lt {places : Nat} {ds : List Char} (h : places < ds.length) :
    zeroPadded places ds = ds := by
  rw [zeroPadded, show places + 1 - ds.length = 0 by omega]
  rfl

theorem positional_of_append {d : Decimal} (h : d.exponent < 0) {whole fraction : List Char}
    (hdigits : zeroPadded (-d.exponent).toNat (Text.decimal d.coefficient) = whole ++ fraction)
    (hlength : fraction.length = (-d.exponent).toNat) :
    d.positional = whole ++ '.' :: fraction := by
  have hzeros : d.exponent.toNat = 0 := by omega
  have hne : fraction ≠ [] := by
    rw [← List.length_pos_iff]
    omega
  unfold zeroPadded at hdigits
  unfold positional
  simp only [hzeros, List.replicate_zero, List.append_nil, hdigits, List.length_append, hlength,
    Nat.add_sub_cancel, List.take_left, List.drop_left, hne, if_false]

end Candidacy.Decimal
