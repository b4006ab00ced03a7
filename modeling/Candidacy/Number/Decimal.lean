import Candidacy.Number.Binary64
import Candidacy.Text.Digits

/-!
# Decimal numbers

A `Decimal` is a signed coefficient times a power of ten. A binary64 number is printed as the
decimal with the fewest digits that reads back as the same number, the nearest one if several do.
-/

namespace Candidacy

/-- A coefficient times `10 ^ exponent`, with a sign. -/
structure Decimal where
  negative : Bool
  coefficient : Nat
  exponent : Int
  deriving DecidableEq, Repr

namespace Decimal

def ratio (d : Decimal) : Nat × Nat :=
  (d.coefficient * Nat.pow 10 d.exponent.toNat, Nat.pow 10 (-d.exponent).toNat)

/-- How many digits the coefficient has in front of the point, or minus the zeros after it. -/
def pointPosition (d : Decimal) : Int := (Text.decimal d.coefficient).length + d.exponent

/-- The nearest binary64 number. Far outside the range the power of ten is not computed. -/
def toBinary64 (d : Decimal) : Binary64 :=
  if d.coefficient = 0 then .zero d.negative
  else if 400 < d.pointPosition then .infinite d.negative
  else if d.pointPosition < -400 then .zero d.negative
  else .ofRatio d.negative d.ratio.1 d.ratio.2

/-- The power of ten at or below a positive quotient. -/
def magnitude (num den : Nat) : Int :=
  if den ≤ num then ((Text.decimal (num / den)).length : Int) - 1
  else
    let t := (Text.decimal (den / num)).length
    if den ≤ num * Nat.pow 10 (t - 1) then -((t : Int) - 1) else -(t : Int)

/-- Of the two decimals with the given exponent around a number, the nearest that reads back; of two
that are equally near the one with the even last digit. -/
def neighbour? (x : Binary64) (num den : Nat) (exponent : Int) : Option Decimal :=
  let n := num * Nat.pow 10 (-exponent).toNat
  let d := den * Nat.pow 10 exponent.toNat
  let below : Decimal := ⟨x.isNegative, n / d, exponent⟩
  let above : Decimal := ⟨x.isNegative, n / d + 1, exponent⟩
  match below.toBinary64 == x, above.toBinary64 == x with
  | true, true => some (if divEven n d = n / d then below else above)
  | true, false => some below
  | false, true => some above
  | false, false => none

/-- The decimal with the fewest digits, up to the given count, that reads back. -/
def shortestFrom (x : Binary64) (num den : Nat) (magnitude : Int) (digits : Nat) :
    Nat → Option Decimal
  | 0 => none
  | more + 1 =>
    match neighbour? x num den (magnitude - digits) with
    | some d => some d
    | none => shortestFrom x num den magnitude (digits + 1) more

/-- The same number without up to `count` zeros at the end of the coefficient. -/
def dropZeros (d : Decimal) : Nat → Decimal
  | 0 => d
  | count + 1 =>
    if d.coefficient % 10 = 0 then
      dropZeros ⟨d.negative, d.coefficient / 10, d.exponent + 1⟩ count
    else d

/-- The shortest decimal that reads back as the number. An infinity has none. -/
def shortest? (x : Binary64) : Option Decimal :=
  match x.ratio? with
  | none => none
  | some (num, den) =>
    if num = 0 then some ⟨x.isNegative, 0, 0⟩
    else (shortestFrom x num den (magnitude num den) 0 17).map (·.dropZeros 17)

def positional (d : Decimal) : List Char :=
  let digits := Text.decimal d.coefficient
  let digits := digits ++ List.replicate d.exponent.toNat '0'
  let places := (-d.exponent).toNat
  let digits := List.replicate (places + 1 - digits.length) '0' ++ digits
  let whole := digits.take (digits.length - places)
  let fraction := digits.drop (digits.length - places)
  whole ++ '.' :: (if fraction = [] then ['0'] else fraction)

/-- One digit in front of the point, and an exponent with a sign and two digits or more. -/
def scientific (d : Decimal) : List Char :=
  let digits := Text.decimal d.coefficient
  let power := d.pointPosition - 1
  let fraction := digits.drop 1
  digits.take 1 ++ (if fraction = [] then [] else '.' :: fraction) ++
    'e' :: (if power < 0 then '-' else '+') :: Text.decimalPadded 2 power.natAbs

/-- The text of a decimal: positional from `0.0001` up to sixteen digits before the point. -/
def render (d : Decimal) : List Char :=
  let body :=
    if d.coefficient = 0 then ['0', '.', '0']
    else if -4 < d.pointPosition ∧ d.pointPosition ≤ 16 then d.positional
    else d.scientific
  if d.negative then '-' :: body else body

end Decimal

def Binary64.text (x : Binary64) : String :=
  match Decimal.shortest? x with
  | some d => String.ofList d.render
  | none => if x.isNegative then "-inf" else "inf"

end Candidacy
