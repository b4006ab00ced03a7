/-!
# Binary64 numbers

A number is an infinity or plus or minus a significand below `2 ^ 53` times a power of two, kept
exactly: rounding is integer division, and no machine arithmetic takes part. `ofRatio` takes a
quotient to the nearest number, an exact half to the even neighbour.
-/

namespace Candidacy

/-- The quotient rounded to the nearest integer, an exact half to the even one. -/
def divEven (num den : Nat) : Nat :=
  let q := num / den
  let r := num % den
  if 2 * r < den then q else if den < 2 * r then q + 1 else q + q % 2

/-- An infinity, or `significand * 2 ^ exponent` with a sign. -/
inductive Binary64 where
  | infinite (negative : Bool)
  | finite (negative : Bool) (significand : Nat) (exponent : Int)
  deriving DecidableEq, Repr

namespace Binary64

def minExponent : Int := -1074

def maxExponent : Int := 971

def zero (negative : Bool) : Binary64 := finite negative 0 minExponent

/-- The numerator and denominator of `num / den` divided by `2 ^ e`. -/
def scaled (num den : Nat) (e : Int) : Nat × Nat :=
  (num * Nat.pow 2 (-e).toNat, den * Nat.pow 2 e.toNat)

/-- The exponent of the number nearest to a positive quotient. -/
def exponentFor (num den : Nat) : Int :=
  let guess : Int := (num.log2 : Int) - den.log2 - 52
  let (n, d) := scaled num den guess
  max minExponent (if n < d * Nat.pow 2 52 then guess - 1 else guess)

/-- The number nearest to a quotient with a sign. -/
def ofRatio (negative : Bool) (num den : Nat) : Binary64 :=
  if num = 0 then zero negative else
  let e := exponentFor num den
  let (n, d) := scaled num den e
  let m := divEven n d
  let (m, e) := if m = Nat.pow 2 53 then (Nat.pow 2 52, e + 1) else (m, e)
  if maxExponent < e then infinite negative else finite negative m e

def ofNat (n : Nat) : Binary64 := ofRatio false n 1

/-- The absolute value as a quotient. An infinity has none. -/
def ratio? : Binary64 → Option (Nat × Nat)
  | infinite _ => none
  | finite _ m e => some (scaled m 1 (-e))

/-- Whether the number is below zero or the zero with a minus. -/
def isNegative : Binary64 → Bool
  | infinite s => s
  | finite s _ _ => s

def neg : Binary64 → Binary64
  | infinite s => infinite !s
  | finite s m e => finite (!s) m e

def isZero : Binary64 → Bool
  | infinite _ => false
  | finite _ m _ => m == 0

/-- The integer the number equals, if there is one. -/
def toInt? : Binary64 → Option Int
  | infinite _ => none
  | finite s m e =>
    let (n, d) := scaled m 1 (-e)
    if n % d = 0 then some (if s then -((n / d : Nat) : Int) else (n / d : Nat)) else none

/-- Equality of numbers: the two zeros are equal. -/
def same (x y : Binary64) : Bool := x == y || (x.isZero && y.isZero)

def signed (x : Binary64) (n : Nat) : Int := if x.isNegative then -n else n

/-- The sum of two numbers, rounded. Infinities of different signs have none. -/
def add? (x y : Binary64) : Option Binary64 :=
  match x.ratio?, y.ratio? with
  | some (a, b), some (c, d) =>
    let sum := x.signed (a * d) + y.signed (c * b)
    let negative := if sum = 0 then x.isNegative && y.isNegative else sum < 0
    some (ofRatio negative sum.natAbs (b * d))
  | none, some _ => some x
  | some _, none => some y
  | none, none => if x = y then some x else none

def mul (x y : Binary64) : Binary64 :=
  let negative := x.isNegative != y.isNegative
  match x.ratio?, y.ratio? with
  | some (a, b), some (c, d) => ofRatio negative (a * c) (b * d)
  | _, _ => infinite negative

end Binary64

end Candidacy
