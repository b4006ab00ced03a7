import Candidacy.Number.Decimal
import Candidacy.Text.Blank
import Candidacy.Text.LetterCase

/-!
# Numbers read from free text

White space around the number is dropped, single underscores may stand between digits, and digits
of any script count. A floating point number may be an infinity or not a number at all; an integer
is read in a base of the caller's choice. Numerals that do not convert digit by digit are limited in
length, both read and written.
-/

namespace Candidacy.Number

inductive Reading where
  | notANumber
  | number (x : Binary64)
  deriving DecidableEq, Repr

namespace Reading

def neg : Reading → Reading
  | notANumber => notANumber
  | number x => number x.neg

/-- The product with a number that is neither zero nor infinite. -/
def times (y : Binary64) : Reading → Reading
  | notANumber => notANumber
  | number x => number (x.mul y)

/-- The sum of two readings. Infinities of different signs have no number for a sum. -/
def add : Reading → Reading → Reading
  | number x, number y =>
    match x.add? y with
    | some z => number z
    | none => notANumber
  | _, _ => notANumber

end Reading

/-- Drops the underscores, each of which must stand between two digits. -/
def withoutUnderscores? (isDigit : Char → Bool) (previous : Char) : List Char → Option (List Char)
  | [] => if previous = '_' then none else some []
  | c :: cs =>
    if c = '_' then
      if isDigit previous then withoutUnderscores? isDigit c cs else none
    else if previous = '_' && !isDigit c then none
    else (c :: ·) <$> withoutUnderscores? isDigit c cs

/-- Whether the character may stand around a number: white space but for the information separators. -/
def isPadding (c : Char) : Bool := Text.isBlank c && !(0x1C ≤ c.toNat && c.toNat ≤ 0x1F)

/-- The text without padding, the decimal digits of every script as ASCII digits. -/
def canonical (cs : List Char) : List Char :=
  let inner := cs.dropWhile isPadding
  (inner.reverse.dropWhile isPadding).reverse.map Text.toAsciiDigit

def splitSign : List Char → Bool × List Char
  | '-' :: cs => (true, cs)
  | '+' :: cs => (false, cs)
  | cs => (false, cs)

def exponent? (cs : List Char) : Option Int :=
  let (negative, digits) := splitSign cs
  if digits = [] || !digits.all Text.isDigit then none
  else some (if negative then -(Text.number digits : Int) else Text.number digits)

/-- A decimal: digits with a point among them or at an end, and maybe an exponent. -/
def decimal? (negative : Bool) (cs : List Char) : Option Decimal :=
  let whole := cs.takeWhile Text.isDigit
  let rest := cs.dropWhile Text.isDigit
  let (fraction, rest) := match rest with
    | '.' :: more => (more.takeWhile Text.isDigit, more.dropWhile Text.isDigit)
    | _ => ([], rest)
  if whole = [] ∧ fraction = [] then none
  else do
    let power ← match rest with
      | [] => some 0
      | c :: more => if c = 'e' ∨ c = 'E' then exponent? more else none
    some ⟨negative, Text.number (whole ++ fraction), power - fraction.length⟩

def read? (s : String) : Option Reading := do
  let cs ← withoutUnderscores? Text.isDigit ' ' (canonical s.toList)
  let (negative, body) := splitSign cs
  match String.ofList (Text.lowerChars body) with
  | "nan" => some .notANumber
  | "inf" | "infinity" => some (.number (.infinite negative))
  | _ => (.number ∘ Decimal.toBinary64) <$> decimal? negative body

def digitValue (c : Char) : Nat :=
  if '0' ≤ c ∧ c ≤ '9' then c.toNat - 48
  else if 'a' ≤ c ∧ c ≤ 'z' then c.toNat - 87
  else if 'A' ≤ c ∧ c ≤ 'Z' then c.toNat - 55
  else 36

/-- The most digits of a numeral in a base that is no power of two. -/
def digitLimit : Nat := 4300

/-- Whether numerals in the base convert digit by digit, and so may have any length. -/
def isBinaryBase (base : Nat) : Bool := [2, 4, 8, 16, 32].contains base

/-- Whether the decimal numeral of an integer would have too many digits. -/
def isTooLong (n : Int) : Bool := Nat.pow 10 digitLimit ≤ n.natAbs

inductive IntRefusal where
  | notInteger
  | tooLong (digits : Nat)
  deriving DecidableEq, Repr

/-- The numeral behind the mark of its base, where a text has that mark. -/
def unmarked (base : Nat) : List Char → List Char
  | '0' :: c :: rest =>
    if (base == 2 && (c == 'b' || c == 'B')) || (base == 8 && (c == 'o' || c == 'O'))
        || (base == 16 && (c == 'x' || c == 'X')) then
      match rest with
      | '_' :: rest => rest
      | _ => rest
    else '0' :: c :: rest
  | cs => cs

/-- The integer that a text denotes in a base. Too many digits are found out before other characters
behind them. -/
def readInt (base : Nat) (s : String) : Except IntRefusal Int :=
  let (negative, body) := splitSign (canonical s.toList)
  let body := unmarked base body
  let isDigit := fun c => digitValue c < base
  let numeral := body.takeWhile fun c => isDigit c || c == '_'
  match withoutUnderscores? isDigit ' ' numeral with
  | none => .error .notInteger
  | some digits =>
    if !isBinaryBase base && digitLimit < digits.length then .error (.tooLong digits.length)
    else if digits = [] || numeral.length < body.length then .error .notInteger
    else
      let n := digits.foldl (fun n c => base * n + digitValue c) 0
      .ok (if negative then -(n : Int) else n)

end Candidacy.Number
