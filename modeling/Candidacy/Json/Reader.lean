import Candidacy.Json.Basic
import Candidacy.Text.Digits

/-!
# Reading JSON text

`Json.read?` takes one JSON value with white space around it and nothing else. Two escapes that
together spell a character beyond the first plane are read as that character; one of them alone is
read as the replacement character.
-/

namespace Candidacy.Json

/-- Whether JSON lets the character stand between values. -/
def isGap (c : Char) : Bool := c == ' ' || c == '\n' || c == '\r' || c == '\t'

def skipGap (cs : List Char) : List Char := cs.dropWhile isGap

def shortEscape? : Char → Option Char
  | '"' => some '"'
  | '\\' => some '\\'
  | '/' => some '/'
  | 'n' => some '\n'
  | 'r' => some '\r'
  | 't' => some '\t'
  | 'f' => some '\x0c'
  | 'b' => some '\x08'
  | _ => none

/-- Whether the number is the first half of a pair of UTF-16 units. -/
def isHigh (n : Nat) : Bool := 0xD800 ≤ n && n < 0xDC00

def isLow (n : Nat) : Bool := 0xDC00 ≤ n && n < 0xE000

def unitChar (n : Nat) : Char := if isHigh n || isLow n then '\uFFFD' else Char.ofNat n

/-- The character of two UTF-16 units. -/
def pairChar (high low : Nat) : Char :=
  Char.ofNat (0x10000 + (high - 0xD800) * 0x400 + (low - 0xDC00))

/-- The contents of a text up to its closing quote, and what follows the quote. -/
def readText (pending : Option Nat) : List Char → Option (List Char × List Char)
  | [] => none
  | '"' :: rest => some (pending.toList.map unitChar, rest)
  | '\\' :: 'u' :: a :: b :: c :: d :: rest => do
    let unit ← Text.hexNumber? [a, b, c, d]
    match pending with
    | some high =>
      if isLow unit then
        let (cs, rest) ← readText none rest
        return (pairChar high unit :: cs, rest)
      else if isHigh unit then
        let (cs, rest) ← readText (some unit) rest
        return (unitChar high :: cs, rest)
      else
        let (cs, rest) ← readText none rest
        return (unitChar high :: unitChar unit :: cs, rest)
    | none =>
      if isHigh unit then readText (some unit) rest
      else
        let (cs, rest) ← readText none rest
        return (unitChar unit :: cs, rest)
  | '\\' :: c :: rest => do
    let e ← shortEscape? c
    let (cs, rest) ← readText none rest
    return (pending.toList.map unitChar ++ e :: cs, rest)
  | c :: rest =>
    if c.toNat < 0x20 ∨ c = '\\' then none
    else do
      let (cs, rest) ← readText none rest
      return (pending.toList.map unitChar ++ c :: cs, rest)

/-- The digits in front: a zero alone, or digits that start with another one. -/
def readWhole : List Char → Option (List Char × List Char)
  | '0' :: rest => some (['0'], rest)
  | cs =>
    let digits := cs.takeWhile Text.isDigit
    if digits = [] then none else some (digits, cs.dropWhile Text.isDigit)

def readExponent : List Char → Option (Option Int × List Char)
  | c :: rest =>
    if c = 'e' ∨ c = 'E' then
      let (negative, rest) := match rest with
        | '-' :: more => (true, more)
        | '+' :: more => (false, more)
        | more => (false, more)
      let digits := rest.takeWhile Text.isDigit
      if digits = [] then none
      else
        let n : Int := Text.number digits
        some (some (if negative then -n else n), rest.dropWhile Text.isDigit)
    else some (none, c :: rest)
  | [] => some (none, [])

/-- A number without its sign: an integer unless it has a point or an exponent. -/
def readNumber (negative : Bool) (cs : List Char) : Option (Json × List Char) := do
  let (whole, rest) ← readWhole cs
  let (fraction, rest) ← match rest with
    | '.' :: more =>
      let digits := more.takeWhile Text.isDigit
      if digits = [] then none else some (digits, more.dropWhile Text.isDigit)
    | _ => some ([], rest)
  let (power, rest) ← readExponent rest
  if fraction = [] ∧ power = none then
    let n : Int := Text.number whole
    return (integer (if negative then -n else n), rest)
  else
    let d : Decimal := ⟨negative, Text.number (whole ++ fraction), power.getD 0 - fraction.length⟩
    return (decimal d, rest)

mutual
/-- A value in front of the text, nested at most `fuel` deep and wide. -/
def readValue : Nat → List Char → Option (Json × List Char)
  | 0, _ => none
  | fuel + 1, cs =>
    match skipGap cs with
    | 'n' :: 'u' :: 'l' :: 'l' :: rest => some (null, rest)
    | 't' :: 'r' :: 'u' :: 'e' :: rest => some (bool true, rest)
    | 'f' :: 'a' :: 'l' :: 's' :: 'e' :: rest => some (bool false, rest)
    | '"' :: rest => do
      let (s, rest) ← readText none rest
      return (text (String.ofList s), rest)
    | '[' :: rest =>
      match skipGap rest with
      | ']' :: rest => some (array [], rest)
      | rest => do
        let (items, rest) ← readItems fuel rest
        return (array items, rest)
    | '\x7b' :: rest =>
      match skipGap rest with
      | '\x7d' :: rest => some (object [], rest)
      | rest => do
        let (fields, rest) ← readFields fuel rest
        return (object fields, rest)
    | '-' :: rest => readNumber true rest
    | rest => readNumber false rest

def readItems : Nat → List Char → Option (List Json × List Char)
  | 0, _ => none
  | fuel + 1, cs => do
    let (item, rest) ← readValue fuel cs
    match skipGap rest with
    | ',' :: rest => do
      let (items, rest) ← readItems fuel rest
      return (item :: items, rest)
    | ']' :: rest => return ([item], rest)
    | _ => none

def readFields : Nat → List Char → Option (List (String × Json) × List Char)
  | 0, _ => none
  | fuel + 1, cs =>
    match skipGap cs with
    | '"' :: rest => do
      let (name, rest) ← readText none rest
      match skipGap rest with
      | ':' :: rest => do
        let (value, rest) ← readValue fuel rest
        match skipGap rest with
        | ',' :: rest => do
          let (fields, rest) ← readFields fuel rest
          return ((String.ofList name, value) :: fields, rest)
        | '\x7d' :: rest => return ([(String.ofList name, value)], rest)
        | _ => none
      | _ => none
    | _ => none
end

/-- The value that a text consists of. -/
def read? (s : String) : Option Json := do
  let cs := s.toList
  let (j, rest) ← readValue (cs.length + 1) cs
  if (skipGap rest).isEmpty then some j else none

end Candidacy.Json
