import Candidacy.Moment
import Candidacy.Text.LetterCase

/-!
# Tags

A tag says what a node is. A plain text without a tag gets the tag of the first kind of value whose
spelling it has; any other text is a text.
-/

namespace Candidacy.Yaml

inductive Tag where
  | null
  | bool
  | int
  | float
  | binary
  | timestamp
  | text
  | sequence
  | mapping
  | set
  | orderedPairs
  | pairs
  | merge
  | default
  | indicator
  | other
  deriving DecidableEq, Repr, Inhabited

namespace Tag

def stem : String := "tag:yaml.org,2002:"

/-- The standard tags behind their stem. -/
def table : List (String × Tag) := [
  ("null", null), ("bool", bool), ("int", int), ("float", float), ("binary", binary),
  ("timestamp", timestamp), ("str", text), ("seq", sequence), ("map", mapping), ("set", set),
  ("omap", orderedPairs), ("pairs", pairs), ("merge", merge), ("value", default)]

def ofString (s : String) : Tag :=
  ((table.find? fun (name, _) => stem ++ name == s).map (·.2)).getD other

def isBool (s : String) : Bool :=
  ["yes", "Yes", "YES", "no", "No", "NO", "true", "True", "TRUE", "false", "False", "FALSE",
   "on", "On", "ON", "off", "Off", "OFF"].contains s

def isNull (s : String) : Bool := ["", "~", "null", "Null", "NULL"].contains s

def unsigned : List Char → List Char
  | '-' :: cs => cs
  | '+' :: cs => cs
  | cs => cs

def isDigitOrLow (c : Char) : Bool := Text.isDigit c || c == '_'

/-- Whether the characters are at least one, and all pass the test. -/
def some1 (p : Char → Bool) (cs : List Char) : Bool := !cs.isEmpty && cs.all p

def isNumeral : List Char → Bool
  | [] => false
  | c :: cs => Text.isDigit c && cs.all isDigitOrLow

/-- Whether the characters are a number below sixty of one or two digits. -/
def isSixtieth : List Char → Bool
  | [c] => Text.isDigit c
  | [c, d] => '0' ≤ c && c ≤ '5' && Text.isDigit d
  | _ => false

def colonParts (cs : List Char) : List (List Char) := cs.splitOn ':'

/-- Whether the text is an integer in base two, eight, ten, sixteen or sixty. -/
def isInt (cs : List Char) : Bool :=
  match unsigned cs with
  | '0' :: 'b' :: ds => some1 (fun c => c == '0' || c == '1' || c == '_') ds
  | '0' :: 'x' :: ds => some1 (fun c => (Text.hexValue? c).isSome || c == '_') ds
  | '0' :: ds => ds.all fun c => ('0' ≤ c && c ≤ '7') || c == '_'
  | ds =>
    match colonParts ds with
    | [] => false
    | d :: parts => isNumeral d && parts.all isSixtieth

def isExponent : List Char → Bool
  | [] => true
  | e :: sign :: ds =>
    (e == 'e' || e == 'E') && (sign == '-' || sign == '+') && some1 Text.isDigit ds
  | _ => false

/-- Whether the text is a number with a point, in base ten or sixty, or one of the words for an
infinity and for no number at all. -/
def isFloat (cs : List Char) : Bool :=
  let body := unsigned cs
  let whole := body.takeWhile (· != '.')
  match body.dropWhile (· != '.') with
  | [] => false
  | _ :: behind =>
    let digits := behind.takeWhile isDigitOrLow
    let rest := behind.dropWhile isDigitOrLow
    let signed := body.length != cs.length
    if whole.isEmpty then
      [['i', 'n', 'f'], ['I', 'n', 'f'], ['I', 'N', 'F']].contains behind
      || (!signed && ([['n', 'a', 'n'], ['N', 'a', 'N'], ['N', 'A', 'N']].contains behind
        || (isNumeral digits && isExponent rest)))
    else match colonParts whole with
      | [] => false
      | [d] => isNumeral d && isExponent rest
      | d :: parts => isNumeral d && parts.all isSixtieth && rest.isEmpty

/-- A number of at least and at most so many digits, and what follows it. -/
def digits? (least most : Nat) (cs : List Char) : Option (Nat × List Char) :=
  let ds := (cs.take most).takeWhile Text.isDigit
  if ds.length < least then none else some (Text.number ds, cs.drop ds.length)

def after? (c : Char) : List Char → Option (List Char)
  | d :: cs => if d = c then some cs else none
  | [] => none

def zone? (cs : List Char) : Option (Option Int) :=
  match cs.dropWhile fun c => c == ' ' || c == '\t' with
  | [] => if cs.isEmpty then some none else none
  | ['Z'] => some (some 0)
  | sign :: rest =>
    if sign ≠ '-' ∧ sign ≠ '+' then none
    else do
      let (hours, rest) ← digits? 1 2 rest
      let (minutes, rest) ← match rest with
        | [] => some (0, [])
        | rest => after? ':' rest >>= digits? 2 2
      if !rest.isEmpty then none
      else
        let seconds : Int := 3600 * hours + 60 * minutes
        some (some (if sign = '-' then -seconds else seconds))

/-- A fraction of a second in microseconds, further digits dropped. -/
def micros (ds : List Char) : Nat :=
  let six := ds.take 6
  Text.number six * Nat.pow 10 (6 - six.length)

def time? (cs : List Char) : Option TimeOfDay := do
  let cs ← match cs with
    | 'T' :: cs | 't' :: cs => some cs
    | ' ' :: cs | '\t' :: cs => some (cs.dropWhile fun c => c == ' ' || c == '\t')
    | _ => none
  let (hour, cs) ← digits? 1 2 cs
  let (minute, cs) ← after? ':' cs >>= digits? 2 2
  let (second, cs) ← after? ':' cs >>= digits? 2 2
  let (micro, cs) := match cs with
    | '.' :: cs => (micros (cs.takeWhile Text.isDigit), cs.dropWhile Text.isDigit)
    | cs => (0, cs)
  let offset ← zone? cs
  return ⟨hour, minute, second, micro, offset⟩

/-- The moment that a text spells, with month and day of one digit at least, possible or not. -/
def moment? (cs : List Char) : Option Moment := do
  let (year, cs) ← digits? 4 4 cs
  let (month, cs) ← after? '-' cs >>= digits? 1 2
  let (day, cs) ← after? '-' cs >>= digits? 1 2
  if cs.isEmpty then return ⟨year, month, day, none⟩
  let time ← time? cs
  return ⟨year, month, day, some time⟩

/-- Whether the text is a date with all its digits, or a date and a time. -/
def isTimestamp (cs : List Char) : Bool :=
  match moment? cs with
  | some m => m.time.isSome || cs.length == 10
  | none => false

def ofPlain (s : String) : Tag :=
  if s = "" then null else
  let cs := s.toList
  let cs := if cs.getLast? = some '\n' then cs.dropLast else cs
  let t := String.ofList cs
  if cs.isEmpty then text
  else if isBool t then bool
  else if isFloat cs then float
  else if isInt cs then int
  else if t = "<<" then merge
  else if isNull t then null
  else if isTimestamp cs then timestamp
  else if t = "=" then default
  else if ["!", "&", "*"].contains t then indicator
  else text

end Tag

end Candidacy.Yaml
