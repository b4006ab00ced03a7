import Candidacy.Fault
import Candidacy.Number.Reading
import Candidacy.Value.Basic
import Candidacy.Yaml.Base64
import Candidacy.Yaml.Tag

/-!
# Values of scalars

What the text of a scalar is worth under each tag. A tag that was written down may not fit the text;
then the text is refused in the way of its kind.
-/

namespace Candidacy.Yaml

def withoutLows (cs : List Char) : List Char := cs.filter (· != '_')

/-- The value of digits to the base of sixty, the last of them first. -/
def sixtieths : List Int → Int
  | [] => 0
  | d :: ds => d + 60 * sixtieths ds

def integer (base : Nat) (cs : List Char) : Except Fault Int :=
  (Number.readInt base (String.ofList cs)).mapError (.ofIntRefusal base (String.ofList cs))

def unsignedInt (cs : List Char) : Except Fault Int :=
  match cs with
  | [] => .error .noDigits
  | ['0'] => .ok 0
  | '0' :: 'b' :: ds => integer 2 ds
  | '0' :: 'x' :: ds => integer 16 ds
  | '0' :: _ => integer 8 cs
  | _ =>
    if cs.contains ':' then do
      let parts ← (Tag.colonParts cs).mapM (integer 10)
      return sixtieths parts.reverse
    else integer 10 cs

def readInt (s : String) : Except Fault Int :=
  match withoutLows s.toList with
  | [] => .error .noDigits
  | cs => (unsignedInt (Tag.unsigned cs)).map fun n => if cs.head? = some '-' then -n else n

def freeFloat (cs : List Char) : Except Fault Number.Reading :=
  match Number.read? (String.ofList cs) with
  | some r => .ok r
  | none => .error (.notNumber (String.ofList cs))

/-- The sum of digits to the base of sixty, the last of them first, each step rounded. The powers of
sixty are numbers too and must stay finite. -/
def floatSixtieths (sum : Number.Reading) (power : Nat) :
    List Number.Reading → Except Fault Number.Reading
  | [] => .ok sum
  | d :: ds =>
    match Binary64.ofNat (Nat.pow 60 power) with
    | .infinite _ => .error .powerRange
    | base => floatSixtieths (sum.add (d.times base)) (power + 1) ds

def unsignedFloat (cs : List Char) : Except Fault Number.Reading :=
  if cs = ['.', 'i', 'n', 'f'] then .ok (.number (.infinite false))
  else if cs.contains ':' then do
    let parts ← (Tag.colonParts cs).mapM freeFloat
    floatSixtieths (.number (.zero false)) 0 parts.reverse
  else freeFloat cs

/-- The value of a reading; `fresh` is the value that is not a number to use. -/
def ofReading (fresh : Value) : Number.Reading → Value
  | .notANumber => fresh
  | .number x => .float x

/-- The number of a text. What is written `.nan` is one and the same value everywhere, and any other
text that denotes no number has a value of its own. -/
def readFloat (fresh : Value) (s : String) : Except Fault Value :=
  match Text.lowerChars (withoutLows s.toList) with
  | [] => .error .noDigits
  | cs =>
    let body := Tag.unsigned cs
    if body = ['.', 'n', 'a', 'n'] then .ok (.notANumber 0)
    else (unsignedFloat body).map fun r =>
      ofReading fresh (if cs.head? = some '-' then r.neg else r)

def readBool (s : String) : Except Fault Bool :=
  let word := Text.lower s
  if ["yes", "true", "on"].contains word then .ok true
  else if ["no", "false", "off"].contains word then .ok false
  else .error (.unknownKey word)

def readBinary (s : String) : Except Fault (List UInt8) :=
  if s.toList.any (0x7F < ·.toNat) then .error .yaml
  else match fromBase64? 0 0 0 s.toList with
    | some bs => .ok bs
    | none => .error .yaml

/-- The fault of a distance from universal time of a day or more. -/
def offsetFault (seconds : Int) : Fault :=
  .calendar ("offset must be a timedelta strictly between -timedelta(hours=24) and " ++
    "timedelta(hours=24), not " ++ deltaText seconds ++ ".")
where
  /-- The distance in words. -/
  deltaText (seconds : Int) : String := Moment.spanText seconds

def checkMoment (m : Moment) : Except Fault Moment := do
  if let some ⟨_, _, _, _, some offset⟩ := m.time then
    if 86400 ≤ offset.natAbs then throw (offsetFault offset)
  if m.year = 0 then throw (.calendar "year 0 is out of range")
  if m.month = 0 ∨ 12 < m.month then throw (.calendar "month must be in 1..12")
  if m.day = 0 ∨ Moment.daysIn m.year m.month < m.day then
    throw (.calendar "day is out of range for month")
  if let some t := m.time then
    if 23 < t.hour then throw (.calendar "hour must be in 0..23")
    if 59 < t.minute then throw (.calendar "minute must be in 0..59")
    if 59 < t.second then throw (.calendar "second must be in 0..59")
  return m

def readMoment (s : String) : Except Fault Moment :=
  let cs := s.toList
  let cs := if cs.getLast? = some '\n' then cs.dropLast else cs
  match Tag.moment? cs with
  | some m => checkMoment m
  | none => .error (.input (.noAttribute .none "groupdict"))

/-- The value of a scalar with a given tag, unless the tag is not one of a scalar. -/
def scalarValue (fresh : Value) (tag : Tag) (s : String) : Except Fault Value :=
  match tag with
  | .null => .ok .none
  | .bool => (readBool s).map .bool
  | .int => (readInt s).map .int
  | .float => readFloat fresh s
  | .binary => (readBinary s).map .bytes
  | .timestamp => (readMoment s).map .moment
  | .text => .ok (.text s)
  | _ => .error .yaml

end Candidacy.Yaml
