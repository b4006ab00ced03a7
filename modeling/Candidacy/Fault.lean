import Candidacy.Input.Fault
import Candidacy.Log.Level
import Candidacy.Number.Reading
import Candidacy.Settings.Fault
import Candidacy.Text.Quoted

/-!
# Faults

Why an operation failed. Faults are causes; `message?` puts those into words that are shown to
people, and the others carry their details themselves.
-/

namespace Candidacy

inductive Fault where
  | input (why : InputFault)
  | notHashable (kind : Kind)
  | frozenField (deleting : Bool) (field : String)
  | noSuchField
  | openField (kind : Kind)
  | emptyList
  | notPath (kind : Kind)
  | bytesPath
  | notAttributeName (kind : Kind)
  | notNumber (text : String)
  | notInteger (base : Nat) (text : String)
  | tooManyDigits (count : Nat)
  | powerRange
  | noDigits
  | calendar (problem : String)
  | characterRange
  | characterOverflow
  | unknownKey (key : String)
  | notScannable (kind : Kind)
  | notPair (position : Nat) (length : Option Nat)
  | levelRefused (why : LayoutName)
  | settings (why : SettingsRefusal)
  | yaml
  | nullInPath
  | fileMissing
  | fileBehindFile
  | fileNameTooLong
  | fileIsDirectory
  | fileNotUtf8
  deriving DecidableEq, Repr

namespace Fault

def invalid (why : InvalidInput) : Fault := input (.invalid why)

/-- The longest quotation of a text that is no integer. -/
def quotationLimit : Nat := 200

def ofIntRefusal (base : Nat) (text : String) : Number.IntRefusal → Fault
  | .notInteger => notInteger base text
  | .tooLong digits => tooManyDigits digits

/-- The fault in words, where words are shown. -/
def message? : Fault → Option String
  | input why => some why.message
  | notHashable kind => some ("unhashable type: '" ++ kind.name ++ "'")
  | frozenField deleting field =>
    some ((if deleting then "cannot delete" else "cannot assign to") ++ " field '" ++ field ++ "'")
  | noSuchField => some "super(type, obj): obj must be an instance or subtype of type"
  | emptyList => some "pop from empty list"
  | notPath kind => some ("expected str, bytes or os.PathLike object, not " ++ kind.name)
  | bytesPath =>
    some ("argument should be a str object or an os.PathLike object returning str, " ++
      "not <class 'bytes'>")
  | notAttributeName kind => some ("attribute name must be string, not '" ++ kind.name ++ "'")
  | nullInPath => some "embedded null byte"
  | notNumber text => some ("could not convert string to float: " ++ Text.quoted text)
  | notInteger base text =>
    some ("invalid literal for int() with base " ++ toString base ++ ": " ++
      String.ofList ((Text.quotedChars text.toList).take quotationLimit))
  | tooManyDigits count =>
    some ("Exceeds the limit (" ++ toString Number.digitLimit ++ " digits) for integer string " ++
      "conversion: value has " ++ toString count ++ " digits; use sys.set_int_max_str_digits() " ++
      "to increase the limit")
  | powerRange => some "int too large to convert to float"
  | noDigits => some "string index out of range"
  | calendar problem => some problem
  | characterRange => some "chr() arg not in range(0x110000)"
  | characterOverflow => some "Python int too large to convert to C int"
  | unknownKey key => some (Text.quoted key)
  | notScannable kind =>
    some ("expected string or bytes-like object, got '" ++ kind.name ++ "'")
  | notPair position none =>
    some ("cannot convert dictionary update sequence element #" ++ toString position ++
      " to a sequence")
  | notPair position (some length) =>
    some ("dictionary update sequence element #" ++ toString position ++ " has length " ++
      toString length ++ "; 2 is required")
  | levelRefused why => some why.message
  | settings .notTable => some "Config must be a mapping"
  | settings (.faults _) | yaml | openField _ => none
  | fileMissing | fileBehindFile | fileNameTooLong | fileIsDirectory | fileNotUtf8 => none

end Fault

end Candidacy
