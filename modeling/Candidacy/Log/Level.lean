import Candidacy.Text.LetterCase

/-!
# Log levels

The severity of an event and the threshold of a log are points on one scale. Two names that are no
levels are taken for entry layouts and refused; any other text asks for the usual level.
-/

namespace Candidacy

inductive Level where
  | notSet
  | debug
  | info
  | warning
  | error
  | critical
  deriving DecidableEq, Repr

/-- A name that denotes a layout of entries, or the table of layouts, and no level. -/
inductive LayoutName where
  | basic
  | styles
  deriving DecidableEq, Repr

def LayoutName.message : LayoutName → String
  | basic => "Unknown level: '%(levelname)s:%(name)s:%(message)s'"
  | styles =>
    "Level not an integer or a valid string: \x7b" ++
      "'%': (<class 'logging.PercentStyle'>, '%(levelname)s:%(name)s:%(message)s'), " ++
      "'\x7b': (<class 'logging.StrFormatStyle'>, " ++
      "'\x7blevelname\x7d:\x7bname\x7d:\x7bmessage\x7d'), " ++
      "'$': (<class 'logging.StringTemplateStyle'>, " ++
      "'$\x7blevelname\x7d:$\x7bname\x7d:$\x7bmessage\x7d')\x7d"

namespace Level

def number : Level → Nat
  | notSet => 0
  | debug => 10
  | info => 20
  | warning => 30
  | error => 40
  | critical => 50

def name : Level → String
  | notSet => "notset"
  | debug => "debug"
  | info => "info"
  | warning => "warning"
  | error => "error"
  | critical => "critical"

/-- The level a text names in any letter case. A text that names nothing asks for `info`; the names
of layouts are refused. -/
def ofText (s : String) : Except LayoutName Level :=
  match Text.upper s with
  | "CRITICAL" | "FATAL" => .ok critical
  | "ERROR" => .ok error
  | "WARNING" | "WARN" => .ok warning
  | "INFO" => .ok info
  | "DEBUG" => .ok debug
  | "NOTSET" => .ok notSet
  | "BASIC_FORMAT" => .error .basic
  | "_STYLES" => .error .styles
  | _ => .ok info

end Level

end Candidacy
