import Candidacy.Moment
import Candidacy.Report.Basic
import Candidacy.Settings.Basic
import Candidacy.Value.Kind

/-!
# Values

Callers hand over values of any kind, and every entry point checks what it was given. Lists, tables,
sets, iterators and pipelines are shared: such a value is a reference into a `Store`, and whoever holds the
same reference sees the same contents. All other values are what they are.
-/

namespace Candidacy

/-- A value of any kind. Each value that is not a number carries a serial that tells it apart. -/
inductive Value where
  | none
  | bool (b : Bool)
  | int (n : Int)
  | float (x : Binary64)
  | notANumber (serial : Nat)
  | text (s : String)
  | operator (op : Operator)
  | bytes (bs : List UInt8)
  | tuple (items : List Value)
  | frozenSet (items : List Value)
  | set (ref : Nat)
  | list (ref : Nat)
  | table (ref : Nat)
  | iterator (ref : Nat)
  | requirement (r : Requirement)
  | company (c : Company)
  | record (name requirement : Value)
  | verdict (v : Verdict)
  | settings (s : Settings)
  | report (r : Report)
  | pipeline (ref : Nat)
  | moment (m : Moment)
  deriving Repr, Inhabited

namespace Value

def kind : Value → Kind
  | none => .none
  | bool _ => .bool
  | int _ => .int
  | float _ | notANumber _ => .float
  | text _ => .text
  | operator _ => .operator
  | bytes _ => .bytes
  | tuple _ => .tuple
  | frozenSet _ => .frozenSet
  | set _ => .set
  | list _ => .list
  | table _ => .table
  | iterator _ => .iterator
  | requirement (.item _) => .simple
  | requirement (.composite ..) => .composite
  | company _ => .company
  | record .. => .record
  | verdict _ => .verdict
  | settings _ => .settings
  | report _ => .report
  | pipeline _ => .pipeline
  | moment m => if m.time.isSome then .dateTime else .date

/-- The string that the value is: text, or an operator for its name. -/
def word? : Value → Option Word
  | text s => some (.plain s)
  | operator op => some (.operator op)
  | _ => Option.none

def text? (v : Value) : Option String := v.word?.map (·.text)

def ofRequirement? : Option Requirement → Value
  | some r => requirement r
  | Option.none => none

end Value

end Candidacy
