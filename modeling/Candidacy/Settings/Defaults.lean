import Candidacy.Fault
import Candidacy.Settings.Sections

/-!
# Default possessions

The possessions of a candidate about whom nothing is said, according to a configuration that nobody
has checked: what stands under `candidate` and `possessions` if that is more than nothing, and the
standard possessions otherwise. Pairs may stand in for a table; they are taken one by one, up to the
first that makes no entry.
-/

namespace Candidacy.Settings

/-- Work on the values of a configuration, some of which are used up by it. -/
abbrev Lookup := ExceptT Fault (StateM Store)

namespace Lookup

/-- All the values of a collection, which are then taken from it. -/
def takeAll (v : Value) (missing : Fault) : Lookup (List Value) := do
  match (← get).elements? v with
  | none => throw missing
  | some vs =>
    modify (·.exhaust v)
    return vs

def entry (position : Nat) (v : Value) : Lookup (Value × Value) := do
  match ← takeAll v (.notPair position none) with
  | [key, value] =>
    match key.changeable? with
    | some kind => throw (.notHashable kind)
    | none => return (key, value)
  | vs => throw (.notPair position (some vs.length))

/-- The entries that the pairs of a collection make, the first of them at the given position. -/
def entries (source : Value) (position : Nat) : List Value → Lookup (List (Value × Value))
  | [] => return []
  | v :: vs => do
    modify (·.advance source 1)
    let first ← entry position v
    return first :: (← entries source (position + 1) vs)

/-- The entries of a table, or of the pairs that stand in for one. -/
def tableEntries (v : Value) : Lookup (List (Value × Value)) := do
  let s ← get
  match v, s.elements? v with
  | .table ref, _ => return s.entries ref
  | _, none => throw (.input (.notIterable v.kind))
  | _, some vs =>
    let es ← entries v 0 vs
    return es.foldl (fun t (k, w) => s.putEntry k w t) []

def noTable {α : Type} (kind : Kind) : Lookup α := throw (.input (.noAttribute kind "get"))

/-- What the configuration says about possessions, nothing if it says nothing. Checked settings
consist of sections that are no tables. -/
def configured (v : Value) : Lookup Value := do
  if !(← get).truthy v then return .none
  if let .settings _ := v then noTable .candidateSection
  let table ← tableEntries v
  match table.find? fun (k, _) => k.text? == some "candidate" with
  | none => return .none
  | some (_, .table ref) => return ((← get).valueUnder? ref "possessions").getD .none
  | some (_, candidate) => noTable candidate.kind

def defaultPossessions (v : Value) : Lookup (List Value) := do
  let possessions ← configured v
  if (← get).truthy possessions then
    takeAll possessions (.input (.notIterable possessions.kind))
  else return standardPossessions.map .text

end Lookup

/-- The default possessions of a configuration, and the store after the walk through them. -/
def defaultPossessions (s : Store) (v : Value) : Except Fault (List Value) × Store :=
  Lookup.defaultPossessions v s

end Candidacy.Settings
