import Candidacy.Value.Basic

/-!
# The store of shared values

The contents of lists, tables, sets, iterators and pipelines by reference. `elements?` is what walking
through a value meets and leaves the store alone; `advance` is what the walk leaves behind, which
only an iterator can tell: the elements taken from it are gone.
-/

namespace Candidacy

/-- The contents of all shared values. -/
structure Store where
  lists : Array (List Value)
  tables : Array (List (Value × Value))
  sets : Array (List Value)
  iterators : Array (List Value)
  pipelines : Array Value
  serials : Nat
  deriving Inhabited

namespace Store

/-- A store in which nothing is shared yet. Serial zero is for what is not a number everywhere. -/
def empty : Store := ⟨#[], #[], #[], #[], #[], 1⟩

def listItems (s : Store) (ref : Nat) : List Value := s.lists[ref]?.getD []

def entries (s : Store) (ref : Nat) : List (Value × Value) := s.tables[ref]?.getD []

def setMembers (s : Store) (ref : Nat) : List Value := s.sets[ref]?.getD []

/-- What an iterator has yet to give. -/
def remaining (s : Store) (ref : Nat) : List Value := s.iterators[ref]?.getD []

def pipelineCompanies (s : Store) (ref : Nat) : Value := s.pipelines[ref]?.getD .none

def newList (s : Store) (items : List Value) : Value × Store :=
  (.list s.lists.size, { s with lists := s.lists.push items })

def newTable (s : Store) (entries : List (Value × Value)) : Value × Store :=
  (.table s.tables.size, { s with tables := s.tables.push entries })

def newSet (s : Store) (members : List Value) : Value × Store :=
  (.set s.sets.size, { s with sets := s.sets.push members })

def newIterator (s : Store) (items : List Value) : Value × Store :=
  (.iterator s.iterators.size, { s with iterators := s.iterators.push items })

def newPipeline (s : Store) (companies : Value) : Value × Store :=
  (.pipeline s.pipelines.size, { s with pipelines := s.pipelines.push companies })

def newNotANumber (s : Store) : Value × Store :=
  (.notANumber s.serials, { s with serials := s.serials + 1 })

def setList (s : Store) (ref : Nat) (items : List Value) : Store :=
  { s with lists := s.lists.setIfInBounds ref items }

def setTable (s : Store) (ref : Nat) (entries : List (Value × Value)) : Store :=
  { s with tables := s.tables.setIfInBounds ref entries }

def setSet (s : Store) (ref : Nat) (members : List Value) : Store :=
  { s with sets := s.sets.setIfInBounds ref members }

/-- What a walk through checked settings meets: a pair per section. -/
def sections (s : Settings) : List Value :=
  [.tuple [.text "candidate", .settings s], .tuple [.text "logging", .settings s]]

/-- The elements that a walk through the value meets, unless there is no way through it. -/
def elements? (s : Store) : Value → Option (List Value)
  | .text t => some (t.toList.map fun c => .text (String.singleton c))
  | .operator op => some (op.name.toList.map fun c => .text (String.singleton c))
  | .bytes bs => some (bs.map fun b => .int b.toNat)
  | .tuple items | .frozenSet items => some items
  | .set ref => some (s.setMembers ref)
  | .list ref => some (s.listItems ref)
  | .table ref => some ((s.entries ref).map (·.1))
  | .iterator ref => some (s.remaining ref)
  | .settings c => some (sections c)
  | _ => none

/-- The store after a walk took this many elements. -/
def advance (s : Store) (v : Value) (count : Nat) : Store :=
  match v with
  | .iterator ref =>
    { s with iterators := s.iterators.setIfInBounds ref ((s.remaining ref).drop count) }
  | _ => s

def exhaust (s : Store) (v : Value) : Store :=
  s.advance v ((s.elements? v).getD []).length

/-- Whether the value counts as true: nothing, zero and emptiness do not. -/
def truthy (s : Store) : Value → Bool
  | .none => false
  | .bool b => b
  | .int n => n != 0
  | .float x => !x.isZero
  | .text t => t != ""
  | .bytes bs => !bs.isEmpty
  | .tuple items | .frozenSet items => !items.isEmpty
  | .set ref => !(s.setMembers ref).isEmpty
  | .list ref => !(s.listItems ref).isEmpty
  | .table ref => !(s.entries ref).isEmpty
  | _ => true

end Store

end Candidacy
