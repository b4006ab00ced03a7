import Candidacy.Fault
import Candidacy.Input.Requirement
import Candidacy.Number.Reading
import Candidacy.ByName

/-!
# Terms

How a session writes the values that it works with: plain data, requirements and companies to be
built, and names for what earlier steps gave. `Term.eval` builds the value of a term, parts before
the whole and from left to right, and stops at the first fault; what was built or walked through
until then stays in the store.
-/

namespace Candidacy.Session

/-- A value in writing. -/
inductive Term where
  | none
  | bool (b : Bool)
  | int (n : Int)
  | float (x : Binary64)
  | number (text : String)
  | text (s : String)
  | operator (op : Operator)
  | bytes (bs : List UInt8)
  | list (items : List Term)
  | tuple (items : List Term)
  | set (items : List Term)
  | iterator (items : List Term)
  | table (entries : List (Term × Term))
  | item (name : Term)
  | composite (operator parts : Term)
  | group (op : Operator) (parts : List Term)
  | company (name requirement : Term)
  | record (name requirement : Term)
  | stored (name : String)
  deriving Inhabited

/-- A computation on the store that may end with a fault and leaves the store as it is then. -/
abbrev Work := ExceptT Fault (StateM Store)

namespace Work

/-- The outcome of a computation that was carried out on the store. -/
def ofResult {α : Type} (f : Store → Except Fault α × Store) : Work α := fun s => f s

def ofNew {α : Type} (f : Store → α × Store) : Work α := fun s => ((.ok (f s).1), (f s).2)

def ofChecked {α : Type} (r : Except InvalidInput α) : Work α :=
  match r with
  | .ok a => pure a
  | .error why => throw (.invalid why)

def ofInput {α : Type} (f : Store → Except InputFault α × Store) : Work α :=
  ofResult fun s => ((f s).1.mapError .input, (f s).2)

/-- A value that is to be a member of a set or a key of a table must not be one that changes. -/
def unchangeable (v : Value) : Work Unit :=
  match v.changeable? with
  | some kind => throw (.notHashable kind)
  | none => pure ()

end Work

namespace Term

def numberOf (text : String) : Work Value :=
  match Number.read? text with
  | some (.number x) => pure (.float x)
  | some .notANumber => Work.ofNew Store.newNotANumber
  | Option.none => throw (.notNumber text)

def setOf (items : List Value) : Work Value := do
  items.forM Work.unchangeable
  Work.ofNew fun s => s.newSet (s.members items)

def compositeOf (operator parts : Value) : Work Value := do
  return .requirement (← Work.ofInput (Requirement.ofValues · operator parts))

/-- The table of the entries, each key entered in turn. -/
def putAll (entries : List (Value × Value)) : Work Value := do
  let s ← get
  Work.ofNew fun t => t.newTable (entries.foldl (fun table (k, v) => s.putEntry k v table) [])

def valueOf (bindings : ByName Value) (name : String) : Work Value :=
  match bindings.get? name with
  | some v => pure v
  | Option.none => throw (.unknownKey name)

mutual
def eval (bindings : ByName Value) : Term → Work Value
  | none => return .none
  | bool b => return .bool b
  | int n => return .int n
  | float x => return .float x
  | number digits => numberOf digits
  | text s => return .text s
  | operator op => return .operator op
  | bytes bs => return .bytes bs
  | list items => do
    let vs ← evalAll bindings items
    Work.ofNew (·.newList vs)
  | tuple items => return .tuple (← evalAll bindings items)
  | set items => do setOf (← evalAll bindings items)
  | iterator items => do
    let vs ← evalAll bindings items
    Work.ofNew (·.newIterator vs)
  | table entries => do putAll (← evalEntries bindings entries)
  | item name => do
    let v ← eval bindings name
    return .requirement (← Work.ofChecked (Requirement.ofItem v))
  | composite op parts => do
    let o ← eval bindings op
    let vs ← eval bindings parts
    compositeOf o vs
  | group op parts => do
    let vs ← evalAll bindings parts
    return .requirement (← Work.ofChecked (Requirement.ofOperator op vs))
  | company name requirement => do
    let n ← eval bindings name
    let r ← eval bindings requirement
    return .company (← Work.ofChecked (Company.ofValues n r))
  | record name requirement => do
    let n ← eval bindings name
    return .record n (← eval bindings requirement)
  | stored name => valueOf bindings name
termination_by structural t => t

def evalAll (bindings : ByName Value) : List Term → Work (List Value)
  | [] => return []
  | t :: ts => do
    let v ← eval bindings t
    return v :: (← evalAll bindings ts)
termination_by structural ts => ts

/-- The entries that pairs of terms make: keys must not be values that change. -/
def evalEntries (bindings : ByName Value) : List (Term × Term) → Work (List (Value × Value))
  | [] => return []
  | (key, value) :: rest => do
    let k ← eval bindings key
    let v ← eval bindings value
    Work.unchangeable k
    return (k, v) :: (← evalEntries bindings rest)
termination_by structural es => es
end

end Term

end Candidacy.Session
