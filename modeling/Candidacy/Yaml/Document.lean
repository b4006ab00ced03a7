import Candidacy.Value.Shown
import Candidacy.Yaml.Graph
import Candidacy.Yaml.Scalars
import Candidacy.Yaml.Tokens

/-!
# The value of a document

Every node of a document has one value, shared by all who refer to the node. Collections are built
empty and filled in turn, the outer ones first, so that a collection may hold itself. A mapping may
take over the entries of others, and its own entries win.
-/

namespace Candidacy.Yaml

/-- A collection that waits to be filled: its node, and the list, table or set that is its value. -/
inductive Waiting where
  | items (node list : Nat)
  | entries (node table : Nat)
  | members (node set : Nat)
  | pairs (node list : Nat)
  deriving Repr

structure Building where
  graph : Graph
  store : Store
  built : List (Nat × Value)
  waiting : List Waiting

abbrev Build := StateT Building (Except Fault)

namespace Build

def refuse {α : Type} : Build α := throw .yaml

def content (n : Nat) : Build Content := return (← get).graph.contentOf n

def tag (n : Nat) : Build Tag := return (← get).graph.tagOf n

def setContent (n : Nat) (c : Content) : Build Unit :=
  modify fun b => { b with graph := b.graph.setContent n c }

/-- The text of a scalar, or of the default entry of a mapping that stands for one. -/
def text : Nat → Nat → Build String
  | 0, _ => refuse
  | fuel + 1, n => do
    match ← content n with
    | .scalar s => return s
    | .sequence _ => refuse
    | .mapping entries =>
      let g := (← get).graph
      match entries.find? fun (k, _) => g.tagOf k == .default with
      | some (_, v) => text fuel v
      | none => refuse

mutual
/-- Puts the entries that a mapping takes over in front of its own. -/
def flatten : Nat → Nat → Build Unit
  | 0, _ => refuse
  | fuel + 1, n => do
    match ← content n with
    | .mapping entries => do
      let (merged, own) ← flattenEntries fuel n [] entries
      if !merged.isEmpty then setContent n (.mapping (merged ++ own))
    | _ => return

/-- The entries taken over and the entries kept among those behind `kept`. -/
def flattenEntries :
    Nat → Nat → List (Nat × Nat) → List (Nat × Nat) → Build (List (Nat × Nat) × List (Nat × Nat))
  | 0, _, _, _ => refuse
  | _ + 1, _, kept, [] => return ([], kept)
  | fuel + 1, n, kept, (k, v) :: rest => do
    match ← tag k with
    | .merge => do
      setContent n (.mapping (kept ++ rest))
      let here ← match ← content v with
        | .mapping _ => do
          flatten fuel v
          flattened v
        | .sequence subs => do
          let all ← flattenEach fuel subs
          pure all.reverse.flatten
        | .scalar _ => refuse
      let (more, own) ← flattenEntries fuel n kept rest
      return (here ++ more, own)
    | .default => do
      modify fun b => { b with graph := b.graph.setTag k .text }
      flattenEntries fuel n (kept ++ [(k, v)]) rest
    | _ => flattenEntries fuel n (kept ++ [(k, v)]) rest

def flattenEach : Nat → List Nat → Build (List (List (Nat × Nat)))
  | 0, _ => refuse
  | _ + 1, [] => return []
  | fuel + 1, n :: ns => do
    match ← content n with
    | .mapping _ => do
      flatten fuel n
      let first ← flattened n
      let more ← flattenEach fuel ns
      return first :: more
    | _ => refuse

def flattened (n : Nat) : Build (List (Nat × Nat)) := do
  match ← content n with
  | .mapping entries => return entries
  | _ => refuse
end

def newList (n : Nat) (wait : Nat → Nat → Waiting) : Build Value := do
  let (v, store) := (← get).store.newList []
  let ref := store.lists.size - 1
  modify fun b => { b with store := store, waiting := b.waiting ++ [wait n ref] }
  return v

def newTable (n : Nat) : Build Value := do
  let (v, store) := (← get).store.newTable []
  let ref := store.tables.size - 1
  modify fun b => { b with store := store, waiting := b.waiting ++ [.entries n ref] }
  return v

def newSet (n : Nat) : Build Value := do
  let (v, store) := (← get).store.newSet []
  let ref := store.sets.size - 1
  modify fun b => { b with store := store, waiting := b.waiting ++ [.members n ref] }
  return v

/-- The value of a node that stands for a scalar. A moment must be written as a scalar. -/
def scalar (t : Tag) (n : Nat) : Build Value := do
  let s ← text ((← get).graph.size + 1) n
  match t, ← content n with
  | .timestamp, .mapping _ => throw (.notScannable .list)
  | _, _ =>
    let (fresh, store) := (← get).store.newNotANumber
    modify fun b => { b with store := store }
    match scalarValue fresh t s with
    | .ok v => return v
    | .error why => throw why

/-- The value of a node, made if it was not. A collection is empty at first. -/
def value (n : Nat) : Build Value := do
  let b ← get
  match b.built.lookup n with
  | some v => return v
  | none =>
    let v ← match b.graph.tagOf n with
      | .sequence => newList n .items
      | .orderedPairs | .pairs => newList n .pairs
      | .mapping => newTable n
      | .set => newSet n
      | .merge | .default | .indicator | .other => refuse
      | t => scalar t n
    modify fun b => { b with built := (n, v) :: b.built }
    return v

/-- The entries in front together with those of the given keys and values: keys that can change are
refused, and of equal keys the last counts. -/
def putEntries (entries : List (Value × Value)) : List (Nat × Nat) → Build (List (Value × Value))
  | [] => return entries
  | (k, v) :: rest => do
    let key ← value k
    if key.changeable?.isSome then refuse
    let w ← value v
    let s := (← get).store
    putEntries (s.putEntry key w entries) rest

def tableEntries (n : Nat) : Build (List (Value × Value)) := do
  match ← content n with
  | .mapping _ => do
    let size := (← get).graph.size
    flatten ((size + 2) * (size + 2)) n
    putEntries [] (← flattened n)
  | _ => refuse

def values : List Nat → Build (List Value)
  | [] => return []
  | n :: ns => do
    let v ← value n
    let vs ← values ns
    return v :: vs

/-- The pair that a mapping with a single entry stands for. -/
def pair (n : Nat) : Build Value := do
  match ← content n with
  | .mapping [(k, v)] => do
    let key ← value k
    let w ← value v
    return .tuple [key, w]
  | _ => refuse

/-- Fills a collection that waits for it. -/
def fill : Waiting → Build Unit
  | .items n ref => do
    match ← content n with
    | .sequence members => do
      let vs ← values members
      modify fun b => { b with store := b.store.setList ref vs }
    | _ => refuse
  | .entries n ref => do
    let entries ← tableEntries n
    modify fun b => { b with store := b.store.setTable ref entries }
  | .members n ref => do
    let entries ← tableEntries n
    modify fun b => { b with store := b.store.setSet ref (entries.map (·.1)) }
  | .pairs n ref => do
    match ← content n with
    | .sequence members => do
      let vs ← members.mapM pair
      modify fun b => { b with store := b.store.setList ref vs }
    | _ => refuse

/-- Fills all the collections that wait, in the order in which they came up. -/
def fillAll : Nat → Build Unit
  | 0 => return
  | more + 1 => do
    match (← get).waiting with
    | [] => return
    | w :: ws =>
      modify fun b => { b with waiting := ws }
      fill w
      fillAll more

def whole (n : Nat) : Build Value := do
  let v ← value n
  fillAll ((← get).graph.size + 1)
  return v

end Build

/-- The value of the only document in a text, nothing for an empty text, and the store of its lists,
tables and sets. -/
def load (t : Readable) : Except Fault (Value × Store) := do
  match ← Node.ofTokens (Tokens.scan t) with
  | none => return (.none, .empty)
  | some node =>
    let (root, graph) ← Graph.ofNode node
    let (v, b) ← (Build.whole root).run ⟨graph, .empty, [], []⟩
    return (v, b.store)

end Candidacy.Yaml
