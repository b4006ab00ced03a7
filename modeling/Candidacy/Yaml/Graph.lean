import Candidacy.Yaml.Node
import Candidacy.Yaml.Tag

/-!
# Graphs

A document with its aliases followed. Nodes are numbered, and a collection names its members by their
numbers, so that a node may be the member of several collections and even of itself.
-/

namespace Candidacy.Yaml

/-- What a node holds; members by number. -/
inductive Content where
  | scalar (text : String)
  | sequence (items : List Nat)
  | mapping (entries : List (Nat × Nat))
  deriving DecidableEq, Repr, Inhabited

structure Vertex where
  tag : Tag
  content : Content
  deriving DecidableEq, Repr, Inhabited

abbrev Graph := Array Vertex

namespace Graph

def tagOf (g : Graph) (n : Nat) : Tag := (g.getD n default).tag

def contentOf (g : Graph) (n : Nat) : Content := (g.getD n default).content

def setContent (g : Graph) (n : Nat) (content : Content) : Graph :=
  g.setIfInBounds n ⟨g.tagOf n, content⟩

def setTag (g : Graph) (n : Nat) (tag : Tag) : Graph := g.setIfInBounds n ⟨tag, g.contentOf n⟩

end Graph

/-- A graph under construction, with the numbers of the anchors so far. -/
structure Drawing where
  graph : Graph
  anchors : List (String × Nat)

namespace Drawing

/-- The tag written on a node, unless it says nothing. -/
def written? (ps : Properties) : Option Tag :=
  match ps.tag with
  | none | some "!" => none
  | some t => some (.ofString t)

/-- The kind of a scalar: as its tag says, or by its spelling if it is plain. -/
def scalarTag (ps : Properties) (text : String) (plain : Bool) : Tag :=
  match written? ps with
  | some t => t
  | none => if plain || ps.tag.isSome then .ofPlain text else .text

/-- One more node, which its anchor refers to from now on. An anchor must not be used twice. -/
def place (d : Drawing) (ps : Properties) (v : Vertex) : Except Fault (Nat × Drawing) :=
  let n := d.graph.size
  match ps.anchor with
  | none => .ok (n, ⟨d.graph.push v, d.anchors⟩)
  | some a =>
    if (d.anchors.lookup a).isSome then .error .yaml
    else .ok (n, ⟨d.graph.push v, (a, n) :: d.anchors⟩)

def fill (d : Drawing) (n : Nat) (content : Content) : Drawing :=
  ⟨d.graph.setContent n content, d.anchors⟩

mutual
/-- The number of a node that is drawn if it was not. -/
def add : Node → Drawing → Except Fault (Nat × Drawing)
  | .reference name, d =>
    match d.anchors.lookup name with
    | some n => .ok (n, d)
    | none => .error .yaml
  | .scalar ps text plain, d => d.place ps ⟨scalarTag ps text plain, .scalar text⟩
  | .sequence ps items, d => do
    let (n, d) ← d.place ps ⟨(written? ps).getD .sequence, .sequence []⟩
    let (members, d) ← addItems items d
    return (n, d.fill n (.sequence members))
  | .mapping ps entries, d => do
    let (n, d) ← d.place ps ⟨(written? ps).getD .mapping, .mapping []⟩
    let (members, d) ← addEntries entries d
    return (n, d.fill n (.mapping members))
termination_by structural n => n

def addItems : List Node → Drawing → Except Fault (List Nat × Drawing)
  | [], d => .ok ([], d)
  | i :: is, d => do
    let (n, d) ← add i d
    let (ns, d) ← addItems is d
    return (n :: ns, d)
termination_by structural is => is

def addEntries : List (Node × Node) → Drawing → Except Fault (List (Nat × Nat) × Drawing)
  | [], d => .ok ([], d)
  | (k, v) :: es, d => do
    let (m, d) ← add k d
    let (n, d) ← add v d
    let (ns, d) ← addEntries es d
    return ((m, n) :: ns, d)
termination_by structural es => es
end

end Drawing

/-- The graph of a document and the number of its root. -/
def Graph.ofNode (n : Node) : Except Fault (Nat × Graph) := do
  let (root, d) ← Drawing.add n ⟨#[], []⟩
  return (root, d.graph)

end Candidacy.Yaml
