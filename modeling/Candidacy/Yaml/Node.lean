import Candidacy.Yaml.Tokens

/-!
# Nodes

The tree that the tokens of a document describe: scalars, sequences and mappings, each with the tag
and the anchor it was given, and aliases for nodes that stand elsewhere. What is left out where a node
may stand is an empty plain scalar. When the tokens end early it counts what was wrong with them
before: a token that does not fit, or an alias or an anchor that does not.
-/

namespace Candidacy.Yaml

structure Properties where
  tag : Option String
  anchor : Option String
  deriving DecidableEq, Repr, Inhabited

inductive Node where
  | reference (name : String)
  | scalar (properties : Properties) (text : String) (plain : Bool)
  | sequence (properties : Properties) (items : List Node)
  | mapping (properties : Properties) (entries : List (Node × Node))
  deriving Repr, Inhabited

namespace Node

/-- Why tokens describe no node: one of them does not fit, or there are too few. -/
inductive Misfit where
  | unexpected
  | tooFew
  deriving DecidableEq, Repr

def bare : Properties := ⟨none, none⟩

/-- The node that stands where nothing is written. -/
def empty : Node := scalar bare "" true

/-- The tag handles that need no directive. -/
def standardHandles : List (String × String) := [("!", "!"), ("!!", "tag:yaml.org,2002:")]

def fullTag (handles : List (String × String)) (handle : Option String) (suffix : String) :
    Except Misfit String :=
  match handle with
  | none => .ok suffix
  | some h =>
    match handles.lookup h with
    | some stem => .ok (stem ++ suffix)
    | none => .error .unexpected

/-- The tag and the anchor in front, in either order. -/
def properties (handles : List (String × String)) :
    List Token → Except Misfit (Properties × List Token)
  | [.tag _ _] => .error .tooFew
  | .anchor a :: .tag h t :: ts => (fullTag handles h t).map (⟨⟨some ·, some a⟩, ts⟩)
  | .tag h t :: .anchor a :: ts => (fullTag handles h t).map (⟨⟨some ·, some a⟩, ts⟩)
  | .anchor a :: ts => .ok (⟨none, some a⟩, ts)
  | .tag h t :: ts => (fullTag handles h t).map (⟨⟨some ·, none⟩, ts⟩)
  | ts => .ok (bare, ts)

def nextIs (stops : List Token) : List Token → Bool
  | [] => false
  | t :: _ => stops.contains t

/-- The comma in front of every entry but the first. -/
def comma (first : Bool) : List Token → Except Misfit (List Token)
  | .flowEntry :: ts => if first then .ok (.flowEntry :: ts) else .ok ts
  | [] => .error .tooFew
  | ts => if first then .ok ts else .error .unexpected

mutual
/-- The node in front; `block` and `indentless` say whether it may be a block collection, and a
sequence that is not indented. -/
def parse (handles : List (String × String)) :
    Nat → Bool → Bool → List Token → Except Misfit (Node × List Token)
  | 0, _, _, _ => .error .unexpected
  | _ + 1, _, _, .reference name :: ts => .ok (reference name, ts)
  | fuel + 1, block, indentless, ts => do
    let (ps, ts) ← properties handles ts
    match ts with
    | .scalar text plain :: ts => return (scalar ps text plain, ts)
    | .flowSequenceStart :: ts =>
      let (items, ts) ← parseFlowItems handles fuel true ts
      return (sequence ps items, ts)
    | .flowMappingStart :: ts =>
      let (entries, ts) ← parseFlowEntries handles fuel true ts
      return (mapping ps entries, ts)
    | t :: ts =>
      if indentless && t == .blockEntry then
        let (items, ts) ← parseIndentlessItems handles fuel (t :: ts)
        return (sequence ps items, ts)
      else if block && t == .blockSequenceStart then
        let (items, ts) ← parseBlockItems handles fuel ts
        return (sequence ps items, ts)
      else if block && t == .blockMappingStart then
        let (entries, ts) ← parseBlockEntries handles fuel ts
        return (mapping ps entries, ts)
      else if ps = bare then throw .unexpected
      else return (scalar ps "" true, t :: ts)
    | [] => throw .tooFew

/-- The node in front, or the empty one if a token that may follow it is next. -/
def parseUnless (handles : List (String × String)) :
    Nat → List Token → Bool → Bool → List Token → Except Misfit (Node × List Token)
  | 0, _, _, _, _ => .error .unexpected
  | fuel + 1, stops, block, indentless, ts =>
    if nextIs stops ts then .ok (empty, ts) else parse handles fuel block indentless ts

/-- The value behind a colon, or the empty node if there is no colon. -/
def parseValue (handles : List (String × String)) :
    Nat → List Token → Bool → List Token → Except Misfit (Node × List Token)
  | 0, _, _, _ => .error .unexpected
  | fuel + 1, stops, block, .value :: ts => parseUnless handles fuel stops block block ts
  | _ + 1, _, _, ts => .ok (empty, ts)

def parseBlockItems (handles : List (String × String)) :
    Nat → List Token → Except Misfit (List Node × List Token)
  | 0, _ => .error .unexpected
  | _ + 1, .blockEnd :: ts => .ok ([], ts)
  | fuel + 1, .blockEntry :: ts => do
    let (item, ts) ← parseUnless handles fuel [.blockEntry, .blockEnd] true false ts
    let (items, ts) ← parseBlockItems handles fuel ts
    return (item :: items, ts)
  | _ + 1, [] => .error .tooFew
  | _ + 1, _ => .error .unexpected

def parseIndentlessItems (handles : List (String × String)) :
    Nat → List Token → Except Misfit (List Node × List Token)
  | 0, _ => .error .unexpected
  | fuel + 1, .blockEntry :: ts => do
    let (item, ts) ←
      parseUnless handles fuel [.blockEntry, .key, .value, .blockEnd] true false ts
    let (items, ts) ← parseIndentlessItems handles fuel ts
    return (item :: items, ts)
  | _ + 1, ts => .ok ([], ts)

def parseBlockEntries (handles : List (String × String)) :
    Nat → List Token → Except Misfit (List (Node × Node) × List Token)
  | 0, _ => .error .unexpected
  | _ + 1, .blockEnd :: ts => .ok ([], ts)
  | fuel + 1, .key :: ts => do
    let stops := [.key, .value, .blockEnd]
    let (k, ts) ← parseUnless handles fuel stops true true ts
    let (v, ts) ← parseValue handles fuel stops true ts
    let (entries, ts) ← parseBlockEntries handles fuel ts
    return ((k, v) :: entries, ts)
  | _ + 1, [] => .error .tooFew
  | _ + 1, _ => .error .unexpected

/-- The items of a flow sequence up to its end; a pair among them is a mapping of its own. -/
def parseFlowItems (handles : List (String × String)) :
    Nat → Bool → List Token → Except Misfit (List Node × List Token)
  | 0, _, _ => .error .unexpected
  | _ + 1, _, .flowSequenceEnd :: ts => .ok ([], ts)
  | fuel + 1, first, ts => do
    match ← comma first ts with
    | .flowSequenceEnd :: ts => return ([], ts)
    | .key :: ts =>
      let (k, ts) ←
        parseUnless handles fuel [.value, .flowEntry, .flowSequenceEnd] false false ts
      let (v, ts) ← parseValue handles fuel [.flowEntry, .flowSequenceEnd] false ts
      let (items, ts) ← parseFlowItems handles fuel false ts
      return (mapping bare [(k, v)] :: items, ts)
    | ts =>
      let (item, ts) ← parse handles fuel false false ts
      let (items, ts) ← parseFlowItems handles fuel false ts
      return (item :: items, ts)

/-- The entries of a flow mapping up to its end; a node without a colon is a key alone. -/
def parseFlowEntries (handles : List (String × String)) :
    Nat → Bool → List Token → Except Misfit (List (Node × Node) × List Token)
  | 0, _, _ => .error .unexpected
  | _ + 1, _, .flowMappingEnd :: ts => .ok ([], ts)
  | fuel + 1, first, ts => do
    match ← comma first ts with
    | .flowMappingEnd :: ts => return ([], ts)
    | .key :: ts =>
      let (k, ts) ←
        parseUnless handles fuel [.value, .flowEntry, .flowMappingEnd] false false ts
      let (v, ts) ← parseValue handles fuel [.flowEntry, .flowMappingEnd] false ts
      let (entries, ts) ← parseFlowEntries handles fuel false ts
      return ((k, v) :: entries, ts)
    | ts =>
      let (k, ts) ← parse handles fuel false false ts
      let (entries, ts) ← parseFlowEntries handles fuel false ts
      return ((k, empty) :: entries, ts)
end

/-- The tag handles that directives in front declare, and the tokens behind the directives. -/
def directives (versionSeen : Bool) (handles : List (String × String)) :
    List Token → Except Misfit (List (String × String) × List Token)
  | .version major :: ts =>
    if versionSeen || major != 1 then .error .unexpected else directives true handles ts
  | .tagHandle handle stem :: ts =>
    if (handles.lookup handle).isSome then .error .unexpected
    else directives versionSeen ((handle, stem) :: handles) ts
  | .otherDirective :: ts => directives versionSeen handles ts
  | ts => .ok (handles, ts)

def isDirective : Token → Bool
  | .version _ | .tagHandle .. | .otherDirective => true
  | _ => false

/-- The node of an explicit document behind its start, or the empty one if the document is over. -/
def parseContent (handles : List (String × String)) (ts : List Token) :
    Except Misfit (Node × List Token) :=
  if nextIs [.documentStart, .documentEnd, .streamEnd] ts || (ts.head?.map isDirective).getD false
  then .ok (empty, ts)
  else parse handles (4 * ts.length + 4) true false ts

/-- The tag handles of a document that starts explicitly, and the tokens behind its start. -/
def explicitStart (ts : List Token) : Except Misfit (List (String × String) × List Token) := do
  match ← directives false [] ts with
  | (handles, .documentStart :: ts) => return (handles ++ standardHandles, ts)
  | (_, []) => throw .tooFew
  | _ => throw .unexpected

/-- The node of the document in front, unless the text is over. -/
def parseDocument (ts : List Token) : Except Misfit (Option Node × List Token) := do
  if nextIs [.streamEnd] ts then return (none, ts)
  if nextIs [.documentStart] ts || (ts.head?.map isDirective).getD false then
    let (handles, ts) ← explicitStart ts
    let (n, ts) ← parseContent handles ts
    return (some n, ts)
  else
    let (n, ts) ← parse standardHandles (4 * ts.length + 4) true false ts
    return (some n, ts)

def parseAll (ts : List Token) : Except Misfit (Option Node) := do
  let (n, ts) ← parseDocument ts
  match ts.dropWhile (· == .documentEnd) with
  | [.streamEnd] => return n
  | ts =>
    let _ ← explicitStart ts
    throw .unexpected

/-- Whether every alias refers to an anchor before it, and no anchor is used twice, as far as the
tokens tell. An anchor counts once its node has begun. -/
def anchorsFit (known : List String) : List Token → Bool
  | [] | [.anchor _] | [.anchor _, .tag _ _] => true
  | .reference name :: ts => known.contains name && anchorsFit known ts
  | .anchor name :: ts => !known.contains name && anchorsFit (name :: known) ts
  | _ :: ts => anchorsFit known ts

/-- The node of the only document in a text, or none if there is no document. -/
def ofTokens (ts : Tokens) : Except Fault (Option Node) :=
  match parseAll ts.list with
  | .ok n => .ok n
  | .error .unexpected => .error .yaml
  | .error .tooFew => .error (if anchorsFit [] ts.list then ts.fault.getD .yaml else .yaml)

end Node

end Candidacy.Yaml
