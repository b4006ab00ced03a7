import Candidacy.Settings.Schema
import Candidacy.Yaml.Scalar
import Candidacy.Yaml.Token

/-!
# From text to tokens

`Tokens.scan` cuts a text into tokens. A key in front of a colon is known as a key only when the colon
comes, so the places where one may have started are remembered, one for each level of flow
collections, and the tokens that open it are put in afterwards. Indentation opens and closes block
collections. Where the text is at fault the tokens end: those behind a place where a key may have
started are not known then, nor is the token at that place.
-/

namespace Candidacy.Yaml

/-- A place where a key may have started. -/
structure PendingKey where
  level : Nat
  position : Nat
  required : Bool
  index : Nat
  line : Nat
  column : Nat

/-- The tokens of a text in order, and the fault that ends them if the text is at fault. -/
structure Tokens where
  list : List Token
  fault : Option Fault

/-- A text cut into tokens up to a place. -/
structure Scan where
  cursor : Cursor
  tokens : Array Token
  level : Nat
  indent : Int
  outer : List Int
  keyAllowed : Bool
  pending : List PendingKey
  done : Bool

namespace Scan

def start (t : Readable) : Scan := ⟨.start t, #[], 0, -1, [], true, [], false⟩

def inFlow (s : Scan) : Bool := s.level != 0

def push (s : Scan) (t : Token) : Scan := { s with tokens := s.tokens.push t }

def pushTo (s : Scan) (t : Token) (c : Cursor) : Scan :=
  { s with tokens := s.tokens.push t, cursor := c }

/-- Whether a key can no longer have started there: keys stay on one line and are not long. -/
def isStale (s : Scan) (k : PendingKey) : Bool :=
  k.line != s.cursor.line || 1024 < s.cursor.index - k.index

/-- Forgets the keys that did not come; one that had to come is a fault. -/
def dropStale (s : Scan) : Except Fault Scan :=
  if s.pending.any fun k => s.isStale k && k.required then .error .yaml
  else .ok { s with pending := s.pending.filter fun k => !s.isStale k }

/-- Forgets the key of the present level; one that had to come is a fault. -/
def dropKey (s : Scan) : Except Fault Scan :=
  if s.pending.any fun k => k.level == s.level && k.required then .error .yaml
  else .ok { s with pending := s.pending.filter fun k => k.level != s.level }

def saveKey (s : Scan) : Except Fault Scan := do
  if !s.keyAllowed then return s
  let required := !s.inFlow && s.indent == s.cursor.column
  let s ← s.dropKey
  let c := s.cursor
  let k : PendingKey := ⟨s.level, s.tokens.size, required, c.index, c.line, c.column⟩
  return { s with pending := k :: s.pending }

/-- Closes the block collections that are indented more than the column. -/
def unwind (column : Int) (s : Scan) : Scan :=
  if s.inFlow then s else go s.outer s
where
  /-- Closes collections as long as the column lies outside of them. -/
  go : List Int → Scan → Scan
    | [], s => s
    | i :: outer, s =>
      if column < s.indent then go outer ({ s with indent := i, outer := outer }.push .blockEnd)
      else s

/-- Indents to a column, if that is further in than before. -/
def indentTo? (s : Scan) (column : Int) : Option Scan :=
  if s.indent < column then some { s with outer := s.indent :: s.outer, indent := column } else none

/-- Opens a block collection at a column unless the column belongs to one that is open. -/
def openBlock (s : Scan) (t : Token) : Scan :=
  match s.indentTo? s.cursor.column with
  | some s => s.push t
  | none => s

def streamEnd (s : Scan) : Except Fault Scan := do
  let s ← (s.unwind (-1)).dropKey
  return { s.push .streamEnd with keyAllowed := false, pending := [], done := true }

def isNameChar (c : Char) : Bool :=
  Text.isDigit c || ('A' ≤ c && c ≤ 'Z') || ('a' ≤ c && c ≤ 'z') || c == '-' || c == '_'

/-- The handle of a tag in front: an exclamation mark, or a name between two of them. -/
def tagHandle (c : Cursor) : Except Fault (String × Cursor) :=
  if c.peek != '!' then c.refuse
  else if c.peekAt 1 == ' ' then .ok ("!", c.next)
  else
    let (name, after) := c.next.span isNameChar
    if after.peek != '!' then after.refuse
    else .ok (String.ofList ('!' :: name ++ ['!']), after.next)

def isTagChar (c : Char) : Bool :=
  Text.isDigit c || ('A' ≤ c && c ≤ 'Z') || ('a' ≤ c && c ≤ 'z') ||
    "-;/?:@&=+$,_.!~*'()[]".toList.contains c

def escapedBytes : Nat → Cursor → Except Fault (List UInt8 × Cursor)
  | 0, c => .ok ([], c)
  | fuel + 1, c =>
    if c.peek != '%' then .ok ([], c)
    else match Text.hexValue? (c.peekAt 1), Text.hexValue? (c.peekAt 2) with
      | some a, some b => do
        let (bs, c) ← escapedBytes fuel (c.skip 3)
        return (UInt8.ofNat (16 * a + b) :: bs, c)
      | _, _ => (c.skip 3).refuse

/-- The rest of a tag in front, which may be empty. -/
def tagText : Nat → Cursor → Except Fault (List Char × Cursor)
  | 0, c => .ok ([], c)
  | fuel + 1, c => do
    let (cs, c) := c.span isTagChar
    if c.peek != '%' then return (cs, c)
    let (bs, c) ← escapedBytes (c.rest.length + 1) c
    match Settings.decoded? bs with
    | none => c.refuse
    | some t =>
      let (more, c) ← tagText fuel c
      return (cs ++ t.toList ++ more, c)

/-- The rest of a tag in front, of one character at least. -/
def tagSuffix (c : Cursor) : Except Fault (String × Cursor) := do
  let (cs, after) ← tagText (c.rest.length + 1) c
  if after.index == c.index then c.refuse
  return (String.ofList cs, after)

def versionNumber (c : Cursor) : Except Fault (Nat × Cursor) := do
  let (ds, c) := c.span Text.isDigit
  c.readable
  if ds = [] then c.refuse
  if Number.digitLimit < ds.length then throw (.tooManyDigits ds.length)
  return (Text.number ds, c)

def directiveToken (name : String) (c : Cursor) : Except Fault (Token × Cursor) := do
  match name with
  | "YAML" =>
    let (major, c) ← versionNumber (c.skipWhile (· == ' '))
    if c.peek != '.' then c.refuse
    let (_, c) ← versionNumber c.next
    if !isBlankOrEnd c.peek then c.refuse
    return (.version major, c)
  | "TAG" =>
    let (handle, c) ← tagHandle (c.skipWhile (· == ' '))
    if c.peek != ' ' then c.refuse
    let (stem, c) ← tagSuffix (c.skipWhile (· == ' '))
    if !isBlankOrEnd c.peek then c.refuse
    return (.tagHandle handle stem, c)
  | _ => return (.otherDirective, c.skipWhile (!isBreakOrEnd ·))

def directive (s : Scan) : Except Fault Scan := do
  let s ← (s.unwind (-1)).dropKey
  let (name, c) := s.cursor.next.span isNameChar
  if name = [] || !isBlankOrEnd c.peek then c.refuse
  let (t, c) ← directiveToken (String.ofList name) c
  match c.endOfLine? with
  | none => c.refuse
  | some c => return { s.pushTo t c with keyAllowed := false }

def documentMark (s : Scan) (t : Token) : Except Fault Scan := do
  let s ← (s.unwind (-1)).dropKey
  return { s.pushTo t (s.cursor.skip 3) with keyAllowed := false }

def flowStart (s : Scan) (t : Token) : Except Fault Scan := do
  let s ← s.saveKey
  return { s.pushTo t s.cursor.next with level := s.level + 1, keyAllowed := true }

def flowEnd (s : Scan) (t : Token) : Except Fault Scan := do
  if s.level = 0 then throw .yaml
  let s ← s.dropKey
  return { s.pushTo t s.cursor.next with level := s.level - 1, keyAllowed := false }

def flowEntry (s : Scan) : Except Fault Scan := do
  let s ← s.dropKey
  return { s.pushTo .flowEntry s.cursor.next with keyAllowed := true }

def blockEntry (s : Scan) : Except Fault Scan := do
  if !s.inFlow && !s.keyAllowed then throw .yaml
  let s := if s.inFlow then s else s.openBlock .blockSequenceStart
  let s ← s.dropKey
  return { s.pushTo .blockEntry s.cursor.next with keyAllowed := true }

def keyMark (s : Scan) : Except Fault Scan := do
  if !s.inFlow && !s.keyAllowed then throw .yaml
  let s := if s.inFlow then s else s.openBlock .blockMappingStart
  let s ← s.dropKey
  return { s.pushTo .key s.cursor.next with keyAllowed := !s.inFlow }

/-- Puts in the tokens that open the key which started at a remembered place. -/
def openKey (s : Scan) (k : PendingKey) : Scan :=
  let tokens := s.tokens.toList
  let before := tokens.take k.position
  let behind := tokens.drop k.position
  let s := { s with pending := s.pending.filter fun p => p.level != s.level }
  match if s.inFlow then none else s.indentTo? k.column with
  | some s => { s with tokens := (before ++ .blockMappingStart :: .key :: behind).toArray }
  | none => { s with tokens := (before ++ .key :: behind).toArray }

def valueMark (s : Scan) : Except Fault Scan := do
  match s.pending.find? fun k => k.level == s.level with
  | some k =>
    let s := s.openKey k
    return { s.pushTo .value s.cursor.next with keyAllowed := false }
  | none =>
    if !s.inFlow && !s.keyAllowed then throw .yaml
    let s := if s.inFlow then s else s.openBlock .blockMappingStart
    let s ← s.dropKey
    return { s.pushTo .value s.cursor.next with keyAllowed := !s.inFlow }

def anchorName (c : Cursor) : Except Fault (String × Cursor) :=
  let (name, c) := c.next.span isNameChar
  let follows := isGapOrEnd c.peek || "?:,]\x7d%@\x60".toList.contains c.peek
  if name = [] || !follows then c.refuse
  else .ok (String.ofList name, c)

def anchor (s : Scan) (t : String → Token) : Except Fault Scan := do
  let s ← s.saveKey
  let (name, c) ← anchorName s.cursor
  return { s.pushTo (t name) c with keyAllowed := false }

/-- Whether an exclamation mark comes before the next blank or line end. -/
def hasHandle (c : Cursor) : Bool :=
  ((c.rest.drop 1).takeWhile (!isBlankOrEnd ·)).contains '!'

def tagToken (c : Cursor) : Except Fault (Token × Cursor) := do
  if c.peekAt 1 == '<' then
    let (suffix, c) ← tagSuffix (c.skip 2)
    if c.peek != '>' then c.refuse
    return (.tag none suffix, c.next)
  else if isGapOrEnd (c.peekAt 1) then return (.tag none "!", c.next)
  else
    let (handle, c) ← if hasHandle c then tagHandle c else pure ("!", c.next)
    let (suffix, c) ← tagSuffix c
    return (.tag (some handle) suffix, c)

def tag (s : Scan) : Except Fault Scan := do
  let s ← s.saveKey
  let (t, c) ← tagToken s.cursor
  if !isBlankOrEnd c.peek then c.refuse
  return { s.pushTo t c with keyAllowed := false }

def blockScalar (s : Scan) (folded : Bool) : Except Fault Scan := do
  let s ← s.dropKey
  let r ← Block.read folded s.indent s.cursor
  return { s.pushTo (.scalar (String.ofList r.text) false) r.after with keyAllowed := true }

def quotedScalar (s : Scan) (double : Bool) : Except Fault Scan := do
  let s ← s.saveKey
  let r ← Quoted.read double s.cursor
  return { s.pushTo (.scalar (String.ofList r.text) false) r.after with keyAllowed := false }

def plainScalar (s : Scan) : Except Fault Scan := do
  let s ← s.saveKey
  let (r, sawBreak) := Plain.read s.inFlow (s.indent + 1) (s.cursor.rest.length + 1) false s.cursor
  return { s.pushTo (.scalar (String.ofList r.text) true) r.after with keyAllowed := sawBreak }

/-- Whether a plain text may start with the character in front. -/
def startsPlain (s : Scan) : Bool :=
  let ch := s.cursor.peek
  !(isGapOrEnd ch || "-?:,[]\x7b\x7d#&*!|>'\"%@\x60".toList.contains ch) ||
    (!isGapOrEnd (s.cursor.peekAt 1) && (ch == '-' || (!s.inFlow && (ch == '?' || ch == ':'))))

def skipGap (s : Scan) : Scan :=
  let c := if s.cursor.index == 0 && s.cursor.peek == '\uFEFF' then s.cursor.next else s.cursor
  let (sawBreak, c) := c.skipGap false (c.rest.length + 1)
  { s with cursor := c, keyAllowed := s.keyAllowed || (sawBreak && !s.inFlow) }

def fetchHere (s : Scan) : Except Fault Scan :=
  let ch := s.cursor.peek
  let marks := isGapOrEnd (s.cursor.peekAt 1)
  if ch == '\x00' then s.streamEnd
  else if ch == '%' && s.cursor.column == 0 then s.directive
  else if ch == '-' && s.cursor.column == 0 && s.cursor.atSeparator then s.documentMark .documentStart
  else if ch == '.' && s.cursor.column == 0 && s.cursor.atSeparator then s.documentMark .documentEnd
  else if ch == '[' then s.flowStart .flowSequenceStart
  else if ch == '\x7b' then s.flowStart .flowMappingStart
  else if ch == ']' then s.flowEnd .flowSequenceEnd
  else if ch == '\x7d' then s.flowEnd .flowMappingEnd
  else if ch == ',' then s.flowEntry
  else if ch == '-' && marks then s.blockEntry
  else if ch == '?' && (s.inFlow || marks) then s.keyMark
  else if ch == ':' && (s.inFlow || marks) then s.valueMark
  else if ch == '*' then s.anchor .reference
  else if ch == '&' then s.anchor .anchor
  else if ch == '!' then s.tag
  else if ch == '|' && !s.inFlow then s.blockScalar false
  else if ch == '>' && !s.inFlow then s.blockScalar true
  else if ch == '\'' then s.quotedScalar false
  else if ch == '"' then s.quotedScalar true
  else if s.startsPlain then s.plainScalar
  else s.cursor.refuse

/-- One or more tokens from what is in front, behind which the text must be readable. -/
def fetch (s : Scan) : Except Fault Scan := do
  let s := s.skipGap
  s.cursor.readable
  let s ← s.dropStale
  let s ← (s.unwind s.cursor.column).fetchHere
  s.cursor.readable
  return s

/-- The tokens in front of all the places where a key may still have started. -/
def certain (s : Scan) : List Token :=
  let unsettled := s.pending.filter fun k => !s.isStale k
  s.tokens.toList.take (unsettled.foldl (fun n k => min n k.position) s.tokens.size)

/-- The tokens up to the end of the text, or up to the fault that ends them. -/
def toEnd : Nat → Scan → Tokens
  | 0, s => ⟨s.certain, some .yaml⟩
  | fuel + 1, s =>
    match s.fetch with
    | .error why => ⟨s.certain, some why⟩
    | .ok s => if s.done then ⟨s.tokens.toList, none⟩ else toEnd fuel s

end Scan

def Tokens.scan (t : Readable) : Tokens := Scan.toEnd (2 * t.chars.length + 2) (.start t)

end Candidacy.Yaml
