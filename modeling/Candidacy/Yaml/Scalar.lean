import Candidacy.Fault
import Candidacy.Text.Digits
import Candidacy.Yaml.Cursor

/-!
# Scalars

The four ways to write a text: plain, between single or double quotes, and as an indented block whose
line breaks are kept or folded. A single line break between two lines of a folded text is read as a
blank.
-/

namespace Candidacy.Yaml

/-- A text read from a place, and the place behind it. -/
structure Scanned where
  text : List Char
  after : Cursor

/-- What a line break and the empty lines behind it come to in a folded text. -/
def foldedBreaks (first : Char) (more : List Char) : List Char :=
  if first ≠ '\n' then first :: more else if more = [] then [' '] else more

/-- Line breaks up to a marker of a document's start or end, at which the text would break off. -/
def flowBreaks (p : Char → Bool) (c : Cursor) : List Char × Cursor × Bool :=
  let (chs, c) := c.breaks p (·.atSeparator) (c.rest.length + 1)
  (chs, c, c.column == 0 && c.atSeparator)

def isGap (c : Char) : Bool := c == ' ' || c == '\t'

namespace Quoted

def escape? : Char → Option Char
  | '0' => some '\x00'
  | 'a' => some '\x07'
  | 'b' => some '\x08'
  | 't' | '\t' => some '\t'
  | 'n' => some '\n'
  | 'v' => some '\x0b'
  | 'f' => some '\x0c'
  | 'r' => some '\r'
  | 'e' => some '\x1b'
  | ' ' => some ' '
  | '"' => some '"'
  | '\\' => some '\\'
  | '/' => some '/'
  | 'N' => some '\x85'
  | '_' => some '\u00a0'
  | 'L' => some '\u2028'
  | 'P' => some '\u2029'
  | _ => none

def escapeWidth? : Char → Option Nat
  | 'x' => some 2
  | 'u' => some 4
  | 'U' => some 8
  | _ => none

/-- The character with a given number; half a surrogate pair is none and is refused, as texts are made
of characters. -/
def character (n : Nat) : Except Fault Char :=
  if 0x7FFFFFFF < n then .error .characterOverflow
  else if 0x10FFFF < n then .error .characterRange
  else if 0xD800 ≤ n ∧ n < 0xE000 then .error .yaml
  else .ok (Char.ofNat n)

def numericEscape (width : Nat) (c : Cursor) : Except Fault (Char × Cursor) :=
  let digits := c.rest.take width
  if digits.length < width then (c.skip width).refuse
  else match Text.hexNumber? digits with
    | none => c.refuse
    | some n => (character n).map (·, c.skip width)

/-- Whether the character may end a stretch of ordinary characters. -/
def isSpecial (ch : Char) : Bool := ch == '\'' || ch == '"' || ch == '\\' || isGapOrEnd ch

def readWord (double : Bool) : Nat → Cursor → Except Fault Scanned
  | 0, c => .ok ⟨[], c⟩
  | fuel + 1, c => do
    let (word, c) := c.span (!isSpecial ·)
    let ch := c.peek
    if !double && ch == '\'' && c.peekAt 1 == '\'' then
      let more ← readWord double fuel (c.skip 2)
      return ⟨word ++ '\'' :: more.text, more.after⟩
    else if (double && ch == '\'') || (!double && (ch == '"' || ch == '\\')) then
      let more ← readWord double fuel c.next
      return ⟨word ++ ch :: more.text, more.after⟩
    else if double && ch == '\\' then
      let c := c.next
      match escape? c.peek, escapeWidth? c.peek with
      | some e, _ =>
        let more ← readWord double fuel c.next
        return ⟨word ++ e :: more.text, more.after⟩
      | none, some width =>
        let (e, c) ← numericEscape width c.next
        let more ← readWord double fuel c
        return ⟨word ++ e :: more.text, more.after⟩
      | none, none =>
        match c.lineBreak? with
        | none => c.refuse
        | some (_, c) =>
          let (chs, c, atEnd) := flowBreaks isGap c
          if atEnd then c.refuse
          let more ← readWord double fuel c
          return ⟨word ++ chs ++ more.text, more.after⟩
    else return ⟨word, c⟩

/-- The gap in front: blanks as they are, or line breaks folded. -/
def readGap (c : Cursor) : Except Fault Scanned :=
  let (blanks, c) := c.span isGap
  if c.peek == '\x00' then c.refuse
  else match c.lineBreak? with
    | none => .ok ⟨blanks, c⟩
    | some (ch, c) =>
      let (chs, c, atEnd) := flowBreaks isGap c
      if atEnd then c.refuse else .ok ⟨foldedBreaks ch chs, c⟩

def readRest (double : Bool) (quote : Char) : Nat → Cursor → Except Fault Scanned
  | 0, _ => .error .yaml
  | fuel + 1, c => do
    let word ← readWord double (c.rest.length + 1) c
    if word.after.peek == quote then return ⟨word.text, word.after.next⟩
    let gap ← readGap word.after
    let more ← readRest double quote fuel gap.after
    return ⟨word.text ++ gap.text ++ more.text, more.after⟩

/-- The text between quotes of the given kind, the first of which is in front. -/
def read (double : Bool) (c : Cursor) : Except Fault Scanned :=
  readRest double c.peek (c.rest.length + 1) c.next

end Quoted

namespace Plain

/-- Whether a plain text ends before the character at a place: at a gap, before a colon that makes a
key, and in a flow collection at its punctuation. -/
def endsBefore (inFlow : Bool) (ch following : Char) : Bool :=
  let marks := ",[]\x7b\x7d".toList
  isGapOrEnd ch ||
  (ch == ':' && (isGapOrEnd following || (inFlow && marks.contains following))) ||
  (inFlow && (ch == '?' || marks.contains ch))

def wordLength (inFlow : Bool) : List Char → Nat
  | [] => 0
  | ch :: rest =>
    if endsBefore inFlow ch (rest.headD '\x00') then 0 else wordLength inFlow rest + 1

/-- The gap in front: its text unless a document ends in it, and whether it has a line break. -/
def readGap (c : Cursor) : Option (List Char) × Bool × Cursor :=
  let (blanks, c) := c.span (· == ' ')
  match c.lineBreak? with
  | none => (some blanks, false, c)
  | some (ch, c) =>
    let (chs, c, atEnd) := flowBreaks (· == ' ') c
    if atEnd then (none, true, c) else (some (foldedBreaks ch chs), true, c)

/-- The text in front, and whether a line break follows it. `indent` is the column below which a
block text ends. -/
def read (inFlow : Bool) (indent : Int) : Nat → Bool → Cursor → Scanned × Bool
  | 0, sawBreak, c => (⟨[], c⟩, sawBreak)
  | fuel + 1, sawBreak, c =>
    if c.peek == '#' then (⟨[], c⟩, sawBreak) else
    let length := wordLength inFlow c.rest
    if length = 0 then (⟨[], c⟩, sawBreak) else
    let word := c.rest.take length
    match readGap (c.skip length) with
    | (none, sawBreak, c) => (⟨word, c⟩, sawBreak)
    | (some gap, sawBreak, c) =>
      if gap = [] || c.peek == '#' || (!inFlow && c.column < indent) then (⟨word, c⟩, sawBreak)
      else
        let (more, again) := read inFlow indent fuel sawBreak c
        (⟨if more.text = [] then word else word ++ gap ++ more.text, more.after⟩, again)

end Plain

namespace Block

/-- What becomes of the line breaks at the end of a block. -/
inductive Chomping where
  | strip
  | clip
  | keep
  deriving DecidableEq, Repr

def chomping? : Char → Option Chomping
  | '+' => some .keep
  | '-' => some .strip
  | _ => none

/-- The indentation that a digit asks for; zero is refused. -/
def increment? (c : Cursor) : Except Fault (Option Nat × Cursor) :=
  if !Text.isDigit c.peek then .ok (none, c)
  else if c.peek == '0' then c.refuse
  else .ok (some (c.peek.toNat - 48), c.next)

/-- The header behind the mark of a block: a sign and a digit in either order, and nothing else. -/
def header (c : Cursor) : Except Fault (Chomping × Option Nat × Cursor) := do
  let (chomping, increment, c) ← match chomping? c.peek with
    | some ch => do
      let (n, c) ← increment? c.next
      pure (ch, n, c)
    | none => do
      let (n, c) ← increment? c
      match n, chomping? c.peek with
      | some _, some ch => pure (ch, n, c.next)
      | _, _ => pure (Chomping.clip, n, c)
  if !isBlankOrEnd c.peek then c.refuse
  match c.endOfLine? with
  | some c => return (chomping, increment, c)
  | none => c.refuse

def skipIndent (indent : Nat) (c : Cursor) : Cursor :=
  c.skip (min (c.rest.takeWhile (· == ' ')).length (indent - c.column))

def emptyLines (indent : Nat) : Nat → Cursor → List Char × Cursor
  | 0, c => ([], c)
  | fuel + 1, c =>
    let c := skipIndent indent c
    match c.lineBreak? with
    | none => ([], c)
    | some (ch, c) =>
      let (chs, c) := emptyLines indent fuel c
      (ch :: chs, c)

/-- The empty lines in front, the widest indentation met, and the place behind them. -/
def leadingLines : Nat → Nat → Cursor → List Char × Nat × Cursor
  | 0, widest, c => ([], widest, c)
  | fuel + 1, widest, c =>
    if c.peek == ' ' then leadingLines fuel (max widest c.next.column) c.next
    else match c.lineBreak? with
      | none => ([], widest, c)
      | some (ch, c) =>
        let (chs, widest, c) := leadingLines fuel widest c
        (ch :: chs, widest, c)

/-- The lines of a block as far as they are read: text, the last line break, the empty lines that
follow, and the place behind them. -/
structure Lines where
  text : List Char
  last : Option Char
  empty : List Char
  after : Cursor

def readLines (folded : Bool) (indent : Nat) : Nat → List Char → Cursor → Lines
  | 0, empty, c => ⟨[], none, empty, c⟩
  | fuel + 1, empty, c =>
    if c.column ≠ indent || c.peek == '\x00' then ⟨[], none, empty, c⟩ else
    let startsFlush := !isGap c.peek
    let (line, c) := c.span (!isBreakOrEnd ·)
    let last := c.lineBreak?.map (·.1)
    let (next, c) := emptyLines indent (c.rest.length + 1) ((c.lineBreak?.map (·.2)).getD c)
    if c.column = indent && c.peek != '\x00' then
      let joint :=
        if folded && last == some '\n' && startsFlush && !isGap c.peek then
          (if next = [] then [' '] else [])
        else last.toList
      let more := readLines folded indent fuel next c
      ⟨empty ++ line ++ joint ++ more.text, more.last, more.empty, more.after⟩
    else ⟨empty ++ line, last, next, c⟩

/-- The text of a block whose mark is in front, inside a block of the given indentation. -/
def read (folded : Bool) (parent : Int) (c : Cursor) : Except Fault Scanned := do
  let (chomping, increment, c) ← header c.next
  let least := (max 1 (parent + 1)).toNat
  let fuel := c.rest.length + 1
  let (indent, empty, c) := match increment with
    | some n =>
      let indent := least + n - 1
      let (empty, c) := emptyLines indent fuel c
      (indent, empty, c)
    | none =>
      let (empty, widest, c) := leadingLines fuel 0 c
      (max least widest, empty, c)
  let lines := readLines folded indent fuel empty c
  let tail := match chomping with
    | .strip => []
    | .clip => lines.last.toList
    | .keep => lines.last.toList ++ lines.empty
  return ⟨lines.text ++ tail, lines.after⟩

end Block

end Candidacy.Yaml
