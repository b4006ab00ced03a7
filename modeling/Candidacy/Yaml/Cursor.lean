import Candidacy.Yaml.Readable

/-!
# Positions in a YAML text

A `Cursor` is a place in a text: what is still to come, and how far, on which line and in which
column the place is. Behind the end of the text the cursor sees null characters, which no text holds.
Where the text is not over but cannot be read further, whatever is made of these characters must give
way to the fault that waits there: `readable` and `refuse` see to that.
-/

namespace Candidacy.Yaml

structure Cursor where
  rest : List Char
  stop : Option Fault
  index : Nat
  line : Nat
  column : Nat
  deriving Repr

def isBreak (c : Char) : Bool :=
  c == '\n' || c == '\r' || c == '\x85' || c == '\u2028' || c == '\u2029'

def isBreakOrEnd (c : Char) : Bool := c == '\x00' || isBreak c

def isBlankOrEnd (c : Char) : Bool := c == ' ' || isBreakOrEnd c

/-- Whether the character is a blank or a tab, or ends a line or the text. -/
def isGapOrEnd (c : Char) : Bool := c == '\t' || isBlankOrEnd c

namespace Cursor

def start (t : Readable) : Cursor := ⟨t.chars, t.stop, 0, 0, 0⟩

/-- The fault that waits at the place, if the text cannot be read further. -/
def stop? (c : Cursor) : Option Fault := if c.rest = [] then c.stop else none

/-- Makes sure that the text can be read further, or is over. -/
def readable (c : Cursor) : Except Fault Unit :=
  match c.stop? with
  | some why => .error why
  | none => .ok ()

def refuse {α : Type} (c : Cursor) : Except Fault α := .error (c.stop?.getD .yaml)

def peekAt (c : Cursor) (n : Nat) : Char := c.rest.getD n '\x00'

def peek (c : Cursor) : Char := c.rest.headD '\x00'

/-- The place behind the next character. A byte order mark takes no column. -/
def next (c : Cursor) : Cursor :=
  match c.rest with
  | [] => c
  | ch :: rest =>
    if isBreak ch && !(ch == '\r' && rest.head? == some '\n') then
      ⟨rest, c.stop, c.index + 1, c.line + 1, 0⟩
    else if ch == '\uFEFF' then ⟨rest, c.stop, c.index + 1, c.line, c.column⟩
    else ⟨rest, c.stop, c.index + 1, c.line, c.column + 1⟩

def skip (c : Cursor) : Nat → Cursor
  | 0 => c
  | n + 1 => c.next.skip n

def span (c : Cursor) (p : Char → Bool) : List Char × Cursor :=
  let cs := c.rest.takeWhile p
  (cs, c.skip cs.length)

def skipWhile (c : Cursor) (p : Char → Bool) : Cursor := (c.span p).2

/-- The line break in front, if there is one; only the separators of Unicode keep their form. -/
def lineBreak? (c : Cursor) : Option (Char × Cursor) :=
  let ch := c.peek
  if ch == '\r' && c.peekAt 1 == '\n' then some ('\n', c.skip 2)
  else if ch == '\n' || ch == '\r' || ch == '\x85' then some ('\n', c.next)
  else if ch == '\u2028' || ch == '\u2029' then some (ch, c.next)
  else none

/-- Whether a marker of a document's start or end is in front. -/
def atSeparator (c : Cursor) : Bool :=
  (c.rest.take 3 == ['-', '-', '-'] || c.rest.take 3 == ['.', '.', '.']) && isGapOrEnd (c.peekAt 3)

/-- The place behind blanks, a comment and one line break; `none` if something else is in front. -/
def endOfLine? (c : Cursor) : Option Cursor :=
  let c := c.skipWhile (· == ' ')
  let c := if c.peek == '#' then c.skipWhile (!isBreakOrEnd ·) else c
  if isBreakOrEnd c.peek then some ((c.lineBreak?.map (·.2)).getD c) else none

/-- The place behind blanks, comments and line breaks, and whether there was a line break. -/
def skipGap (sawBreak : Bool) : Nat → Cursor → Bool × Cursor
  | 0, c => (sawBreak, c)
  | fuel + 1, c =>
    let c := c.skipWhile (· == ' ')
    let c := if c.peek == '#' then c.skipWhile (!isBreakOrEnd ·) else c
    match c.lineBreak? with
    | some (_, c) => skipGap true fuel c
    | none => (sawBreak, c)

/-- The line breaks in front, each behind characters that pass a test. -/
def breaks (p : Char → Bool) (stop : Cursor → Bool) : Nat → Cursor → List Char × Cursor
  | 0, c => ([], c)
  | fuel + 1, c =>
    if stop c then ([], c) else
    let c := c.skipWhile p
    match c.lineBreak? with
    | some (ch, c) =>
      let (chs, c) := breaks p stop fuel c
      (ch :: chs, c)
    | none => ([], c)

end Cursor

end Candidacy.Yaml
