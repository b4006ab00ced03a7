import Candidacy.Json.Basic

/-!
# JSON text

Two layouts: `compact` puts a value on one line of ASCII text, everything else escaped; `indented`
gives each item and each field a line of its own, two blanks deeper than its container, and escapes
only what must be.
-/

namespace Candidacy.Json

def unitEscape (n : Nat) : List Char := '\\' :: 'u' :: Text.hexDigits 4 n

/-- The escape of a character: one UTF-16 unit, or two for a character beyond the first plane. -/
def charEscape (c : Char) : List Char :=
  if c.toNat < 0x10000 then unitEscape c.toNat
  else
    let n := c.toNat - 0x10000
    unitEscape (0xD800 + n / 0x400) ++ unitEscape (0xDC00 + n % 0x400)

/-- How a character is written inside a text; `ascii` asks for an escape of all but ASCII. -/
def writtenChar (ascii : Bool) (c : Char) : List Char :=
  if c = '"' ∨ c = '\\' then ['\\', c]
  else if c = '\n' then ['\\', 'n']
  else if c = '\r' then ['\\', 'r']
  else if c = '\t' then ['\\', 't']
  else if c = '\x0c' then ['\\', 'f']
  else if c = '\x08' then ['\\', 'b']
  else if c.toNat < 0x20 ∨ (ascii = true ∧ 0x7E < c.toNat) then charEscape c
  else [c]

def writtenText (ascii : Bool) (s : String) : List Char :=
  '"' :: s.toList.flatMap (writtenChar ascii) ++ ['"']

def writtenInt (n : Int) : List Char :=
  if n < 0 then '-' :: Text.decimal n.natAbs else Text.decimal n.natAbs

/-- A decimal without an exponent, with at least one digit after the point. -/
def writtenDecimal (d : Decimal) : List Char :=
  if d.negative then '-' :: d.positional else d.positional

mutual
/-- The value on one line of ASCII text. -/
def compact : Json → List Char
  | null => "null".toList
  | bool b => (if b then "true" else "false").toList
  | integer n => writtenInt n
  | decimal d => writtenDecimal d
  | text s => writtenText true s
  | array items => '[' :: compactItems items ++ [']']
  | object fields => '\x7b' :: compactFields fields ++ ['\x7d']
termination_by structural j => j

def compactItems : List Json → List Char
  | [] => []
  | [j] => compact j
  | j :: js => compact j ++ ',' :: ' ' :: compactItems js
termination_by structural js => js

def compactFields : List (String × Json) → List Char
  | [] => []
  | [(name, j)] => writtenText true name ++ ':' :: ' ' :: compact j
  | (name, j) :: fields =>
    writtenText true name ++ ':' :: ' ' :: compact j ++ ',' :: ' ' :: compactFields fields
termination_by structural fields => fields
end

def newline (depth : Nat) : List Char := '\n' :: List.replicate (2 * depth) ' '

mutual
/-- The value laid out over several lines, its own first line at the given depth. -/
def indentedAt (depth : Nat) : Json → List Char
  | null => "null".toList
  | bool b => (if b then "true" else "false").toList
  | integer n => writtenInt n
  | decimal d => writtenDecimal d
  | text s => writtenText false s
  | array [] => ['[', ']']
  | array (j :: js) =>
    '[' :: newline (depth + 1) ++ indentedAt (depth + 1) j ++ moreItems (depth + 1) js ++
      newline depth ++ [']']
  | object [] => ['\x7b', '\x7d']
  | object ((name, j) :: fields) =>
    '\x7b' :: newline (depth + 1) ++ writtenText false name ++ ':' :: ' ' ::
      indentedAt (depth + 1) j ++ moreFields (depth + 1) fields ++ newline depth ++ ['\x7d']
termination_by structural j => j

/-- The items after the first, each behind a comma and on a line of its own. -/
def moreItems (depth : Nat) : List Json → List Char
  | [] => []
  | j :: js => ',' :: newline depth ++ indentedAt depth j ++ moreItems depth js
termination_by structural js => js

def moreFields (depth : Nat) : List (String × Json) → List Char
  | [] => []
  | (name, j) :: fields =>
    ',' :: newline depth ++ writtenText false name ++ ':' :: ' ' :: indentedAt depth j ++
      moreFields depth fields
termination_by structural fields => fields
end

def indented (j : Json) : String := String.ofList (indentedAt 0 j)

def line (j : Json) : String := String.ofList (compact j)

end Candidacy.Json
