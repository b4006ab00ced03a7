import Candidacy.Text.Digits
import Candidacy.Text.PrintableTable

/-!
# Quoted text

A text between single quotes, or between double quotes when it holds a single quote and no double
one. The quote in use and the backslash are escaped, and so is whatever has no printed form. Byte
strings are quoted the same way behind a `b`.
-/

namespace Candidacy.Text

def isPrintable (c : Char) : Bool := !Span.anyHas hiddenSpans c.toNat

/-- The quote to put around a text. -/
def quoteFor (cs : List Char) : Char :=
  if cs.contains '\'' && !cs.contains '"' then '"' else '\''

def escape (letter : Char) (width n : Nat) : List Char := '\\' :: letter :: hexDigits width n

def isControl (c : Char) : Bool := c.toNat < 0x20 || (0x7F ≤ c.toNat && c.toNat < 0xA0)

/-- The text with its control characters written by number. -/
def escapeControls (s : String) : String :=
  String.ofList (s.toList.flatMap fun c => if isControl c then escape 'x' 2 c.toNat else [c])

/-- How a character is written between the given quotes. -/
def quotedChar (quote c : Char) : List Char :=
  if c = quote ∨ c = '\\' then ['\\', c]
  else if c = '\t' then ['\\', 't']
  else if c = '\n' then ['\\', 'n']
  else if c = '\r' then ['\\', 'r']
  else if isPrintable c then [c]
  else if c.toNat < 0x100 then escape 'x' 2 c.toNat
  else if c.toNat < 0x10000 then escape 'u' 4 c.toNat
  else escape 'U' 8 c.toNat

def quotedChars (cs : List Char) : List Char :=
  let quote := quoteFor cs
  quote :: cs.flatMap (quotedChar quote) ++ [quote]

def quoted (s : String) : String := String.ofList (quotedChars s.toList)

def quotedByte (quote : Char) (b : UInt8) : List Char :=
  if 32 ≤ b && b < 127 then quotedChar quote (Char.ofNat b.toNat)
  else if b == 9 then ['\\', 't']
  else if b == 10 then ['\\', 'n']
  else if b == 13 then ['\\', 'r']
  else escape 'x' 2 b.toNat

def quotedBytes (bs : List UInt8) : String :=
  let quote := quoteFor (bs.map fun b => Char.ofNat b.toNat)
  String.ofList ('b' :: quote :: bs.flatMap (quotedByte quote) ++ [quote])

end Candidacy.Text
