import Candidacy.Text.CaseTable

/-!
# Small and capital letters

Full case conversion: a letter may become several, and a capital sigma becomes the final small sigma
at the end of a word, that is, after a letter with a case and not before one.
-/

namespace Candidacy.Text

/-- Whether the character is looked through when the letters around a sigma are sought. -/
def isIgnorable (c : Char) : Bool := Span.anyHas ignorableSpans c.toNat

def isCased (c : Char) : Bool := Span.anyHas casedSpans c.toNat

/-- Whether the first character that is not looked through is a letter with a case. -/
def meetsCased : List Char → Bool
  | [] => false
  | c :: cs => if isIgnorable c then meetsCased cs else isCased c

/-- The small form of a character away from its neighbours. -/
def lowerChar (c : Char) : List Char :=
  if c = '\u0130' then ['i', '\u0307'] else [Char.ofNat (Run.image lowerRuns c.toNat)]

/-- The small form of a capital sigma between the text before it, read backwards, and after it. -/
def lowerSigma (before after : List Char) : Char :=
  if meetsCased before && !meetsCased after then '\u03C2' else '\u03C3'

/-- The small form of a text that follows `before`, which is read backwards. -/
def lowerAfter (before : List Char) : List Char → List Char
  | [] => []
  | c :: cs =>
    (if c = '\u03A3' then [lowerSigma before cs] else lowerChar c) ++ lowerAfter (c :: before) cs

def lowerChars (cs : List Char) : List Char := lowerAfter [] cs

/-- The small form of a text. -/
def lower (s : String) : String := String.ofList (lowerChars s.toList)

def upperChar (c : Char) : List Char :=
  match upperSpellings.lookup c.toNat with
  | some spelling => spelling.map Char.ofNat
  | none => [Char.ofNat (Run.image upperRuns c.toNat)]

def upperChars (cs : List Char) : List Char := cs.flatMap upperChar

def upper (s : String) : String := String.ofList (upperChars s.toList)

/-- The small form of an ASCII letter; every other byte stays. -/
def lowerByte (b : UInt8) : UInt8 := if 65 ≤ b && b ≤ 90 then b + 32 else b

def isBlankByte (b : UInt8) : Bool := b == 32 || (9 ≤ b && b ≤ 13)

def trimBytes (bs : List UInt8) : List UInt8 :=
  ((bs.dropWhile isBlankByte).reverse.dropWhile isBlankByte).reverse

end Candidacy.Text
