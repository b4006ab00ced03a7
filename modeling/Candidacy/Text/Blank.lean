import Candidacy.Text.Span

/-!
# White space

`isBlank` is Unicode white space together with the four information separators below the plain
blank. `trim` removes it from both ends, and `padded` puts plain blanks behind a text.
-/

namespace Candidacy.Text

def blankSpans : List Span := [
  ⟨0x9, 0xD⟩, ⟨0x1C, 0x20⟩, ⟨0x85, 0x85⟩, ⟨0xA0, 0xA0⟩, ⟨0x1680, 0x1680⟩, ⟨0x2000, 0x200A⟩,
  ⟨0x2028, 0x2029⟩, ⟨0x202F, 0x202F⟩, ⟨0x205F, 0x205F⟩, ⟨0x3000, 0x3000⟩]

def isBlank (c : Char) : Bool := Span.anyHas blankSpans c.toNat

def trimStart (cs : List Char) : List Char := cs.dropWhile isBlank

def trimEnd (cs : List Char) : List Char := (cs.reverse.dropWhile isBlank).reverse

def trimChars (cs : List Char) : List Char := trimEnd (trimStart cs)

/-- Drops white space from both ends. -/
def trim (s : String) : String := String.ofList (trimChars s.toList)

/-- The text with blanks behind it up to a number of characters. -/
def padded (width : Nat) (s : String) : String :=
  s ++ String.ofList (List.replicate (width - s.length) ' ')

end Candidacy.Text
