/-!
# Base64

Bytes from text, six bits a character. Characters that carry no bits are passed over, and the text
must not break off inside a byte.
-/

namespace Candidacy.Yaml

def sextet? (c : Char) : Option Nat :=
  if 'A' ≤ c ∧ c ≤ 'Z' then some (c.toNat - 65)
  else if 'a' ≤ c ∧ c ≤ 'z' then some (c.toNat - 71)
  else if '0' ≤ c ∧ c ≤ '9' then some (c.toNat + 4)
  else if c = '+' then some 62
  else if c = '/' then some 63
  else none

/-- The bytes of a text, given how many characters of a group of four came before, how many paddings
in a row, and the bits that are left over. -/
def fromBase64? (place pads left : Nat) : List Char → Option (List UInt8)
  | [] => if place = 0 then some [] else none
  | c :: cs =>
    if c = '=' then
      if place < 2 then fromBase64? place pads left cs
      else if 4 ≤ place + pads + 1 then some []
      else fromBase64? place (pads + 1) left cs
    else match sextet? c with
      | none => fromBase64? place pads left cs
      | some n =>
        match place with
        | 0 => fromBase64? 1 0 n cs
        | 1 => (UInt8.ofNat (left * 4 + n / 16) :: ·) <$> fromBase64? 2 0 (n % 16) cs
        | 2 => (UInt8.ofNat (left * 16 + n / 4) :: ·) <$> fromBase64? 3 0 (n % 4) cs
        | _ => (UInt8.ofNat (left * 64 + n) :: ·) <$> fromBase64? 0 0 0 cs

end Candidacy.Yaml
