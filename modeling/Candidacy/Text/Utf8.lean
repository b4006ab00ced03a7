/-!
# UTF-8

Bytes are decoded one at a time, so that a text may come in portions of any size (`decode?_append`).
Every line end is read as a line feed, and a carriage return waits for the byte behind it.
-/

namespace Candidacy.Text

/-- A character of which some bytes are still to come: how many, the bits of those that came, and the
range in which the next one must lie. -/
structure Incomplete where
  missing : Nat
  bits : Nat
  low : UInt8
  high : UInt8
  deriving DecidableEq, Repr

/-- What decoding has taken in but not given out yet. -/
structure Decoder where
  character : Option Incomplete
  returned : Bool
  deriving DecidableEq, Repr

namespace Decoder

def start : Decoder := ⟨none, false⟩

/-- What the first byte of a character tells about the others. Only the shortest form of a character
counts, and halves of surrogate pairs are no characters. -/
def lead? (b : UInt8) : Option Incomplete :=
  let n := b.toNat
  if b < 0x80 then some ⟨0, n, 0x80, 0xBF⟩
  else if b < 0xC2 then none
  else if b < 0xE0 then some ⟨1, n - 0xC0, 0x80, 0xBF⟩
  else if b == 0xE0 then some ⟨2, 0, 0xA0, 0xBF⟩
  else if b == 0xED then some ⟨2, n - 0xE0, 0x80, 0x9F⟩
  else if b < 0xF0 then some ⟨2, n - 0xE0, 0x80, 0xBF⟩
  else if b == 0xF0 then some ⟨3, 0, 0x90, 0xBF⟩
  else if b < 0xF4 then some ⟨3, n - 0xF0, 0x80, 0xBF⟩
  else if b == 0xF4 then some ⟨3, n - 0xF0, 0x80, 0x8F⟩
  else none

def extend? (i : Incomplete) (b : UInt8) : Option Incomplete :=
  if i.low ≤ b && b ≤ i.high then some ⟨i.missing - 1, i.bits * 64 + (b.toNat - 0x80), 0x80, 0xBF⟩
  else none

/-- The line feeds and characters that are certain with one more character. -/
def lineEnds (returned : Bool) (c : Char) : List Char × Bool :=
  if c = '\r' then (if returned then ['\n'] else [], true)
  else if returned && c != '\n' then (['\n', c], false)
  else ([c], false)

def step? (d : Decoder) (b : UInt8) : Option (List Char × Decoder) := do
  let i ← match d.character with
    | none => lead? b
    | some i => extend? i b
  if i.missing = 0 then
    let (chars, returned) := lineEnds d.returned (Char.ofNat i.bits)
    return (chars, ⟨none, returned⟩)
  else return ([], { d with character := some i })

def decode? (d : Decoder) : List UInt8 → Option (List Char × Decoder)
  | [] => some ([], d)
  | b :: bs => do
    let (first, d) ← d.step? b
    let (rest, d) ← d.decode? bs
    return (first ++ rest, d)

/-- Portions decoded one after the other give out what the whole gives out. -/
theorem decode?_append (d : Decoder) (xs ys : List UInt8) :
    d.decode? (xs ++ ys) =
      (d.decode? xs).bind fun (a, e) => (e.decode? ys).map fun (b, f) => (a ++ b, f) := by
  induction xs generalizing d with
  | nil => cases h : d.decode? ys <;> simp [decode?, h]
  | cons x xs ih =>
    cases h : d.step? x with
    | none => simp [decode?, h]
    | some r =>
      cases hx : r.2.decode? xs with
      | none => simp [decode?, h, ih, hx]
      | some t => cases hy : t.2.decode? ys <;> simp [decode?, h, ih, hx, hy]

/-- What is given out at the end of the bytes, which must not come inside a character. -/
def finish? (d : Decoder) : Option (List Char) :=
  if d.character.isSome then none else some (if d.returned then ['\n'] else [])

end Decoder

end Candidacy.Text
