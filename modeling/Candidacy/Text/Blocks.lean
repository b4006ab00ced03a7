import Candidacy.Text.Utf8

/-!
# Texts in blocks

A text is read from bytes in blocks of characters, each as soon as enough bytes are decoded for it.
Bytes that are no text spoil the block for which they are decoded and leave the blocks before it.
-/

namespace Candidacy.Text

/-- The blocks of a text; it is spoilt if bytes that are no text follow. -/
structure Blocks where
  blocks : List (List Char)
  spoilt : Bool
  deriving DecidableEq, Repr

/-- A text on the way: the bytes to come, the characters that wait to be read, and how many bytes and
characters the last portion had. -/
structure Reader where
  bytes : List UInt8
  decoder : Decoder
  ready : List Char
  lastBytes : Nat
  lastChars : Nat

namespace Reader

def blockSize : Nat := 4096

def portionSize : Nat := 8192

def start (bytes : List UInt8) : Reader := ⟨bytes, .start, [], 0, 0⟩

/-- How many bytes to decode for the characters wanted, going by the last portion. -/
def bytesFor (r : Reader) (wanted : Nat) : Nat :=
  if r.lastChars = 0 || r.lastBytes < r.lastChars then max portionSize wanted
  else max portionSize (wanted * r.lastBytes / r.lastChars)

def portion? (r : Reader) (wanted : Nat) : Option Reader :=
  let portion := r.bytes.take (r.bytesFor wanted)
  if portion = [] then
    r.decoder.finish?.map fun chars => ⟨[], .start, r.ready ++ chars, 0, chars.length⟩
  else
    (r.decoder.decode? portion).map fun (chars, decoder) =>
      ⟨r.bytes.drop portion.length, decoder, r.ready ++ chars, portion.length, chars.length⟩

/-- The text with a block ready, or with all that is left. -/
def fill? : Nat → Reader → Option Reader
  | 0, r => some r
  | fuel + 1, r =>
    if blockSize ≤ r.ready.length || (r.bytes = [] && r.decoder = .start) then some r
    else (r.portion? (blockSize - r.ready.length)).bind (fill? fuel)

def blocks : Nat → Reader → Blocks
  | 0, _ => ⟨[], false⟩
  | fuel + 1, r =>
    match r.fill? (r.bytes.length + 2) with
    | none => ⟨[], true⟩
    | some r =>
      if r.ready = [] then ⟨[], false⟩
      else
        let more := blocks fuel { r with ready := r.ready.drop blockSize }
        { more with blocks := r.ready.take blockSize :: more.blocks }

end Reader

def Blocks.ofBytes (bytes : List UInt8) : Blocks :=
  (Reader.start bytes).blocks (bytes.length + 1)

end Candidacy.Text
