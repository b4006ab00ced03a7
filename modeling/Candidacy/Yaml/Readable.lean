import Candidacy.Fault
import Candidacy.Text.Blocks

/-!
# Readable texts

A YAML text must consist of certain characters, and is looked through for others block by block when
its characters are needed. So a text is readable up to some place, and a fault waits behind it.
-/

namespace Candidacy.Yaml

def isAllowed (c : Char) : Bool :=
  c == '\t' || c == '\n' || c == '\r' || c == '\x85' || (' ' ≤ c && c ≤ '~') ||
    ('\u00a0' ≤ c && c.toNat ≤ 0xD7FF) || (0xE000 ≤ c.toNat && c.toNat ≤ 0xFFFD) ||
    0x10000 ≤ c.toNat

/-- A text as far as it can be read, and the fault behind that unless the text ends there. -/
structure Readable where
  chars : List Char
  stop : Option Fault

namespace Readable

/-- The blocks as they are looked through: the first two together. -/
def portions (t : Text.Blocks) : List (List Char) :=
  if t.spoilt && t.blocks.length < 2 then []
  else (t.blocks.take 2).flatten :: t.blocks.drop 2

/-- The text in blocks, up to the first portion with a character that is not allowed. -/
def ofBlocks (t : Text.Blocks) : Readable :=
  let portions := portions t
  let good := portions.takeWhile (·.all isAllowed)
  let stop :=
    if good.length < portions.length then some Fault.yaml
    else if t.spoilt then some .fileNotUtf8
    else none
  ⟨good.flatten, stop⟩

end Readable

end Candidacy.Yaml
