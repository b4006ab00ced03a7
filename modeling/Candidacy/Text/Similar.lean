/-!
# Similar texts

How much two texts have in common: the length of the longest run of characters that occurs in both,
and then again of what lies before it and behind it in each. Two texts are similar when what they
have in common makes up three fifths of them or more.
-/

namespace Candidacy.Text

def commonStart : List Char → List Char → Nat
  | a :: as, b :: bs => if a = b then commonStart as bs + 1 else 0
  | _, _ => 0

/-- A run of characters that occurs in two texts: its place in each, and its length. -/
structure SharedRun where
  first : Nat
  second : Nat
  length : Nat

/-- The longest run that occurs in both; of several the one that comes first in the first text, and
then the one that comes first in the second. -/
def longestRun (as bs : List Char) : SharedRun :=
  let places := (List.range as.length).flatMap fun i => (List.range bs.length).map fun j => (i, j)
  places.foldl (fun best (i, j) =>
    let n := commonStart (as.drop i) (bs.drop j)
    if best.length < n then ⟨i, j, n⟩ else best) ⟨0, 0, 0⟩

/-- How many characters two texts have in common, given how often to look for a run. -/
def commonWithin : Nat → List Char → List Char → Nat
  | 0, _, _ => 0
  | fuel + 1, as, bs =>
    let run := longestRun as bs
    if run.length = 0 then 0
    else run.length + commonWithin fuel (as.take run.first) (bs.take run.second) +
      commonWithin fuel (as.drop (run.first + run.length)) (bs.drop (run.second + run.length))

def common (as bs : List Char) : Nat := commonWithin as.length as bs

/-- Whether what two texts have in common makes up three fifths of them. -/
def similar (a b : String) : Bool :=
  3 * (a.length + b.length) ≤ 10 * common a.toList b.toList

/-- The number of characters in common for every character of two texts, as a fraction to compare. -/
def closer (word a b : String) : Bool :=
  common b.toList word.toList * (a.length + word.length) <
    common a.toList word.toList * (b.length + word.length)

def insertCloser (word a : String) : List String → List String
  | [] => [a]
  | b :: bs =>
    if closer word a b || (!closer word b a && b < a) then a :: b :: bs
    else b :: insertCloser word a bs

/-- The candidates similar to a word, three at most, the closest first. -/
def suggestions (word : String) (candidates : List String) : List String :=
  ((candidates.filter (similar · word)).foldr (insertCloser word) []).take 3

end Candidacy.Text
