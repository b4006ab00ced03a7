/-!
# Paths

A path is a number of leading slashes, none, one or two, and the names between the others. Empty
names and single dots are left out; two dots stay, for what they mean depends on the files.
-/

namespace Candidacy

/-- A file path: its leading slashes and its names. -/
structure Path where
  slashes : Nat
  names : List String
  deriving DecidableEq, Repr

namespace Path

def split : List Char → List (List Char)
  | [] => [[]]
  | '/' :: cs => [] :: split cs
  | c :: cs =>
    match split cs with
    | [] => [[c]]
    | piece :: pieces => (c :: piece) :: pieces

/-- Two leading slashes are kept, any other number of them counts as one. -/
def leading (cs : List Char) : Nat :=
  let n := (cs.takeWhile (· == '/')).length
  if n = 0 then 0 else if n = 2 then 2 else 1

def ofString (s : String) : Path where
  slashes := leading s.toList
  names := ((split s.toList).map String.ofList).filter fun n => n != "" && n != "."

/-- The path of a name seen from a base; a path that starts with a slash needs no base. -/
def join (base name : Path) : Path :=
  if name.slashes = 0 then ⟨base.slashes, base.names ++ name.names⟩ else name

def text (p : Path) : String :=
  let body := String.ofList (List.replicate p.slashes '/') ++ "/".intercalate p.names
  if body = "" then "." else body

end Path

end Candidacy
