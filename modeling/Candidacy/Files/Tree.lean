import Candidacy.Files.Path

/-!
# File trees

Files by the names that lead to them from a common root. A directory is there when a file lies in it,
and the root is always there. Names and paths are limited in length.
-/

namespace Candidacy

/-- Files by path from the root. -/
structure FileTree where
  files : List (List String × List UInt8)
  deriving DecidableEq, Repr

inductive FileEntry where
  | missing
  | blocked
  | tooLong
  | directory
  | file (bytes : List UInt8)
  deriving DecidableEq, Repr

namespace FileTree

def file? (t : FileTree) (place : List String) : Option (List UInt8) := t.files.lookup place

def isDirectory (t : FileTree) (place : List String) : Bool :=
  place == [] || t.files.any fun (p, _) => place.isPrefixOf p && p != place

def entry (t : FileTree) (place : List String) : FileEntry :=
  match t.file? place with
  | some bytes => .file bytes
  | none => if t.isDirectory place then .directory else .missing

/-- Whether a name is longer than a name of a file can be. -/
def isTooLong (name : String) : Bool := 255 < name.utf8ByteSize

/-- What lies above the root: directories, about whose other contents nothing is known. -/
def above (names : List String) : FileEntry :=
  match names.find? (· != "..") with
  | none => .directory
  | some name => if isTooLong name then .tooLong else .missing

/-- What the names lead to from a place. Two dots lead a level up; only directories lead on. -/
def follow (t : FileTree) (place : List String) : List String → FileEntry
  | [] => t.entry place
  | name :: names =>
    match t.entry place with
    | .directory =>
      if name = ".." then
        if place = [] then above names else t.follow place.dropLast names
      else if isTooLong name then .tooLong
      else t.follow (place ++ [name]) names
    | .file _ => .blocked
    | other => other

/-- What a path leads to from the root. A path that starts with a slash leads away from it. -/
def find (t : FileTree) (p : Path) : FileEntry :=
  if 4096 ≤ p.text.utf8ByteSize then .tooLong
  else if p.slashes = 0 then t.follow [] p.names else above p.names

end FileTree

end Candidacy
