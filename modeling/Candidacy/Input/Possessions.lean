import Candidacy.Input.Fault
import Candidacy.Value.Store

/-!
# Possessions handed over

A collection of possessions may be of any kind that can be walked through, a single string apart.
The walk stops at the first member that is no string.
-/

namespace Candidacy.Possessions

/-- The strings among values up to the first that is none, and the kind of that one. -/
def words : List Value → Except Kind (List Word)
  | [] => .ok []
  | v :: vs =>
    match v.word? with
    | some w => (w :: ·) <$> words vs
    | none => .error v.kind

/-- How many values the search for strings takes: all, or up to and including the first other. -/
def taken : List Value → Nat
  | [] => 0
  | v :: vs => if v.word?.isSome then taken vs + 1 else 1

def ofValue (s : Store) (v : Value) : Except InputFault (List Word) × Store :=
  match v with
  | .none => (.error (.invalid .possessionsMissing), s)
  | .text _ | .operator _ | .bytes _ => (.error (.invalid .possessionsText), s)
  | _ =>
    match s.elements? v with
    | none => (.error (.notIterable v.kind), s)
    | some vs =>
      ((words vs).mapError fun kind => .invalid (.possessionKind kind), s.advance v (taken vs))

def normalForms (s : Store) (v : Value) : Except InputFault (List String) × Store :=
  let (r, s) := ofValue s v
  (r.map fun ws => heldItems (ws.map (·.text)), s)

end Candidacy.Possessions
