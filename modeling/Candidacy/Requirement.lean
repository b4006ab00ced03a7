import Candidacy.Operator
import Candidacy.Text.Sorted

/-!
# Requirements

A requirement is a single item or a composite of other requirements. `holds` says whether a set of
items meets it, `describe` writes it down and `leaves` lists its items from left to right.
-/

namespace Candidacy

/-- What a candidate must own. -/
inductive Requirement where
  | item (name : String)
  | composite (op : Operator) (parts : List Requirement)
  deriving Repr, Inhabited

namespace Requirement

mutual
def beq : Requirement → Requirement → Bool
  | item a, item b => a == b
  | composite o ps, composite o' qs => o == o' && beqAll ps qs
  | _, _ => false
termination_by structural r => r

def beqAll : List Requirement → List Requirement → Bool
  | [], [] => true
  | p :: ps, q :: qs => beq p q && beqAll ps qs
  | _, _ => false
termination_by structural rs => rs
end

mutual
theorem eq_of_beq : ∀ {r t : Requirement}, beq r t = true → r = t
  | item a, item b, h => by simp_all [beq]
  | composite o ps, composite o' qs, h => by
    simp only [beq, Bool.and_eq_true, beq_iff_eq] at h
    rw [h.1, eq_of_beqAll h.2]
  | item _, composite _ _, h => by simp [beq] at h
  | composite _ _, item _, h => by simp [beq] at h

theorem eq_of_beqAll : ∀ {ps qs : List Requirement}, beqAll ps qs = true → ps = qs
  | [], [], _ => rfl
  | p :: ps, q :: qs, h => by
    simp only [beqAll, Bool.and_eq_true] at h
    rw [eq_of_beq h.1, eq_of_beqAll h.2]
  | [], _ :: _, h => by simp [beqAll] at h
  | _ :: _, [], h => by simp [beqAll] at h
end

mutual
theorem beq_refl : ∀ r : Requirement, beq r r = true
  | item a => by simp [beq]
  | composite o ps => by simp [beq, beqAll_refl ps]

theorem beqAll_refl : ∀ ps : List Requirement, beqAll ps ps = true
  | [] => rfl
  | p :: ps => by simp [beqAll, beq_refl p, beqAll_refl ps]
end

instance : DecidableEq Requirement := fun r t =>
  decidable_of_iff (beq r t = true) ⟨eq_of_beq, fun h => h ▸ beq_refl r⟩

mutual
/-- Whether the items held meet the requirement. -/
def holds (held : List String) : Requirement → Bool
  | item name => held.contains name
  | composite .all parts => allHold held parts
  | composite .any parts => anyHolds held parts
termination_by structural r => r

def allHold (held : List String) : List Requirement → Bool
  | [] => true
  | r :: rs => holds held r && allHold held rs
termination_by structural rs => rs

def anyHolds (held : List String) : List Requirement → Bool
  | [] => false
  | r :: rs => holds held r || anyHolds held rs
termination_by structural rs => rs
end

mutual
/-- The requirement in words: a composite stands in brackets, its operator between its parts. -/
def describe : Requirement → String
  | item name => name
  | composite op parts => "(" ++ (" " ++ op.name ++ " ").intercalate (describeAll parts) ++ ")"
termination_by structural r => r

def describeAll : List Requirement → List String
  | [] => []
  | r :: rs => describe r :: describeAll rs
termination_by structural rs => rs
end

mutual
def leaves : Requirement → List String
  | item name => [name]
  | composite _ parts => leavesAll parts
termination_by structural r => r

def leavesAll : List Requirement → List String
  | [] => []
  | r :: rs => leaves r ++ leavesAll rs
termination_by structural rs => rs
end

/-- The items of the requirement in order, each once. -/
def items (r : Requirement) : List String := Text.sortedSet (leaves r)

end Requirement

end Candidacy
