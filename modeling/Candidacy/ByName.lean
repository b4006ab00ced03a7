/-!
# Tables by name

A table keeps one entry per name, in the order in which the names first came. A later entry takes
the place of an earlier one of the same name.
-/

namespace Candidacy

/-- Entries by name, in the order of first appearance. -/
abbrev ByName (α : Type) := List (String × α)

namespace ByName

variable {α : Type}

def get? (t : ByName α) (name : String) : Option α := t.lookup name

def has (t : ByName α) (name : String) : Bool := t.any (·.1 == name)

/-- Enters a value under a name: in the place of the earlier entry, or else at the end. -/
def put (name : String) (a : α) : ByName α → ByName α
  | [] => [(name, a)]
  | (n, b) :: t => if n = name then (n, a) :: t else (n, b) :: put name a t

def names (t : ByName α) : List String := t.map (·.1)

def values (t : ByName α) : List α := t.map (·.2)

/-- The table of the values under the names that `key` gives them. -/
def ofList (key : α → String) (xs : List α) : ByName α :=
  xs.foldl (fun t a => put (key a) a t) []

theorem has_eq_true_iff {t : ByName α} {name : String} : t.has name = true ↔ name ∈ t.names := by
  simp only [has, names, List.any_eq_true, beq_iff_eq, List.mem_map]

theorem names_put (name : String) (a : α) (t : ByName α) :
    (put name a t).names = if name ∈ t.names then t.names else t.names ++ [name] := by
  induction t with
  | nil => simp [put, names]
  | cons e t ih =>
    obtain ⟨n, b⟩ := e
    by_cases h : n = name
    · simp [put, names, h]
    · have h' : ¬ name = n := fun e => h e.symm
      simp only [names] at ih
      simp only [put, h, if_false, names, List.map_cons, List.mem_cons, h', false_or, ih]
      split <;> simp_all

end ByName

end Candidacy
