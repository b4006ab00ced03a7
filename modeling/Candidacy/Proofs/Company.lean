import Candidacy.Proofs.Requirement.WellFormed

/-!
# Companies and their answers

What a company asks for is strictly in order and empty only where nothing is asked for. Its answer
rests on the normal forms of the possessions, so it is the same for whoever owns them in normal
form, and more possessions can only turn it for the better.
-/

namespace Candidacy

namespace Company

/-- The name is non-blank and trimmed, and the requirement, if there is one, is well formed. -/
structure WellFormed (c : Company) : Prop where
  name_ne_empty : c.name ≠ ""
  trim_name : Text.trim c.name = c.name
  requirement : ∀ r ∈ c.requirement, r.WellFormed

theorem wellFormed_iff {c : Company} :
    c.WellFormed ↔ c.name ≠ "" ∧ Text.trim c.name = c.name ∧ ∀ r ∈ c.requirement, r.WellFormed :=
  ⟨fun h => ⟨h.1, h.2, h.3⟩, fun h => ⟨h.1, h.2.1, h.2.2⟩⟩

instance (c : Company) : Decidable c.WellFormed := decidable_of_iff _ wellFormed_iff.symm

theorem wellFormed_of_ofValues {name requirement : Value} {c : Company}
    (hreq : ∀ r, requirement = .requirement r → r.WellFormed)
    (h : ofValues name requirement = .ok c) : c.WellFormed := by
  unfold ofValues at h
  split at h
  · rename_i t _
    split at h
    · cases h
    · rename_i hb
      unfold requirementOf at h
      split at h
      · cases h
        exact ⟨hb, Text.trim_trim t, fun r hr => by cases hr⟩
      · rename_i r
        cases h
        refine ⟨hb, Text.trim_trim t, fun q hq => ?_⟩
        cases hq
        exact hreq r rfl
      · cases h
  · cases h

theorem mem_requiredItems {c : Company} {x : String} :
    x ∈ c.requiredItems ↔ ∃ r ∈ c.requirement, x ∈ r.leaves := by
  unfold requiredItems
  cases c.requirement with
  | none => simp
  | some r => simp [Requirement.mem_items]

theorem requiredItems_strict (c : Company) : c.requiredItems.Pairwise (· < ·) := by
  unfold requiredItems
  cases c.requirement with
  | none => exact List.Pairwise.nil
  | some r => exact Text.sortedSet_strict _

theorem WellFormed.requiredItems_eq_nil_iff {c : Company} (h : c.WellFormed) :
    c.requiredItems = [] ↔ c.requirement = none := by
  unfold requiredItems
  cases hr : c.requirement with
  | none => simp
  | some r =>
    have hne := (h.requirement r hr).leaves_ne_nil
    simpa [Requirement.items, Text.sortedSet_eq_nil_iff] using hne

theorem WellFormed.normalizeItem_required {c : Company} (h : c.WellFormed) {x : String}
    (hx : x ∈ c.requiredItems) : normalizeItem x = x := by
  obtain ⟨r, hr, hxr⟩ := mem_requiredItems.mp hx
  exact (h.requirement r hr).normalizeItem_leaf hxr

theorem canWork_heldItems (c : Company) (ps : List String) :
    c.canWork (heldItems ps) = c.canWork ps := by
  unfold canWork
  rw [heldItems_heldItems]

/-- Whoever holds every required item that another holds may work wherever the other may. -/
theorem canWork_mono {c : Company} {ps qs : List String}
    (hsub : ∀ x ∈ c.requiredItems, x ∈ heldItems ps → x ∈ heldItems qs)
    (h : c.canWork ps = true) : c.canWork qs = true := by
  unfold canWork at h ⊢
  cases hr : c.requirement with
  | none => rfl
  | some r =>
    rw [hr] at h
    refine Requirement.holds_mono (fun x hx => hsub x ?_) h
    exact mem_requiredItems.mpr ⟨r, hr, hx⟩

/-- Whoever holds all required items may work for the company. -/
theorem WellFormed.canWork_of_required {c : Company} (h : c.WellFormed) {ps : List String}
    (hall : ∀ x ∈ c.requiredItems, x ∈ heldItems ps) : c.canWork ps = true := by
  unfold canWork
  cases hr : c.requirement with
  | none => rfl
  | some r =>
    refine (h.requirement r hr).holds_of_leaves fun x hx => hall x ?_
    exact mem_requiredItems.mpr ⟨r, hr, hx⟩

end Company

end Candidacy
