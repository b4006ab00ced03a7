import Candidacy.Proofs.Requirement.WellFormed
import Mathlib.Data.Finset.Sups

/-!
# Alternatives

The ways to meet a requirement, each a set of items: an item is the one way to meet itself, a
composite is met by one alternative of each part taken together or by any alternative of any part. A
requirement holds of whoever has all of one alternative.

- `unions`: the ways to take one set of each of several families together.
- `holds_iff_alternative`: holding is having all of an alternative.
- `WellFormed.mem_items_iff`: the items are those that stand in some alternative.
-/

namespace Candidacy.Requirement

open scoped FinsetFamily

/-! ## Families of sets -/

/-- The unions of one set of each family. -/
def unions : List (Finset (Finset String)) → Finset (Finset String)
  | [] => {∅}
  | f :: fs => f ⊻ unions fs

def members : List (Finset (Finset String)) → Finset (Finset String)
  | [] => ∅
  | f :: fs => f ∪ members fs

variable {fs : List (Finset (Finset String))} {a : Finset String}

theorem mem_unions_cons {f : Finset (Finset String)} :
    a ∈ unions (f :: fs) ↔ ∃ b ∈ f, ∃ c ∈ unions fs, b ∪ c = a := Finset.mem_sups

theorem mem_members : a ∈ members fs ↔ ∃ f ∈ fs, a ∈ f := by
  induction fs with
  | nil => simp [members]
  | cons f fs ih =>
    rw [members, Finset.mem_union, ih]
    simp only [List.mem_cons, exists_eq_or_imp]

theorem unions_nonempty : (unions fs).Nonempty ↔ ∀ f ∈ fs, f.Nonempty := by
  induction fs with
  | nil => simp [unions]
  | cons f fs ih => rw [unions, Finset.sups_nonempty, ih, List.forall_mem_cons]

theorem exists_unions_subset {held : Finset String} :
    (∃ a ∈ unions fs, a ⊆ held) ↔ ∀ f ∈ fs, ∃ a ∈ f, a ⊆ held := by
  induction fs with
  | nil => simp [unions]
  | cons f fs ih =>
    rw [List.forall_mem_cons, ← ih]
    constructor
    · rintro ⟨a, ha, hsub⟩
      obtain ⟨b, hb, c, hc, rfl⟩ := mem_unions_cons.mp ha
      rw [Finset.union_subset_iff] at hsub
      exact ⟨⟨b, hb, hsub.1⟩, ⟨c, hc, hsub.2⟩⟩
    · rintro ⟨⟨b, hb, hbs⟩, ⟨c, hc, hcs⟩⟩
      exact ⟨b ∪ c, mem_unions_cons.mpr ⟨b, hb, c, hc, rfl⟩, Finset.union_subset hbs hcs⟩

/-- What stands in a union of one set of each family is what stands in some set of some family, as
long as there is a set to take of each: an empty family spoils all unions. -/
theorem exists_mem_unions (hne : ∀ f ∈ fs, f.Nonempty) {x : String} :
    (∃ a ∈ unions fs, x ∈ a) ↔ ∃ f ∈ fs, ∃ a ∈ f, x ∈ a := by
  induction fs with
  | nil => simp [unions]
  | cons f fs ih =>
    rw [List.forall_mem_cons] at hne
    rw [List.exists_mem_cons_iff, ← ih hne.2]
    constructor
    · rintro ⟨a, ha, hx⟩
      obtain ⟨b, hb, c, hc, rfl⟩ := mem_unions_cons.mp ha
      rcases Finset.mem_union.mp hx with hx | hx
      · exact .inl ⟨b, hb, hx⟩
      · exact .inr ⟨c, hc, hx⟩
    · rintro (⟨b, hb, hx⟩ | ⟨c, hc, hx⟩)
      · obtain ⟨c, hc⟩ := unions_nonempty.mpr hne.2
        exact ⟨b ∪ c, mem_unions_cons.mpr ⟨b, hb, c, hc, rfl⟩, Finset.mem_union_left _ hx⟩
      · obtain ⟨b, hb⟩ := hne.1
        exact ⟨b ∪ c, mem_unions_cons.mpr ⟨b, hb, c, hc, rfl⟩, Finset.mem_union_right _ hx⟩

/-! ## The alternatives of a requirement -/

mutual
/-- The sets of items each of which is enough to meet the requirement. -/
def alternatives : Requirement → Finset (Finset String)
  | item name => {{name}}
  | composite .all parts => unions (alternativesAll parts)
  | composite .any parts => members (alternativesAll parts)
termination_by structural r => r

def alternativesAll : List Requirement → List (Finset (Finset String))
  | [] => []
  | r :: rs => alternatives r :: alternativesAll rs
termination_by structural rs => rs
end

theorem alternativesAll_eq (rs : List Requirement) : alternativesAll rs = rs.map alternatives := by
  induction rs with
  | nil => rfl
  | cons r rs ih => rw [alternativesAll, ih, List.map_cons]

theorem alternatives_all (parts : List Requirement) :
    (composite .all parts).alternatives = unions (parts.map alternatives) := by
  rw [alternatives, alternativesAll_eq]

theorem mem_alternatives_any {parts : List Requirement} {a : Finset String} :
    a ∈ (composite .any parts).alternatives ↔ ∃ r ∈ parts, a ∈ r.alternatives := by
  simp only [alternatives, alternativesAll_eq, mem_members, List.mem_map,
    exists_exists_and_eq_and]

/-- A requirement holds of whoever has all of an alternative, and of nobody else. -/
theorem holds_iff_alternative {held : List String} {r : Requirement} :
    r.holds held = true ↔ ∃ a ∈ r.alternatives, a ⊆ held.toFinset := by
  induction r using induct with
  | item name =>
    rw [holds_item, List.contains_iff_mem]
    simp [alternatives]
  | composite op parts ih =>
    cases op with
    | all =>
      rw [holds_all, List.all_eq_true, alternatives_all, exists_unions_subset, List.forall_mem_map]
      exact forall₂_congr ih
    | any =>
      rw [holds_any, List.any_eq_true]
      constructor
      · rintro ⟨r, hr, hold⟩
        obtain ⟨a, ha, hsub⟩ := (ih r hr).mp hold
        exact ⟨a, mem_alternatives_any.mpr ⟨r, hr, ha⟩, hsub⟩
      · rintro ⟨a, ha, hsub⟩
        obtain ⟨r, hr, ha⟩ := mem_alternatives_any.mp ha
        exact ⟨r, hr, (ih r hr).mpr ⟨a, ha, hsub⟩⟩

namespace WellFormed

variable {r : Requirement}

theorem alternatives_nonempty (h : r.WellFormed) : r.alternatives.Nonempty := by
  induction h with
  | item => exact Finset.singleton_nonempty _
  | @composite op parts hne _ ih =>
    cases op with
    | all =>
      rw [alternatives_all, unions_nonempty, List.forall_mem_map]
      exact ih
    | any =>
      obtain ⟨r, hr⟩ := List.exists_mem_of_ne_nil parts hne
      obtain ⟨a, ha⟩ := ih r hr
      exact ⟨a, mem_alternatives_any.mpr ⟨r, hr, ha⟩⟩

theorem alternative_nonempty (h : r.WellFormed) {a : Finset String} (ha : a ∈ r.alternatives) :
    a.Nonempty := by
  induction h generalizing a with
  | item =>
    rw [alternatives, Finset.mem_singleton] at ha
    rw [ha]
    exact Finset.singleton_nonempty _
  | @composite op parts hne _ ih =>
    cases op with
    | all =>
      obtain ⟨p, ps, rfl⟩ := List.exists_cons_of_ne_nil hne
      rw [alternatives_all, List.map_cons, mem_unions_cons] at ha
      obtain ⟨b, hb, c, -, rfl⟩ := ha
      exact (ih p List.mem_cons_self hb).mono Finset.subset_union_left
    | any =>
      obtain ⟨r, hr, ha⟩ := mem_alternatives_any.mp ha
      exact ih r hr ha

theorem mem_items_iff (h : r.WellFormed) {x : String} :
    x ∈ r.items ↔ ∃ a ∈ r.alternatives, x ∈ a := by
  rw [mem_items]
  induction h with
  | item => simp [leaves, alternatives]
  | @composite op parts _ hparts ih =>
    have hleaves : x ∈ (Requirement.composite op parts).leaves ↔
        ∃ r ∈ parts, ∃ a ∈ r.alternatives, x ∈ a := by
      rw [mem_leaves_composite]
      exact exists_congr fun r => and_congr_right fun hr => ih r hr
    cases op with
    | all =>
      have hne : ∀ f ∈ parts.map alternatives, f.Nonempty :=
        List.forall_mem_map.mpr fun r hr => (hparts r hr).alternatives_nonempty
      rw [hleaves, alternatives_all, exists_mem_unions hne]
      simp only [List.mem_map, exists_exists_and_eq_and]
    | any =>
      rw [hleaves]
      constructor
      · rintro ⟨r, hr, a, ha, hx⟩
        exact ⟨a, mem_alternatives_any.mpr ⟨r, hr, ha⟩, hx⟩
      · rintro ⟨a, ha, hx⟩
        obtain ⟨r, hr, ha⟩ := mem_alternatives_any.mp ha
        exact ⟨r, hr, a, ha, hx⟩

end WellFormed

end Candidacy.Requirement
