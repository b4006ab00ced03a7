import Candidacy.Requirement
import Candidacy.Proofs.Text.Sorted

/-!
# Requirements as trees

Induction over requirements with a hypothesis for every part, and what a composite makes of its
parts. `holds_mono` says which of the items held matter: the leaves.
-/

namespace Candidacy.Requirement

/-- Induction over a requirement: what holds of all parts holds of the composite. -/
@[elab_as_elim]
theorem induct {motive : Requirement → Prop} (item : ∀ name, motive (.item name))
    (composite : ∀ op parts, (∀ r ∈ parts, motive r) → motive (.composite op parts))
    (r : Requirement) : motive r := by
  refine @Requirement.rec motive (fun parts => ∀ r ∈ parts, motive r) item composite ?nil ?cons r
  case nil => exact fun r hr => absurd hr List.not_mem_nil
  case cons =>
    intro p ps hp hps r hr
    rcases List.mem_cons.mp hr with rfl | hr
    · exact hp
    · exact hps r hr

theorem allHold_eq (held : List String) (rs : List Requirement) :
    allHold held rs = rs.all (holds held) := by
  induction rs with
  | nil => rfl
  | cons r rs ih => rw [allHold, ih, List.all_cons]

theorem anyHolds_eq (held : List String) (rs : List Requirement) :
    anyHolds held rs = rs.any (holds held) := by
  induction rs with
  | nil => rfl
  | cons r rs ih => rw [anyHolds, ih, List.any_cons]

theorem describeAll_eq (rs : List Requirement) : describeAll rs = rs.map describe := by
  induction rs with
  | nil => rfl
  | cons r rs ih => rw [describeAll, ih, List.map_cons]

theorem leavesAll_eq (rs : List Requirement) : leavesAll rs = rs.flatMap leaves := by
  induction rs with
  | nil => rfl
  | cons r rs ih => rw [leavesAll, ih, List.flatMap_cons]

theorem holds_item (held : List String) (name : String) :
    (item name).holds held = held.contains name := rfl

theorem holds_all (held : List String) (parts : List Requirement) :
    (composite .all parts).holds held = parts.all (holds held) := allHold_eq ..

theorem holds_any (held : List String) (parts : List Requirement) :
    (composite .any parts).holds held = parts.any (holds held) := anyHolds_eq ..

theorem holds_singleton (held : List String) (op : Operator) (r : Requirement) :
    (composite op [r]).holds held = r.holds held := by
  cases op with
  | all => rw [holds_all, List.all_cons, List.all_nil, Bool.and_true]
  | any => rw [holds_any, List.any_cons, List.any_nil, Bool.or_false]

/-- A composite depends on its parts only through which of them hold. -/
theorem holds_composite_congr {held : List String} {op : Operator} {ps qs : List Requirement}
    (h : ps.map (holds held) = qs.map (holds held)) :
    (composite op ps).holds held = (composite op qs).holds held := by
  cases op with
  | all =>
    have hmap (rs : List Requirement) : rs.all (holds held) = (rs.map (holds held)).all id := by
      rw [List.all_map, Function.id_comp]
    rw [holds_all, holds_all, hmap, hmap, h]
  | any =>
    have hmap (rs : List Requirement) : rs.any (holds held) = (rs.map (holds held)).any id := by
      rw [List.any_map, Function.id_comp]
    rw [holds_any, holds_any, hmap, hmap, h]

theorem describe_composite (op : Operator) (parts : List Requirement) :
    (composite op parts).describe =
      "(" ++ (" " ++ op.name ++ " ").intercalate (parts.map describe) ++ ")" := by
  rw [describe, describeAll_eq]

theorem leaves_composite (op : Operator) (parts : List Requirement) :
    (composite op parts).leaves = parts.flatMap leaves := leavesAll_eq parts

theorem mem_leaves_composite {op : Operator} {parts : List Requirement} {x : String} :
    x ∈ (composite op parts).leaves ↔ ∃ r ∈ parts, x ∈ r.leaves := by
  rw [leaves_composite, List.mem_flatMap]

theorem mem_items {r : Requirement} {x : String} : x ∈ r.items ↔ x ∈ r.leaves :=
  Text.mem_sortedSet

/-- Whoever holds every leaf that another holds meets every requirement that the other meets. -/
theorem holds_mono {held held' : List String} {r : Requirement}
    (hsub : ∀ x ∈ r.leaves, x ∈ held → x ∈ held') (h : r.holds held = true) :
    r.holds held' = true := by
  induction r using induct with
  | item name =>
    rw [holds_item, List.contains_iff_mem] at h ⊢
    exact hsub name (List.mem_singleton_self name) h
  | composite op parts ih =>
    have hpart (r : Requirement) (hr : r ∈ parts) (h : r.holds held = true) :
        r.holds held' = true :=
      ih r hr (fun x hx => hsub x (mem_leaves_composite.mpr ⟨r, hr, hx⟩)) h
    cases op with
    | all =>
      rw [holds_all, List.all_eq_true] at h ⊢
      exact fun r hr => hpart r hr (h r hr)
    | any =>
      rw [holds_any, List.any_eq_true] at h ⊢
      obtain ⟨r, hr, hold⟩ := h
      exact ⟨r, hr, hpart r hr hold⟩

end Candidacy.Requirement
