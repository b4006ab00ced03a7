import Candidacy.Input.Requirement
import Candidacy.Proofs.Input.Reading
import Candidacy.Proofs.Possession
import Candidacy.Proofs.Requirement.Basic

/-!
# Well-formed requirements

A well-formed requirement has non-blank items in normal form, and every composite in it has parts.
Whatever is built from values is well formed, as long as the requirements among the values are. The
parts matter: a composite for any one of no parts is met by nobody, whatever is held.
-/

namespace Candidacy

namespace Requirement

/-- Items are non-blank and in normal form, and composites have parts. -/
inductive WellFormed : Requirement → Prop
  | item {name : String} : Text.trim name ≠ "" → normalizeItem name = name → WellFormed (.item name)
  | composite {op : Operator} {parts : List Requirement} :
    parts ≠ [] → (∀ r ∈ parts, WellFormed r) → WellFormed (.composite op parts)

namespace WellFormed

variable {r : Requirement} {op : Operator} {parts : List Requirement}

theorem parts_ne_nil (h : (Requirement.composite op parts).WellFormed) : parts ≠ [] := by
  cases h with
  | composite hne _ => exact hne

theorem exists_cons (h : (Requirement.composite op parts).WellFormed) :
    ∃ p ps, parts = p :: ps := List.exists_cons_of_ne_nil h.parts_ne_nil

theorem part (h : (Requirement.composite op parts).WellFormed) (hr : r ∈ parts) : r.WellFormed := by
  cases h with
  | composite _ hall => exact hall r hr

theorem normalizeItem_leaf (h : r.WellFormed) {x : String} (hx : x ∈ r.leaves) :
    normalizeItem x = x := by
  induction h with
  | item _ hn =>
    rw [leaves, List.mem_singleton] at hx
    rw [hx, hn]
  | composite _ _ ih =>
    obtain ⟨r, hr, hxr⟩ := mem_leaves_composite.mp hx
    exact ih r hr hxr

theorem leaf_ne_empty (h : r.WellFormed) {x : String} (hx : x ∈ r.leaves) : x ≠ "" := by
  induction h with
  | item hb hn =>
    rw [leaves, List.mem_singleton] at hx
    rw [hx]
    rintro rfl
    exact hb (trim_eq_self_of_normal hn)
  | composite _ _ ih =>
    obtain ⟨r, hr, hxr⟩ := mem_leaves_composite.mp hx
    exact ih r hr hxr

theorem leaves_ne_nil (h : r.WellFormed) : r.leaves ≠ [] := by
  induction h with
  | item => exact List.cons_ne_nil _ _
  | @composite op parts hne _ ih =>
    obtain ⟨r, hr⟩ := List.exists_mem_of_ne_nil parts hne
    obtain ⟨x, hx⟩ := List.exists_mem_of_ne_nil _ (ih r hr)
    exact List.ne_nil_of_mem (mem_leaves_composite.mpr ⟨r, hr, hx⟩)

theorem holds_of_leaves (h : r.WellFormed) {held : List String} (hall : ∀ x ∈ r.leaves, x ∈ held) :
    r.holds held = true := by
  induction h with
  | item =>
    rw [holds_item, List.contains_iff_mem]
    exact hall _ (List.mem_singleton_self _)
  | @composite op parts hne _ ih =>
    have hpart (r : Requirement) (hr : r ∈ parts) : r.holds held = true :=
      ih r hr fun x hx => hall x (mem_leaves_composite.mpr ⟨r, hr, hx⟩)
    cases op with
    | all =>
      rw [holds_all, List.all_eq_true]
      exact hpart
    | any =>
      obtain ⟨r, hr⟩ := List.exists_mem_of_ne_nil parts hne
      rw [holds_any, List.any_eq_true]
      exact ⟨r, hr, hpart r hr⟩

end WellFormed

mutual
def isWellFormed : Requirement → Bool
  | item name => Text.trim name != "" && normalizeItem name == name
  | composite _ parts => !parts.isEmpty && areWellFormed parts
termination_by structural r => r

def areWellFormed : List Requirement → Bool
  | [] => true
  | r :: rs => isWellFormed r && areWellFormed rs
termination_by structural rs => rs
end

theorem areWellFormed_eq (rs : List Requirement) : areWellFormed rs = rs.all isWellFormed := by
  induction rs with
  | nil => rfl
  | cons r rs ih => rw [areWellFormed, ih, List.all_cons]

theorem isWellFormed_iff (r : Requirement) : r.isWellFormed = true ↔ r.WellFormed := by
  induction r using induct with
  | item name =>
    rw [isWellFormed, Bool.and_eq_true, bne_iff_ne, beq_iff_eq]
    exact ⟨fun h => .item h.1 h.2, fun h => by cases h with | item hb hn => exact ⟨hb, hn⟩⟩
  | composite op parts ih =>
    rw [isWellFormed, areWellFormed_eq, Bool.and_eq_true, Bool.not_eq_true',
      List.isEmpty_eq_false_iff, List.all_eq_true]
    constructor
    · rintro ⟨hne, hall⟩
      exact .composite hne fun r hr => (ih r hr).mp (hall r hr)
    · intro h
      cases h with
      | composite hne hall => exact ⟨hne, fun r hr => (ih r hr).mpr (hall r hr)⟩

instance (r : Requirement) : Decidable r.WellFormed := decidable_of_iff _ (isWellFormed_iff r)

/-! ## What is built is well formed -/

theorem wellFormed_of_ofItem {v : Value} {r : Requirement} (h : ofItem v = .ok r) :
    r.WellFormed := by
  unfold ofItem at h
  split at h
  · rename_i t _
    split at h
    · cases h
    · rename_i hb
      cases h
      refine .item ?_ (normalizeItem_normalizeItem t)
      rw [trim_eq_self_of_normal (normalizeItem_normalizeItem t), ne_eq, normalizeItem_eq_empty_iff]
      exact hb
  · cases h

theorem ofParts_eq_ok {vs : List Value} {rs : List Requirement} (h : ofParts vs = .ok rs) :
    vs = rs.map .requirement := by
  fun_induction ofParts vs generalizing rs with
  | case1 =>
    cases h
    rfl
  | case2 r vs ih =>
    cases hrest : ofParts vs with
    | error e => rw [hrest] at h; cases h
    | ok rest =>
      rw [hrest] at h
      cases h
      rw [ih hrest, List.map_cons]
  | case3 | case4 => cases h

theorem wellFormed_of_ofOperator {op : Operator} {vs : List Value} {r : Requirement}
    (hvs : ∀ q, .requirement q ∈ vs → q.WellFormed) (h : ofOperator op vs = .ok r) :
    r.WellFormed := by
  unfold ofOperator at h
  split at h
  · cases h
  · rename_i hne
    cases hps : ofParts vs with
    | error e => rw [hps] at h; cases h
    | ok rs =>
      rw [hps] at h
      cases h
      have hvs' := ofParts_eq_ok hps
      refine .composite ?_ fun q hq => hvs q ?_
      · rintro rfl
        exact hne (by rw [hvs']; rfl)
      · rw [hvs']
        exact List.mem_map_of_mem hq

theorem wellFormed_of_ofValues {s s' : Store} {operator parts : Value} {r : Requirement}
    (hparts : ∀ vs ∈ s.elements? parts, ∀ q, .requirement q ∈ vs → q.WellFormed)
    (h : ofValues s operator parts = (.ok r, s')) : r.WellFormed := by
  unfold ofValues at h
  split at h
  · cases h
  · split at h
    any_goals cases h
    split at h
    · cases h
    · rename_i vs hvs
      exact wellFormed_of_ofOperator (hparts vs hvs) (mapError_eq_ok_iff.mp (Prod.mk.inj h).1)

end Requirement

end Candidacy
