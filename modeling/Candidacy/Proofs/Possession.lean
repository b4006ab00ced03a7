import Candidacy.Possession
import Candidacy.Proofs.Distinct
import Candidacy.Proofs.Text.LetterCase

/-!
# Normal forms of possessions

A normal form is trimmed and small, and so it is its own normal form: `heldItems` may be taken again
of what it gave.
-/

namespace Candidacy

open Text

theorem toList_normalizeItem (s : String) :
    (normalizeItem s).toList = lowerChars (trimChars s.toList) := by
  rw [normalizeItem, toList_lower, toList_trim]

/-- The normal forms are the trimmed texts of small characters. -/
theorem normalizeItem_eq_self_iff {s : String} :
    normalizeItem s = s ↔ Trimmed s.toList ∧ ∀ c ∈ s.toList, IsSmall c := by
  constructor
  · intro h
    rw [← h, toList_normalizeItem]
    exact ⟨(trimmed_trimChars _).lowerChars, fun c hc => isSmall_of_mem_lowerAfter hc⟩
  · rintro ⟨ht, hs⟩
    rw [normalizeItem, trim_eq_self_iff.mpr ht, lower_eq_self_iff.mpr hs]

theorem normalizeItem_normalizeItem (s : String) :
    normalizeItem (normalizeItem s) = normalizeItem s := by
  rw [normalizeItem_eq_self_iff, toList_normalizeItem]
  exact ⟨(trimmed_trimChars _).lowerChars, fun c hc => isSmall_of_mem_lowerAfter hc⟩

theorem trim_eq_self_of_normal {s : String} (h : normalizeItem s = s) : trim s = s :=
  trim_eq_self_iff.mpr (normalizeItem_eq_self_iff.mp h).1

theorem normalizeItem_eq_empty_iff {s : String} : normalizeItem s = "" ↔ trim s = "" := by
  rw [← String.toList_inj, ← String.toList_inj, toList_normalizeItem, toList_trim,
    String.toList_empty, lowerChars, lowerAfter_eq_nil_iff]

theorem mem_heldItems {x : String} {ps : List String} :
    x ∈ heldItems ps ↔ ∃ p ∈ ps, normalizeItem p = x := by
  rw [heldItems, List.mem_eraseDups, List.mem_map]

/-- The items held are the items held by whoever owns them in normal form. -/
theorem heldItems_heldItems (ps : List String) : heldItems (heldItems ps) = heldItems ps := by
  have hmap : (heldItems ps).map normalizeItem = heldItems ps := by
    refine (List.map_congr_left fun x hx => ?_).trans (List.map_id _)
    obtain ⟨p, -, rfl⟩ := mem_heldItems.mp hx
    exact normalizeItem_normalizeItem p
  rw [heldItems, hmap, heldItems, eraseDups_of_nodup (nodup_eraseDups _)]

end Candidacy
