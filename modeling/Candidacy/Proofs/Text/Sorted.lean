import Candidacy.Text.Sorted
import Candidacy.Proofs.Distinct
import Mathlib.Data.String.Basic

/-!
# Texts in order

Sorting rearranges and puts in order; the set of a list in order is strictly increasing.
-/

namespace Candidacy.Text

variable {α : Type}

theorem sortedOn_perm (key : α → String) (xs : List α) : (sortedOn key xs).Perm xs :=
  List.mergeSort_perm ..

theorem sortedOn_pairwise (key : α → String) (xs : List α) :
    (sortedOn key xs).Pairwise fun a b => key a ≤ key b := by
  have htrans (a b c : α) (hab : decide (key a ≤ key b) = true)
      (hbc : decide (key b ≤ key c) = true) : decide (key a ≤ key c) = true :=
    decide_eq_true (le_trans (of_decide_eq_true hab) (of_decide_eq_true hbc))
  have htotal (a b : α) : (decide (key a ≤ key b) || decide (key b ≤ key a)) = true := by
    simpa using le_total (key a) (key b)
  have h := List.pairwise_mergeSort htrans htotal xs
  exact h.imp of_decide_eq_true

theorem mem_sortedSet {x : String} {ss : List String} : x ∈ sortedSet ss ↔ x ∈ ss := by
  rw [sortedSet, sorted, (sortedOn_perm ..).mem_iff, List.mem_eraseDups]

theorem sortedSet_strict (ss : List String) : (sortedSet ss).Pairwise (· < ·) := by
  have hle : (sortedSet ss).Pairwise (· ≤ ·) := sortedOn_pairwise id _
  have hne : (sortedSet ss).Nodup := (sortedOn_perm ..).nodup_iff.mpr (nodup_eraseDups ss)
  exact hle.imp₂ (fun _ _ h h' => lt_of_le_of_ne h h') hne

theorem sortedSet_eq_nil_iff {ss : List String} : sortedSet ss = [] ↔ ss = [] := by
  simp only [List.eq_nil_iff_forall_not_mem, mem_sortedSet]

theorem sortedSet_congr {ss ts : List String} (h : ∀ x, x ∈ ss ↔ x ∈ ts) :
    sortedSet ss = sortedSet ts := by
  have hperm : (sortedSet ss).Perm (sortedSet ts) := by
    rw [List.perm_ext_iff_of_nodup (sortedSet_strict ss).nodup (sortedSet_strict ts).nodup]
    intro x
    rw [mem_sortedSet, mem_sortedSet, h]
  exact hperm.eq_of_pairwise (fun _ _ _ _ hab hba => absurd hab (lt_asymm hba))
    (sortedSet_strict ss) (sortedSet_strict ts)

end Candidacy.Text
