import Candidacy.Proofs.Session.Requirements
import Candidacy.Proofs.Session.NormalForms
import Candidacy.Proofs.Text.Capitals

/-!
# Items in capitals

A requirement on an item is met by a possession that names it in small letters, whatever white space
stands around it. It is met by one in capitals, and a requirement in capitals by the item itself,
exactly if the capitals lead back to the small letters: a letter that is spelled out as a capital,
that shares its capital with another or that is a sigma out of its place does not match its capital.

- `Decides`: what the requirement on an item has to say of a single possession.
- `capitals_decided`: the possessions in small letters and in capitals.
-/

namespace Candidacy

open Text

/-- Capitals and small letters have one normal form exactly in texts that lead back from capitals. -/
theorem normalizeItem_upper_eq_iff {s : String} :
    normalizeItem (upper s) = normalizeItem s ↔ Reversible s.toList := by
  rw [← String.toList_inj, toList_normalizeItem, toList_normalizeItem, toList_upper,
    trimChars_upperChars, lowerChars_upperChars_eq_iff, reversible_trimChars]

theorem trim_upper_eq_empty_iff {s : String} : trim (upper s) = "" ↔ trim s = "" := by
  rw [← String.toList_inj, ← String.toList_inj, toList_trim, toList_trim, toList_upper,
    trimChars_upperChars, String.toList_empty, upperChars_eq_nil_iff]

namespace Session

/-- There is a requirement on the item, and it holds of whoever has the possession and nothing else
if and only if `p`. -/
def Decides (item possession : String) (p : Prop) : Prop :=
  ∃ r, (∀ v : Value, v.text? = some item → Requirement.ofItem v = .ok r) ∧
    ∀ s possessions w s', Possessions.ofValue s possessions = (.ok [w], s') → w.text = possession →
      ∃ b, (Operation.holds (.requirement r) possessions).run.run s = (.ok b, s') ∧ (b = true ↔ p)

theorem decides_of_normal {item possession : String} {p : Prop} (hitem : trim item ≠ "")
    (hp : normalizeItem possession = normalizeItem item ↔ p) : Decides item possession p := by
  refine ⟨.item (normalizeItem item), fun v hv => ?_, fun s possessions w s' hread hw => ?_⟩
  · rw [Requirement.ofItem, hv]
    exact if_neg hitem
  · refine ⟨Requirement.holds (heldItems [possession]) (.item (normalizeItem item)), ?_, ?_⟩
    · rw [Operation.run_holds, Possessions.normalForms, hread, ← hw]
      rfl
    · rw [Requirement.holds_item, List.contains_iff_mem, mem_heldItems]
      simp only [List.mem_singleton, exists_eq_left, hp]

/-- An item is met by its small letters between white space, and by its capitals, or they by it,
exactly if each of its letters comes back from its capital. -/
theorem capitals_decided {s v w : String} (hs : ¬ Blank s.toList) (hv : Blank v.toList)
    (hw : Blank w.toList) :
    Decides s (v ++ lower s ++ w) True ∧
      Decides s (v ++ upper s ++ w) (Reversible s.toList) ∧
      Decides (upper s) s (Reversible s.toList) := by
  have htrim : trim s ≠ "" := fun h => hs (trim_eq_empty_iff.mp h)
  refine ⟨decides_of_normal htrim ?_, decides_of_normal htrim ?_, decides_of_normal ?_ ?_⟩
  · rw [(canonical (lower s)).padded v w hv hw, (canonical s).lower]
    exact iff_of_true rfl trivial
  · rw [(canonical (upper s)).padded v w hv hw, normalizeItem_upper_eq_iff]
  · rwa [ne_eq, trim_upper_eq_empty_iff]
  · rw [eq_comm, normalizeItem_upper_eq_iff]

/-- A final sigma comes back as such from the capital one, at the end of its word. -/
theorem capitals_decided_sigma :
    (¬ Blank "Οδός".toList ∧ Blank "\t".toList ∧ Blank "\u3000".toList ∧
      upper "Οδός" = "ΟΔΌΣ" ∧ Reversible "Οδός".toList) ∧
    Decides "Οδός" ("\t" ++ lower "Οδός" ++ "\u3000") True ∧
      Decides "Οδός" ("\t" ++ upper "Οδός" ++ "\u3000") (Reversible "Οδός".toList) ∧
      Decides (upper "Οδός") "Οδός" (Reversible "Οδός".toList) := by
  have hs : ¬ Blank "Οδός".toList := fun h =>
    Bool.false_ne_true ((show isBlank 'Ο' = false by decide).symm.trans (h _ (by decide)))
  have hv : Blank "\t".toList := List.all_eq_true.mp (by decide)
  have hw : Blank "\u3000".toList := List.all_eq_true.mp (by decide)
  exact ⟨⟨hs, hv, hw, by decide +kernel, lowerChars_upperChars_eq_iff.mp (by decide +kernel)⟩,
    capitals_decided hs hv hw⟩

/-- Letter case does matter: a sharp s becomes two letters as a capital, and these stay two. -/
theorem sharp_s_not_matched :
    upper "straße" = "STRASSE" ∧
      Requirement.ofItem (.text "straße") = .ok (.item "straße") ∧
      (Operation.holds (.requirement (.item "straße")) (.tuple [.text "STRASSE"])).run.run .empty =
        (.ok false, .empty) ∧
      ¬ Decides "straße" ("" ++ upper "straße" ++ "") True := by
  have hupper : upper "straße" = "STRASSE" := by decide +kernel
  have hitem : Requirement.ofItem (.text "straße") = .ok (.item "straße") := by
    have hnormal : normalizeItem "straße" = "straße" := by decide +kernel
    have htrim : trim "straße" ≠ "" := by decide +kernel
    show (if trim "straße" = "" then .error .itemBlank
      else Except.ok (Requirement.item (normalizeItem "straße"))) = .ok (.item "straße")
    rw [if_neg htrim, hnormal]
  have hholds : (Operation.holds (.requirement (.item "straße"))
      (.tuple [.text "STRASSE"])).run.run .empty = (.ok false, .empty) := by
    have hnot : Requirement.holds (heldItems ["STRASSE"]) (.item "straße") = false := by
      decide +kernel
    exact congrArg (fun b => (Except.ok b, Store.empty)) hnot
  refine ⟨hupper, hitem, hholds, ?_⟩
  rintro ⟨r, hr, hdecided⟩
  obtain rfl := Except.ok.inj (hitem.symm.trans (hr (.text "straße") rfl))
  obtain ⟨b, hb, hiff⟩ := hdecided .empty (.tuple [.text "STRASSE"]) (.plain "STRASSE") .empty rfl
    (by rw [hupper]; rfl)
  have hfalse : b = false := Except.ok.inj (Prod.ext_iff.mp (hb.symm.trans hholds)).1
  exact Bool.false_ne_true (hfalse.symm.trans (hiff.mpr trivial))

end Session

end Candidacy
