import Candidacy.Sample
import Candidacy.Proofs.Company

/-!
# The sample companies are well formed

Their items are written in small ASCII letters without blanks around them, which is quicker to see
than that they are their own normal forms.
-/

namespace Candidacy

namespace Requirement

mutual
def passes (test : String → Bool) : Requirement → Bool
  | item name => test name
  | composite _ parts => !parts.isEmpty && allPass test parts
termination_by structural r => r

def allPass (test : String → Bool) : List Requirement → Bool
  | [] => true
  | r :: rs => passes test r && allPass test rs
termination_by structural rs => rs
end

theorem allPass_eq (test : String → Bool) (rs : List Requirement) :
    allPass test rs = rs.all (passes test) := by
  induction rs with
  | nil => rfl
  | cons r rs ih => rw [allPass, ih, List.all_cons]

theorem wellFormed_of_passes {test : String → Bool}
    (htest : ∀ name, test name = true → (item name).WellFormed) {r : Requirement}
    (h : r.passes test = true) : r.WellFormed := by
  induction r using induct with
  | item name => exact htest name h
  | composite op parts ih =>
    rw [passes, allPass_eq, Bool.and_eq_true, Bool.not_eq_true', List.isEmpty_eq_false_iff,
      List.all_eq_true] at h
    exact .composite h.1 fun r hr => ih r hr (h.2 r hr)

end Requirement

namespace Sample

/-- Whether the text is in small ASCII letters, without blanks around it. -/
def isTidy (cs : List Char) : Bool :=
  cs.head?.any (!Text.isBlank ·) && cs.getLast?.any (!Text.isBlank ·) &&
    cs.all fun c => Nat.ble c.toNat 0x7A && !(Nat.ble 0x41 c.toNat && Nat.ble c.toNat 0x5A)

theorem wellFormed_item_of_isTidy {name : String} (h : isTidy name.toList = true) :
    (Requirement.item name).WellFormed := by
  simp only [isTidy, Bool.and_eq_true, Option.any_eq_true, Bool.not_eq_true', List.all_eq_true,
    Nat.ble_eq, Bool.eq_false_iff, ne_eq] at h
  obtain ⟨⟨⟨first, hfirst, hfirst'⟩, last, hlast, hlast'⟩, hchars⟩ := h
  have hnormal : normalizeItem name = name := by
    refine normalizeItem_eq_self_iff.mpr ⟨⟨?_, ?_⟩, ?_⟩
    · rw [hfirst]
      rintro c ⟨rfl⟩
      exact Bool.eq_false_iff.mpr hfirst'
    · rw [hlast]
      rintro c ⟨rfl⟩
      exact Bool.eq_false_iff.mpr hlast'
    · exact fun c hc => Text.isSmall_of_ascii (hchars c hc).1 (hchars c hc).2
  refine .item ?_ hnormal
  rw [trim_eq_self_of_normal hnormal]
  rintro rfl
  cases hfirst

theorem companies_tidy :
    (companies.all fun c => decide (c.name ≠ "") && decide (Text.trim c.name = c.name) &&
      c.requirement.all (·.passes fun name => isTidy name.toList)) = true := by
  decide +kernel

theorem companies_wellFormed : ∀ c ∈ companies, c.WellFormed := by
  intro c hc
  have htidy := List.all_eq_true.mp companies_tidy c hc
  simp only [Bool.and_eq_true, decide_eq_true_eq] at htidy
  obtain ⟨⟨hne, htrim⟩, hreq⟩ := htidy
  refine ⟨hne, htrim, fun r hr => ?_⟩
  rw [Option.mem_def.mp hr, Option.all_some] at hreq
  exact Requirement.wellFormed_of_passes (fun _ => wellFormed_item_of_isTidy) hreq

end Sample

end Candidacy
