import Candidacy.Proofs.Input.Acceptance
import Candidacy.Proofs.Sample
import Candidacy.Proofs.Value.Sound
import Candidacy.Settings.Schema

/-!
# Walks through what is handed over

Whatever reads the values it is handed does nothing to the store but walk through them: the store
afterwards is one that walks have left behind. What is built from sound values is well formed.
-/

namespace Candidacy

inductive Store.Walked (s : Store) : Store → Prop
  | refl : Walked s s
  | advance {s' : Store} (v : Value) (count : Nat) : Walked s s' → Walked s (s'.advance v count)

namespace Store.Walked

variable {s s₁ s₂ : Store}

theorem exhaust (s : Store) (v : Value) : s.Walked (s.exhaust v) := .advance v _ .refl

theorem trans (h : s.Walked s₁) (h' : s₁.Walked s₂) : s.Walked s₂ := by
  induction h' with
  | refl => exact h
  | advance v count _ ih => exact .advance v count ih

theorem keeps (h : s.Walked s₁) : s.Keeps [] s₁ := by
  induction h with
  | refl => exact .refl [] s
  | advance v count _ ih => exact ih.trans (keeps_advance _ v count)

theorem sound (h : s.Walked s₁) (hs : s.Sound) : s₁.Sound := by
  induction h with
  | refl => exact hs
  | advance v count _ ih => exact ih.advance v count

end Store.Walked

variable (s : Store)

/-! ## Walks only -/

theorem Possessions.walked_ofValue (v : Value) : s.Walked (Possessions.ofValue s v).2 := by
  unfold Possessions.ofValue
  split
  any_goals exact .refl
  split
  · exact .refl
  · exact .advance v _ .refl

theorem Possessions.walked_normalForms (v : Value) : s.Walked (Possessions.normalForms s v).2 :=
  Possessions.walked_ofValue s v

namespace Companies

theorem walked_walk (v : Value) : s.Walked (walk s v).2 := by
  unfold walk
  split
  · exact .refl
  · exact .exhaust s v

theorem walked_ofValue (v : Value) : s.Walked (ofValue s v).2 := by
  unfold ofValue
  split
  · exact .refl
  · exact walked_walk s v

theorem walked_ofRecordCollection (v : Value) : s.Walked (ofRecordCollection s v).2 := by
  unfold ofRecordCollection
  split
  · exact .refl
  · exact .advance v _ .refl

end Companies

theorem Screening.Input.walked_ofValues (companies possessions : Value) :
    s.Walked (Screening.Input.ofValues s companies possessions).2 := by
  have hcompanies := Companies.walked_ofValue s companies
  unfold Screening.Input.ofValues
  cases h : Companies.ofValue s companies with
  | mk r s₁ =>
    rw [h] at hcompanies
    cases r with
    | error why => exact hcompanies
    | ok cs => exact hcompanies.trans (Possessions.walked_ofValue s₁ possessions)

namespace Report

theorem walked_companiesOf (companies : Value) : s.Walked (companiesOf s companies).2 := by
  unfold companiesOf
  split
  · exact .refl
  · exact Companies.walked_walk s companies

theorem walked_possessionsOf (possessions : Value) : s.Walked (possessionsOf s possessions).2 := by
  unfold possessionsOf
  split
  any_goals exact .refl
  exact Companies.walked_walk s possessions

theorem walked_run (companies possessions : Value) (timestamp : String) :
    s.Walked (run s companies possessions timestamp).2 := by
  have hpossessions := walked_possessionsOf s possessions
  unfold run
  cases hp : possessionsOf s possessions with
  | mk r s₁ =>
    rw [hp] at hpossessions
    cases r with
    | error why => exact hpossessions
    | ok given =>
      have hcompanies := walked_companiesOf s₁ companies
      dsimp only
      cases hc : companiesOf s₁ companies with
      | mk r s₂ =>
        rw [hc] at hcompanies
        cases r with
        | error why | ok vs => exact hpossessions.trans hcompanies

end Report

theorem Requirement.walked_ofValues (operator parts : Value) :
    s.Walked (Requirement.ofValues s operator parts).2 := by
  unfold Requirement.ofValues
  split
  · exact .refl
  · split
    any_goals exact .refl
    split
    · exact .refl
    · exact .exhaust s parts

theorem Settings.walked_afterCheck (v : Value) : s.Walked (Settings.afterCheck s v) := by
  unfold Settings.afterCheck
  split
  · exact .exhaust s _
  · exact .refl

/-! ## What is built is well formed -/

variable {s} {v : Value}

namespace Companies

theorem wellFormed_of_listed (hs : s.Sound) (hv : v.Sound s) {cs : List Company}
    (h : Listed s v cs) : ∀ c ∈ cs, c.WellFormed := by
  intro c hc
  have hmem : Value.company c ∈ cs.map Value.company := List.mem_map_of_mem hc
  exact (hs.of_elements hv h hmem).wellFormed_company

theorem sound_of_requirementOf? {w : Value} (hv : v.Sound s) (h : requirementOf? v = some w) :
    w.Sound s := by
  unfold requirementOf? at h
  split at h
  · rename_i c
    cases h
    have hc := hv.wellFormed_company
    unfold Value.ofRequirement?
    split
    · rename_i r hr
      exact .requirement (hc.requirement r hr)
    · exact .plain rfl
  · cases h
    exact hv.of_record.2
  · cases h

theorem wellFormed_of_ofRecord (hv : v.Sound s) {c : Company} (h : ofRecord v = .ok c) :
    c.WellFormed := by
  unfold ofRecord fieldOf at h
  cases hname : nameOf? v with
  | none => rw [hname] at h; cases h
  | some name =>
    cases hreq : requirementOf? v with
    | none => rw [hname, hreq] at h; cases h
    | some requirement =>
      rw [hname, hreq] at h
      have hc : Company.ofValues name requirement = .ok c := mapError_eq_ok_iff.mp h
      refine Company.wellFormed_of_ofValues (fun r hr => ?_) hc
      subst hr
      exact (sound_of_requirementOf? hv hreq).wellFormed_requirement

theorem wellFormed_of_ofRecords {vs : List Value} (hvs : ∀ v ∈ vs, v.Sound s) {cs : List Company}
    (h : (ofRecords vs).1 = .ok cs) : ∀ c ∈ cs, c.WellFormed := by
  induction vs generalizing cs with
  | nil =>
    cases h
    exact fun c hc => absurd hc List.not_mem_nil
  | cons v vs ih =>
    rw [List.forall_mem_cons] at hvs
    unfold ofRecords at h
    cases hfirst : ofRecord v with
    | error why => rw [hfirst] at h; cases h
    | ok c =>
      cases hrest : (ofRecords vs).1 with
      | error why => simp [hfirst, hrest, Except.map] at h
      | ok rest =>
        simp only [hfirst, hrest, Except.map, Except.ok.injEq] at h
        subst h
        exact List.forall_mem_cons.mpr ⟨wellFormed_of_ofRecord hvs.1 hfirst, ih hvs.2 hrest⟩

theorem wellFormed_of_ofRecordCollection (hs : s.Sound) (hv : v.Sound s) {cs : List Company}
    (h : (ofRecordCollection s v).1 = .ok cs) : ∀ c ∈ cs, c.WellFormed := by
  unfold ofRecordCollection at h
  split at h
  · cases h
  · rename_i vs hvs
    exact wellFormed_of_ofRecords (fun w hw => hs.of_elements hv hvs hw) h

end Companies

theorem Screening.Input.wellFormed_of_ofValues (hs : s.Sound) {companies possessions : Value}
    (hc : companies.Sound s) {input : Screening.Input}
    (h : (Screening.Input.ofValues s companies possessions).1 = .ok input) :
    ∀ c ∈ input.companies, c.WellFormed := by
  have hnone : faultOf (Screening.Input.ofValues s companies possessions).1 = none :=
    faultOf_eq_none_iff.mpr ⟨input, h⟩
  obtain ⟨cs, words, hcs, hwords⟩ := faultOf_ofValues_eq_none_iff.mp hnone
  rw [ofValues_of_lists hcs hwords] at h
  cases h
  exact Companies.wellFormed_of_listed hs hc hcs

theorem Report.sound_of_companiesOf (hs : s.Sound) (hv : v.Sound s) {vs : List Value}
    (h : (Report.companiesOf s v).1 = .ok vs) : ∀ w ∈ vs, w.Sound s := by
  by_cases hnone : v = .none
  · subst hnone
    cases h
    intro w hw
    obtain ⟨c, hc, rfl⟩ := List.mem_map.mp hw
    exact .company (Sample.companies_wellFormed c hc)
  · have helements := (Report.fst_companiesOf_eq_ok_iff hnone).mp h
    exact fun w hw => hs.of_elements hv helements hw

theorem Requirement.wellFormed_of_sound (hs : s.Sound) {operator parts : Value}
    (hparts : parts.Sound s) {r : Requirement}
    (h : (Requirement.ofValues s operator parts).1 = .ok r) : r.WellFormed := by
  refine Requirement.wellFormed_of_ofValues (fun vs hvs q hq => ?_) (Prod.ext h rfl)
  exact (hs.of_elements hparts hvs hq).wellFormed_requirement

end Candidacy
