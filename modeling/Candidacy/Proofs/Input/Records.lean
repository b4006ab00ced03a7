import Candidacy.Proofs.Input.OneShot
import Candidacy.Proofs.Text.Padding
import Mathlib.Data.List.Forall2

/-!
# Companies made from records

A record makes a company if it has a name that is a text and not blank, and a requirement or none. Of
several records the first that makes none decides, whatever comes behind it. The companies that are
made are records themselves, and make the same companies again.

- `Describes`, `Flawed`: what a record makes, and what is wrong with one that makes nothing.
- `ofRecord_eq_ok_iff`, `ofRecord_eq_error_iff`: single records.
- `ofRecords_eq_ok_iff`, `ofRecords_eq_error_iff`: records in a row, by induction on the row.
- `ofRecords_companies`: the companies that were made, once again.
-/

namespace Candidacy

namespace Company

variable {v : Value}

theorem requirementOf_eq_ok_iff {r : Option Requirement} :
    requirementOf v = .ok r ↔ v = .ofRequirement? r := by
  constructor
  · intro h
    unfold requirementOf at h
    split at h <;> cases h <;> rfl
  · rintro rfl
    cases r <;> rfl

theorem requirementOf_eq_error_iff {why : InvalidInput} :
    requirementOf v = .error why ↔
      (∀ r, v ≠ .ofRequirement? r) ∧ why = .requirementKind v.kind := by
  constructor
  · intro h
    refine ⟨?_, ?_⟩
    · rintro r rfl
      cases h.symm.trans (requirementOf_eq_ok_iff.mpr rfl)
    · unfold requirementOf at h
      split at h
      any_goals cases h
      rfl
  · rintro ⟨hnot, rfl⟩
    unfold requirementOf
    split
    · exact (hnot none rfl).elim
    · exact (hnot (some _) rfl).elim
    · rfl

theorem ofValues_of_blank {name : Value} (h : ∀ t, name.text? = some t → Text.Blank t.toList)
    (requirement : Value) : ofValues name requirement = .error .nameBlank := by
  unfold ofValues
  split
  · rename_i t ht
    exact if_pos (Text.trim_eq_empty_iff.mpr (h t ht))
  · rfl

theorem ofValues_of_text {name : Value} {t : String} (ht : name.text? = some t)
    (hblank : ¬ Text.Blank t.toList) (requirement : Value) :
    ofValues name requirement = (⟨Text.trim t, ·⟩) <$> requirementOf requirement := by
  simp only [ofValues, ht, if_neg (mt Text.trim_eq_empty_iff.mp hblank)]

end Company

namespace Companies

variable {v : Value} {c : Company} {why : InputFault} {xs : List Value} {cs : List Company}

/-! ## Single records -/

/-- The record has a name that is not blank and a requirement or none, and they make the company. -/
structure Describes (v : Value) (c : Company) : Prop where
  name : ∃ w t, nameOf? v = some w ∧ w.text? = some t ∧ ¬ Text.Blank t.toList ∧
    c.name = Text.trim t
  requirement : requirementOf? v = some (.ofRequirement? c.requirement)

inductive Flawed (v : Value) : InputFault → Prop
  | noName : nameOf? v = none → Flawed v (.noAttribute v.kind "name")
  | noRequirement {w : Value} : nameOf? v = some w → requirementOf? v = none →
      Flawed v (.noAttribute v.kind "requirement")
  | nameBlank {w r : Value} : nameOf? v = some w → requirementOf? v = some r →
      (∀ t, w.text? = some t → Text.Blank t.toList) → Flawed v (.invalid .nameBlank)
  | requirementKind {w r : Value} {t : String} : nameOf? v = some w → requirementOf? v = some r →
      w.text? = some t → ¬ Text.Blank t.toList → (∀ q, r ≠ .ofRequirement? q) →
      Flawed v (.invalid (.requirementKind r.kind))

theorem describes_or_flawed (v : Value) : (∃ c, Describes v c) ∨ ∃ why, Flawed v why := by
  cases hw : nameOf? v with
  | none => exact .inr ⟨_, .noName hw⟩
  | some w =>
    cases hr : requirementOf? v with
    | none => exact .inr ⟨_, .noRequirement hw hr⟩
    | some r =>
      by_cases hblank : ∀ t, w.text? = some t → Text.Blank t.toList
      · exact .inr ⟨_, .nameBlank hw hr hblank⟩
      · push Not at hblank
        obtain ⟨t, ht, hblank⟩ := hblank
        by_cases hnot : ∀ q, r ≠ .ofRequirement? q
        · exact .inr ⟨_, .requirementKind hw hr ht hblank hnot⟩
        · push Not at hnot
          obtain ⟨q, rfl⟩ := hnot
          exact .inl ⟨⟨Text.trim t, q⟩, ⟨⟨w, t, hw, ht, hblank, rfl⟩, hr⟩⟩

theorem ofRecord_of_fields {name requirement : Value} (hname : nameOf? v = some name)
    (hrequirement : requirementOf? v = some requirement) :
    ofRecord v = (Company.ofValues name requirement).mapError .invalid := by
  simp only [ofRecord, fieldOf, hname, hrequirement]
  rfl

theorem Describes.ofRecord (h : Describes v c) : ofRecord v = .ok c := by
  obtain ⟨⟨w, t, hw, ht, hblank, hname⟩, hr⟩ := h
  rw [ofRecord_of_fields hw hr, Company.ofValues_of_text ht hblank,
    Company.requirementOf_eq_ok_iff.mpr rfl, ← hname]
  rfl

theorem Flawed.ofRecord (h : Flawed v why) : ofRecord v = .error why := by
  cases h with
  | noName hw =>
    simp only [Companies.ofRecord, fieldOf, hw]
    rfl
  | noRequirement hw hr =>
    simp only [Companies.ofRecord, fieldOf, hw, hr]
    rfl
  | nameBlank hw hr hblank =>
    rw [ofRecord_of_fields hw hr, Company.ofValues_of_blank hblank]
    rfl
  | requirementKind hw hr ht hblank hnot =>
    rw [ofRecord_of_fields hw hr, Company.ofValues_of_text ht hblank,
      Company.requirementOf_eq_error_iff.mpr ⟨hnot, rfl⟩]
    rfl

theorem ofRecord_eq_ok_iff : ofRecord v = .ok c ↔ Describes v c := by
  refine ⟨fun h => ?_, Describes.ofRecord⟩
  rcases describes_or_flawed v with ⟨c', hc'⟩ | ⟨why, hwhy⟩
  · cases h.symm.trans hc'.ofRecord
    exact hc'
  · cases h.symm.trans hwhy.ofRecord

theorem ofRecord_eq_error_iff : ofRecord v = .error why ↔ Flawed v why := by
  refine ⟨fun h => ?_, Flawed.ofRecord⟩
  rcases describes_or_flawed v with ⟨c, hc⟩ | ⟨why', hwhy'⟩
  · cases h.symm.trans hc.ofRecord
  · cases h.symm.trans hwhy'.ofRecord
    exact hwhy'

/-- What a company answers, it answers by the requirement that the record has, whatever the name. -/
theorem Describes.answers (h : Describes v c) :
    (requirementOf? v = some .none ∧ (∀ ps, c.canWork ps = true) ∧
        c.requirementDescription = Company.noRequirements) ∨
      ∃ r, requirementOf? v = some (.requirement r) ∧
        (∀ ps, c.canWork ps = r.holds (heldItems ps)) ∧ c.requirementDescription = r.describe := by
  obtain ⟨name, requirement⟩ := c
  cases requirement with
  | none => exact .inl ⟨h.requirement, fun _ => rfl, rfl⟩
  | some r => exact .inr ⟨r, h.requirement, fun _ => rfl, rfl⟩

theorem Describes.again (h : Describes v c) : Describes (.company c) c := by
  obtain ⟨⟨w, t, -, -, hblank, hname⟩, -⟩ := h
  have htrim : Text.trim c.name = c.name := by rw [hname, Text.trim_trim]
  have hne : ¬ Text.Blank c.name.toList := by
    rw [← Text.trim_eq_empty_iff, htrim, hname, Text.trim_eq_empty_iff]
    exact hblank
  exact ⟨⟨.text c.name, c.name, rfl, rfl, hne, htrim.symm⟩, rfl⟩

/-! ## Records in a row -/

theorem ofRecords_cons (x : Value) (xs : List Value) :
    (ofRecords (x :: xs)).1 = (ofRecord x).bind fun c => (ofRecords xs).1.map (c :: ·) := by
  rw [ofRecords]
  cases ofRecord x <;> rfl

/-- Companies are made just if each record makes its own, by induction on the records. -/
theorem ofRecords_eq_ok_iff : (ofRecords xs).1 = .ok cs ↔ List.Forall₂ Describes xs cs := by
  induction xs generalizing cs with
  | nil =>
    rw [List.forall₂_nil_left_iff, ofRecords, Except.ok.injEq]
    exact eq_comm
  | cons x xs ih =>
    rw [ofRecords_cons]
    constructor
    · intro h
      cases hx : ofRecord x with
      | error why => cases hx ▸ h
      | ok c =>
        cases hrest : (ofRecords xs).1 with
        | error why =>
          rw [hx, hrest] at h
          cases h
        | ok rest =>
          rw [hx, hrest] at h
          cases h
          exact .cons (ofRecord_eq_ok_iff.mp hx) (ih.mp hrest)
    · intro h
      cases h with
      | cons hc hrest =>
        rw [hc.ofRecord, ih.mpr hrest]
        rfl

theorem exists_companies_iff :
    (∃ cs, List.Forall₂ Describes xs cs) ↔ ∀ x ∈ xs, ∃ c, Describes x c := by
  constructor
  · rintro ⟨cs, hcs⟩
    induction hcs with
    | nil => exact fun _ hx => absurd hx List.not_mem_nil
    | cons hc _ ih => exact List.forall_mem_cons.mpr ⟨⟨_, hc⟩, ih⟩
  · intro h
    induction xs with
    | nil => exact ⟨[], .nil⟩
    | cons x xs ih =>
      obtain ⟨⟨c, hc⟩, hxs⟩ := List.forall_mem_cons.mp h
      obtain ⟨cs, hcs⟩ := ih hxs
      exact ⟨c :: cs, .cons hc hcs⟩

/-- They are refused for what is wrong with the first that makes none. -/
theorem ofRecords_eq_error_iff :
    (ofRecords xs).1 = .error why ↔
      ∃ before x after, xs = before ++ x :: after ∧ (∀ w ∈ before, ∃ c, Describes w c) ∧
        Flawed x why := by
  have hrefused := records_or_first_refused xs
  simp only [ofRecord_eq_ok_iff, ofRecord_eq_error_iff] at hrefused
  have hfirst {before after : List Value} {x : Value} {why : InputFault}
      (hbefore : ∀ w ∈ before, ∃ c, Describes w c) (hx : Flawed x why) :
      (ofRecords (before ++ x :: after)).1 = .error why := by
    refine ofRecords_of_first_refused (fun w hw => ?_) hx.ofRecord
    obtain ⟨c, hc⟩ := hbefore w hw
    exact ⟨c, hc.ofRecord⟩
  constructor
  · intro h
    rcases hrefused with hall | ⟨before, x, after, why', rfl, hbefore, hx⟩
    · obtain ⟨cs, hcs⟩ := exists_companies_iff.mpr hall
      cases h.symm.trans (ofRecords_eq_ok_iff.mpr hcs)
    · cases h.symm.trans (hfirst hbefore hx)
      exact ⟨before, x, after, rfl, hbefore, hx⟩
  · rintro ⟨before, x, after, rfl, hbefore, hx⟩
    exact hfirst hbefore hx

theorem ofRecords_companies (h : (ofRecords xs).1 = .ok cs) :
    (ofRecords (cs.map .company)).1 = .ok cs := by
  rw [ofRecords_eq_ok_iff] at h ⊢
  induction h with
  | nil => exact .nil
  | cons hc _ ih => exact .cons hc.again ih

end Companies

end Candidacy
