import Candidacy.Screening
import Candidacy.Proofs.ByName
import Candidacy.Proofs.Company
import Mathlib.Data.Fintype.Basic
import Mathlib.Data.List.FinRange

/-!
# What a screening answers

A screening enters the answers of companies under their names one by one. What is left is a table in
the order of first appearance with the answer of the last company of each name, and what is told is
a warning for each position that repeats a name.

- `positions`: the positions of a list that have a property; `repeats` are those of repeated names.
- `tally_value`, `tally_events`: the table and the warnings.
- `eligibility_value` and the like: the four questions, in terms of the possessions as given.
-/

namespace Candidacy

namespace Screening

/-! ## Positions -/

/-- The positions of a list that have a property, in order. -/
def positions (cs : List Company) (p : Fin cs.length → Prop) [DecidablePred p] :
    List (Fin cs.length) :=
  (List.finRange cs.length).filter fun i => decide (p i)

theorem positions_congr {cs : List Company} {p q : Fin cs.length → Prop} [DecidablePred p]
    [DecidablePred q] (h : ∀ i, p i ↔ q i) : positions cs p = positions cs q :=
  List.filter_congr fun i _ => decide_eq_decide.mpr (h i)

theorem positions_cons (c : Company) (cs : List Company) (p : Fin (c :: cs).length → Prop)
    [DecidablePred p] :
    positions (c :: cs) p =
      (if p 0 then [0] else []) ++ (positions cs fun i => p i.succ).map Fin.succ := by
  unfold positions
  simp only [List.length_cons, List.finRange_succ, List.filter_cons, List.filter_map]
  by_cases h : p 0
  · simp [h, Function.comp_def]
  · simp [h, Function.comp_def]

theorem positions_sublist {cs : List Company} (p : Fin cs.length → Prop) [DecidablePred p] :
    (positions cs p).Sublist (List.finRange cs.length) := List.filter_sublist

theorem mem_positions {cs : List Company} {p : Fin cs.length → Prop} [DecidablePred p]
    {i : Fin cs.length} : i ∈ positions cs p ↔ p i := by
  simp [positions]

/-- Sifting a list is taking the members at the positions where the test succeeds. -/
theorem filter_eq_map_positions (p : Company → Bool) (cs : List Company) :
    cs.filter p = (positions cs fun i => p (cs.get i) = true).map cs.get := by
  conv_lhs => rw [← List.map_getElem_finRange cs, List.filter_map]
  simp [positions, Function.comp_def]

theorem positions_vals_cons (p : Company → Bool) (c : Company) (cs : List Company) :
    (positions (c :: cs) fun i => p ((c :: cs).get i) = true).map Fin.val =
      (if p c = true then [0] else []) ++
        ((positions cs fun i => p (cs.get i) = true).map Fin.val).map Nat.succ := by
  rw [positions_cons, List.map_append, List.map_map, List.map_map]
  refine congrArg₂ (· ++ ·) ?_ rfl
  show List.map Fin.val (if p c = true then [0] else []) = _
  split <;> rfl

theorem positions_vals_congr {p : Company → Bool} {cs ds : List Company} (h : cs.map p = ds.map p) :
    (positions cs fun i => p (cs.get i) = true).map Fin.val =
      (positions ds fun i => p (ds.get i) = true).map Fin.val := by
  induction cs generalizing ds with
  | nil =>
    cases ds with
    | nil => rfl
    | cons d ds => cases h
  | cons c cs ih =>
    cases ds with
    | nil => cases h
    | cons d ds =>
      obtain ⟨hfirst, hrest⟩ := List.cons.inj h
      rw [positions_vals_cons, positions_vals_cons, hfirst, ih hrest]

/-! ## Entering companies one by one -/

/-- The positions whose company has the name of an earlier one, in order. -/
def repeats (cs : List Company) : List (Fin cs.length) :=
  positions cs fun i => ∃ j < i, (cs.get j).name = (cs.get i).name

def warnings (cs : List Company) : List Event :=
  (repeats cs).map fun i => .duplicateCompany (cs.get i).name

variable {α : Type}

theorem tally_cons_events (answer : Company → α) (t : ByName α) (c : Company) (cs : List Company) :
    (tally answer t (c :: cs)).events =
      (if t.has c.name then [.duplicateCompany c.name] else []) ++
        (tally answer (t.put c.name (answer c)) cs).events := rfl

theorem tally_value (answer : Company → α) (t : ByName α) (cs : List Company) :
    (tally answer t cs).value = ByName.enterAll Company.name answer t cs := by
  induction cs generalizing t with
  | nil => rfl
  | cons c cs ih => exact ih _

/-- A company is warned about if its name stands in the table at the start or occurs earlier. -/
theorem tally_events (answer : Company → α) (t : ByName α) (cs : List Company) :
    (tally answer t cs).events =
      (positions cs fun i =>
        (cs.get i).name ∈ t.names ∨ ∃ j < i, (cs.get j).name = (cs.get i).name).map
          fun i => .duplicateCompany (cs.get i).name := by
  induction cs generalizing t with
  | nil => rfl
  | cons c cs ih =>
    have hseen (n : String) :
        n ∈ (t.put c.name (answer c)).names ↔ n ∈ t.names ∨ c.name = n := by
      rw [ByName.names_put]
      split
      · rename_i hc
        exact ⟨.inl, fun h => h.elim id fun e => e ▸ hc⟩
      · rw [List.mem_append, List.mem_singleton, eq_comm]
    have htail : (positions cs fun i => (cs.get i).name ∈ (t.put c.name (answer c)).names ∨
          ∃ j < i, (cs.get j).name = (cs.get i).name) =
        positions cs fun i => ((c :: cs).get i.succ).name ∈ t.names ∨
          ∃ j < i.succ, ((c :: cs).get j).name = ((c :: cs).get i.succ).name := by
      refine positions_congr fun i => ?_
      simp [Fin.exists_fin_succ, hseen, or_assoc]
    rw [tally_cons_events, ih, htail, positions_cons, List.map_append, List.map_map]
    by_cases hc : c.name ∈ t.names
    · rw [if_pos (ByName.has_eq_true_iff.mpr hc), if_pos (.inl hc)]
      rfl
    · rw [if_neg (mt ByName.has_eq_true_iff.mp hc), if_neg (by simpa using hc)]
      rfl

theorem length_tally_events (answer : Company → α) (t : ByName α) (cs : List Company) :
    (tally answer t cs).events.length + (tally answer t cs).value.names.length =
      cs.length + t.names.length := by
  induction cs generalizing t with
  | nil => simp [tally]
  | cons c cs ih =>
    have hvalue : (tally answer t (c :: cs)).value =
        (tally answer (t.put c.name (answer c)) cs).value := rfl
    have ih := ih (t.put c.name (answer c))
    rw [ByName.names_put] at ih
    rw [tally_cons_events, hvalue, List.length_append, List.length_cons]
    by_cases hc : c.name ∈ t.names
    · rw [if_pos hc] at ih
      rw [if_pos (ByName.has_eq_true_iff.mpr hc), List.length_singleton]
      omega
    · rw [if_neg hc, List.length_append, List.length_singleton] at ih
      rw [if_neg (mt ByName.has_eq_true_iff.mp hc), List.length_nil]
      omega

/-! ## The four questions -/

theorem eligible_eq (cs : List Company) (ps : List String) :
    eligible cs ps = cs.filter (·.canWork ps) := by
  simp only [eligible, Company.canWork_heldItems]

theorem ineligible_eq (cs : List Company) (ps : List String) :
    ineligible cs ps = cs.filter fun c => !c.canWork ps := by
  simp only [ineligible, Company.canWork_heldItems]

theorem eligibility_value (cs : List Company) (ps : List String) :
    (eligibility cs ps).value = ByName.enterAll Company.name (·.canWork ps) [] cs := by
  simp only [eligibility, tally_value, Company.canWork_heldItems]

theorem verdicts_value (cs : List Company) (ps : List String) :
    (verdicts cs ps).value =
      ByName.enterAll Company.name (fun c => ⟨c.canWork ps, c.requirementDescription⟩) [] cs := by
  simp only [verdicts, tally_value, Company.canWork_heldItems]

theorem get?_verdicts {n : String} {cs : List Company} {c : Company}
    (h : ByName.Last Company.name n cs c) (ps : List String) :
    (verdicts cs ps).value.get? n = some ⟨c.canWork ps, c.requirementDescription⟩ := by
  rw [verdicts_value]
  exact ByName.get?_enterAll.mpr ⟨c, h, rfl⟩

/-- Companies entered into an empty table are warned about at each repeated name. -/
theorem tally_nil_events (answer : Company → α) (cs : List Company) :
    (tally answer [] cs).events = warnings cs := by
  rw [tally_events, warnings, repeats]
  refine congrArg _ (positions_congr fun i => ?_)
  simp [ByName.names]

theorem length_warnings (cs : List Company) :
    (warnings cs).length + (cs.map (·.name)).eraseDups.length = cs.length := by
  have h := length_tally_events (fun c => c.requirementDescription) [] cs
  rw [tally_nil_events, tally_value, ByName.names_enterAll] at h
  simpa [ByName.names] using h

/-- Three companies, the first and the last of one name. -/
def namesakes : List Company := [
  ⟨"A", some (.item "car")⟩,
  ⟨"B", none⟩,
  ⟨"A", some (.composite .all [.item "bike", .composite .any [.item "car", .item "bus"]])⟩]

theorem namesakes_wellFormed : ∀ c ∈ namesakes, c.WellFormed := by decide +kernel

end Screening

end Candidacy
