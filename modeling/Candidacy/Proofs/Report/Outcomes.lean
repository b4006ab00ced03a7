import Candidacy.Proofs.Input.Companies
import Candidacy.Proofs.Screening

/-!
# The outcomes of a report

A report draws up an outcome for every company of the list, each with the verdict that stands under
its name and its own required items, and only then keeps one outcome per name. What is kept under a
name is all of one company, the last of the name: its outcome is the only one of that name whose
verdict is its own.

- `Company.outcome`: the outcome of a company by itself.
- `mem_outcomes`: the outcomes of a report are those of the last companies of each name.
- `report_consistent`: a report agrees with the screening and with itself.
-/

namespace Candidacy

def Company.outcome (c : Company) (ps : List String) : Outcome :=
  .ofVerdict (heldItems ps) c ⟨c.canWork ps, c.requirementDescription⟩

namespace ByName

variable {α : Type} {key : α → String} {xs : List α}

theorem mem_values_ofList {a : α} : a ∈ (ofList key xs).values ↔ Last key (key a) xs a := by
  rw [values, List.mem_map, ofList_eq]
  constructor
  · rintro ⟨⟨n, b⟩, hb, rfl⟩
    obtain ⟨b', hlast, rfl⟩ := mem_enterAll.mp hb
    rw [id, hlast.key_eq]
    exact hlast
  · exact fun h => ⟨(key a, a), mem_enterAll.mpr ⟨a, h, rfl⟩, rfl⟩

theorem map_key_values_ofList (key : α → String) (xs : List α) :
    (ofList key xs).values.map key = (xs.map key).eraseDups := by
  rw [← names_enterAll key id, ← ofList_eq, values, names, List.map_map]
  refine List.map_congr_left ?_
  rintro ⟨n, a⟩ h
  obtain ⟨b, hlast, rfl⟩ := mem_enterAll.mp h
  exact hlast.key_eq

end ByName

namespace Report

variable {cs : List Company} {words : List Word} {timestamp : String} {o : Outcome}

theorem outcomes_eq (cs : List Company) (words : List Word) (timestamp : String) :
    (draw cs words timestamp).value.outcomes =
      (ByName.ofList Outcome.company (outcomesOf cs
        (Screening.verdicts cs (words.map (·.text))).value
        (heldItems (words.map (·.text))))).values := rfl

/-- One outcome per name is kept, that of the last company of the name by itself. -/
theorem outcomes_eq_map (cs : List Company) (words : List Word) (timestamp : String) :
    (draw cs words timestamp).value.outcomes =
      (ByName.ofList Company.name cs).values.map (·.outcome (words.map (·.text))) := by
  have hvalues : (draw cs words timestamp).value.outcomes =
      (ByName.ofList Company.name cs).values.map fun c =>
        Outcome.ofVerdict (heldItems (words.map (·.text))) c
          (((Screening.verdicts cs (words.map (·.text))).value.get? c.name).getD
            ⟨false, c.requirementDescription⟩) := by
    rw [outcomes_eq]
    exact ByName.values_ofList_map (fun _ => rfl) cs
  rw [hvalues]
  -- only of a company that is the last of its name is the verdict under the name its own
  refine List.map_congr_left fun c hc => ?_
  rw [Screening.get?_verdicts (ByName.mem_values_ofList.mp hc)]
  rfl

theorem names_outcomes (cs : List Company) (words : List Word) (timestamp : String) :
    (draw cs words timestamp).value.outcomes.map (·.company) = (cs.map (·.name)).eraseDups := by
  rw [outcomes_eq_map, List.map_map]
  exact ByName.map_key_values_ofList Company.name cs

theorem mem_outcomes :
    o ∈ (draw cs words timestamp).value.outcomes ↔
      ∃ c, ByName.Last Company.name o.company cs c ∧ o = c.outcome (words.map (·.text)) := by
  rw [outcomes_eq_map, List.mem_map]
  constructor
  · rintro ⟨c, hc, rfl⟩
    exact ⟨c, ByName.mem_values_ofList.mp hc, rfl⟩
  · rintro ⟨c, hc, rfl⟩
    exact ⟨c, ByName.mem_values_ofList.mpr hc, rfl⟩

/-! ## The two parts -/

theorem parts_perm (r : Report) : (r.eligible ++ r.ineligible).Perm r.outcomes :=
  List.filter_append_perm _ _

theorem length_parts (r : Report) :
    r.eligible.length + r.ineligible.length = r.outcomes.length := by
  rw [← List.length_append, r.parts_perm.length_eq]

theorem eligible_true {r : Report} (h : o ∈ r.eligible) : o.eligible = true :=
  (List.mem_filter.mp h).2

theorem ineligible_false {r : Report} (h : o ∈ r.ineligible) : o.eligible = false := by
  simpa using (List.mem_filter.mp h).2

theorem eligibleCount_draw (cs : List Company) (words : List Word) (timestamp : String) :
    (draw cs words timestamp).value.eligibleCount =
      (draw cs words timestamp).value.eligible.length := rfl

theorem ineligibleCount_draw (cs : List Company) (words : List Word) (timestamp : String) :
    (draw cs words timestamp).value.ineligibleCount =
      (draw cs words timestamp).value.ineligible.length := by
  have hlen := length_parts (draw cs words timestamp).value
  have hcount : (draw cs words timestamp).value.ineligibleCount =
      (draw cs words timestamp).value.outcomes.length -
        (draw cs words timestamp).value.eligible.length := rfl
  omega

/-- The candidate is counted once per name, by the last company of the name. -/
theorem eligibleCount_eq_countP (cs : List Company) (words : List Word) (timestamp : String) :
    (draw cs words timestamp).value.eligibleCount =
      (ByName.ofList Company.name cs).values.countP (·.canWork (words.map (·.text))) := by
  rw [eligibleCount_draw, eligible, outcomes_eq_map, ← List.countP_eq_length_filter,
    List.countP_map]
  rfl

theorem rate_draw (cs : List Company) (words : List Word) (timestamp : String) :
    (draw cs words timestamp).value.rate =
      .ofCounts (draw cs words timestamp).value.eligibleCount
        (ByName.ofList Company.name cs).values.length := by
  have hlength := congrArg List.length (outcomes_eq_map cs words timestamp)
  rw [List.length_map] at hlength
  rw [← hlength]
  rfl

theorem value_draw (cs : List Company) (words : List Word) (timestamp : String) :
    let outcomes := (draw cs words timestamp).value.outcomes
    let eligibleCount := (outcomes.filter (·.eligible)).length
    (draw cs words timestamp).value =
      { possessions := Text.sortedOn Word.text words
        outcomes := outcomes
        eligibleCount := eligibleCount
        ineligibleCount := outcomes.length - eligibleCount
        rate := .ofCounts eligibleCount outcomes.length
        companyCount := outcomes.length
        timestamp := timestamp
        version := currentVersion } := rfl

/-! ## Agreement -/

/-- The report agrees with the screening and with itself: one outcome per name, in the order of the
screening's table and with its verdicts, and each all from the last company of its name; the two
parts, the counts, and the possessions in order. -/
structure Consistent (cs : List Company) (words : List Word) (r : Report) : Prop where
  names_nodup : (r.outcomes.map (·.company)).Nodup
  names_eq : r.outcomes.map (·.company) =
    (Screening.verdicts cs (words.map (·.text))).value.names
  verdict : ∀ o ∈ r.outcomes, (Screening.verdicts cs (words.map (·.text))).value.get? o.company =
    some ⟨o.eligible, o.description⟩
  last : ∀ o ∈ r.outcomes, ∃ c, ByName.Last Company.name o.company cs c ∧
    o.eligible = c.canWork (words.map (·.text)) ∧ o.description = c.requirementDescription ∧
    (∀ x, x ∈ o.requiredItems ↔ ∃ q ∈ c.requirement, x ∈ q.leaves) ∧
    (o.requiredItems = [] ↔ c.requirement = none)
  required_strict : ∀ o ∈ r.outcomes, o.requiredItems.Pairwise (· < ·)
  eligible_sublist : r.eligible.Sublist r.outcomes
  ineligible_sublist : r.ineligible.Sublist r.outcomes
  parts_perm : (r.eligible ++ r.ineligible).Perm r.outcomes
  eligible_true : ∀ o ∈ r.eligible, o.eligible = true
  ineligible_false : ∀ o ∈ r.ineligible, o.eligible = false
  eligibleCount_eq : r.eligibleCount = r.eligible.length
  ineligibleCount_eq : r.ineligibleCount = r.ineligible.length
  count_add : r.eligibleCount + r.ineligibleCount = r.outcomes.length
  companyCount_eq : r.companyCount = r.outcomes.length
  possessions_perm : r.possessions.Perm words
  possessions_sorted : r.possessions.Pairwise fun a b => a.text ≤ b.text

variable {s : Store} {companies possessions : Value}

/-- Every run that is given companies and possessions to read succeeds, with a report that agrees
with the screening of those companies for those possessions and with itself. -/
theorem report_consistent (hwf : ∀ c ∈ cs, c.WellFormed)
    (h : Reads s companies possessions cs words) (timestamp : String) :
    ∃ t, (run s companies possessions timestamp).1 = .ok t ∧ t.value.Consistent cs words := by
  refine ⟨draw cs words timestamp, run_of_reads h timestamp, ?_⟩
  have hverdicts := Screening.verdicts_value cs (words.map (·.text))
  constructor
  case names_nodup =>
    rw [names_outcomes]
    exact nodup_eraseDups _
  case names_eq => rw [names_outcomes, hverdicts, ByName.names_enterAll]
  case verdict =>
    intro o ho
    obtain ⟨c, hc, rfl⟩ := mem_outcomes.mp ho
    rw [hverdicts]
    exact ByName.get?_enterAll.mpr ⟨c, hc, rfl⟩
  case last =>
    intro o ho
    obtain ⟨c, hc, rfl⟩ := mem_outcomes.mp ho
    exact ⟨c, hc, rfl, rfl, fun x => Company.mem_requiredItems,
      (hwf c hc.mem).requiredItems_eq_nil_iff⟩
  case required_strict =>
    intro o ho
    obtain ⟨c, hc, rfl⟩ := mem_outcomes.mp ho
    exact c.requiredItems_strict
  case eligible_sublist => exact List.filter_sublist
  case ineligible_sublist => exact List.filter_sublist
  case parts_perm => exact parts_perm _
  case eligible_true => exact fun o => eligible_true
  case ineligible_false => exact fun o => ineligible_false
  case eligibleCount_eq => exact eligibleCount_draw cs words timestamp
  case ineligibleCount_eq => exact ineligibleCount_draw cs words timestamp
  case count_add =>
    rw [eligibleCount_draw, ineligibleCount_draw]
    exact length_parts _
  case companyCount_eq => rfl
  case possessions_perm => exact Text.sortedOn_perm ..
  case possessions_sorted => exact Text.sortedOn_pairwise ..

/-- Of two companies that share a name only the later stands in the report. -/
theorem report_consistent_namesakes :
    (∀ c ∈ Screening.namesakes, c.WellFormed) ∧
      Reads .empty (.tuple (Screening.namesakes.map .company))
        (.tuple [.text "bus", .text " Bike "])
        Screening.namesakes [.plain "bus", .plain " Bike "] ∧
      ∃ t, (run .empty (.tuple (Screening.namesakes.map .company))
          (.tuple [.text "bus", .text " Bike "]) "").1 = .ok t ∧
        t.value.Consistent Screening.namesakes [.plain "bus", .plain " Bike "] :=
  have hwf := Screening.namesakes_wellFormed
  have hreads := reads_tuples .empty Screening.namesakes [.plain "bus", .plain " Bike "]
  ⟨hwf, hreads, report_consistent hwf hreads ""⟩

end Report

end Candidacy
