import Candidacy.Log.Entry
import Candidacy.Proofs.Report.Outcomes
import Mathlib.Data.List.Forall2

/-!
# The events of a report

A report is drawn up with an event for every company of the list, whether or not its outcome is
kept. The outcome of a company that is not the last of its name has items of its own, but those are
not told: what is told of it is the verdict under its name, and so just what the outcome that is kept
says.

- `Event.result?`: what an event tells about a company.
- `Faithful`: events that tell all of a report and nothing else.
- `faithful_draw`: the events with which a report is drawn up are such events.
-/

namespace Candidacy

/-- What an event tells about a company: its name, the answer and the requirement. -/
def Event.result? : Event → Option (String × Bool × String)
  | result company eligible requirement => some (company, eligible, requirement)
  | _ => none

def Outcome.told (o : Outcome) : String × Bool × String := (o.company, o.eligible, o.description)

theorem Outcome.event_of_told_eq {o o' : Outcome} (h : o.told = o'.told) :
    o'.event = .result o.company o.eligible o.description := by
  obtain ⟨hcompany, heligible, hdescription⟩ : o.company = o'.company ∧
      o.eligible = o'.eligible ∧ o.description = o'.description := by
    simpa only [told, Prod.mk.injEq] using h
  rw [hcompany, heligible, hdescription, event]

namespace Screening

theorem name_of_mem_warnings {cs : List Company} {e : Event} (h : e ∈ warnings cs) :
    ∃ c ∈ cs, e = .duplicateCompany c.name := by
  obtain ⟨i, -, rfl⟩ := List.mem_map.mp h
  exact ⟨cs.get i, List.get_mem cs i, rfl⟩

end Screening

namespace Report

variable {cs : List Company} {words : List Word} {timestamp : String}

/-- The events tell all of the report and nothing else: first the repeated names, then a result for
each company of the list, which is what the outcome under its name says, and at last the counts and
the rate. -/
structure Faithful (cs : List Company) (r : Report) (events : List Event) : Prop where
  names_nodup : (r.outcomes.map (·.company)).Nodup
  sequence : ∃ results : List Event,
    List.Forall₂ (fun c e => ∃ o ∈ r.outcomes, o.company = c.name ∧
      e = .result o.company o.eligible o.description) cs results ∧
    events = Screening.warnings cs ++ results ++
      [.summary r.eligibleCount r.ineligibleCount r.rate]
  entries : events.map (fun e => (e.name, e.level)) =
    List.replicate (Screening.warnings cs).length ("eligibility.duplicate_company", .warning) ++
      List.replicate cs.length ("eligibility.result", .info) ++ [("eligibility.summary", .info)]
  collected : (ByName.ofList (·.1) (events.filterMap Event.result?)).values =
    r.outcomes.map fun o => (o.company, o.eligible, o.description)
  results_agree : ∀ a ∈ events.filterMap Event.result?, ∀ b ∈ events.filterMap Event.result?,
    a.1 = b.1 → a = b
  count_warnings : (events.filter fun e => e.level = .warning).length + r.outcomes.length =
    (events.filterMap Event.result?).length

/-- The outcomes for all companies of the list, before one of each name is kept. -/
def allOutcomes (cs : List Company) (words : List Word) : List Outcome :=
  outcomesOf cs (Screening.verdicts cs (words.map (·.text))).value
    (heldItems (words.map (·.text)))

theorem events_draw (cs : List Company) (words : List Word) (timestamp : String) :
    (draw cs words timestamp).events =
      Screening.warnings cs ++ (allOutcomes cs words).map (·.event) ++
        [.summary (draw cs words timestamp).value.eligibleCount
          (draw cs words timestamp).value.ineligibleCount
          (draw cs words timestamp).value.rate] := by
  have hwarnings : (Screening.verdicts cs (words.map (·.text))).events = Screening.warnings cs :=
    Screening.tally_nil_events _ cs
  rw [← hwarnings]
  rfl

theorem events_allOutcomes (cs : List Company) (words : List Word) :
    (allOutcomes cs words).map (·.event) = cs.map fun c =>
      let v := ((Screening.verdicts cs (words.map (·.text))).value.get? c.name).getD
        ⟨false, c.requirementDescription⟩
      .result c.name v.eligible v.description := by
  rw [allOutcomes, outcomesOf, List.map_map]
  rfl

theorem nodup_names_outcomes :
    ((draw cs words timestamp).value.outcomes.map (·.company)).Nodup := by
  rw [names_outcomes]
  exact nodup_eraseDups _

theorem exists_told_eq {o' : Outcome} (h : o' ∈ allOutcomes cs words) (timestamp : String) :
    ∃ o ∈ (draw cs words timestamp).value.outcomes, o.told = o'.told := by
  obtain ⟨c, hc, rfl⟩ := List.mem_map.mp h
  obtain ⟨d, hd⟩ : ∃ d, ByName.Last Company.name c.name cs d :=
    ByName.Last.exists_of_member hc
  have hname : (d.outcome (words.map (·.text))).company = c.name := hd.key_eq
  refine ⟨d.outcome (words.map (·.text)), mem_outcomes.mpr ⟨d, hname.symm ▸ hd, rfl⟩, ?_⟩
  rw [Screening.get?_verdicts hd]
  exact congrArg (·, d.canWork (words.map (·.text)), d.requirementDescription) hname

theorem told_eq_of_name_eq {o o' : Outcome} (h : o ∈ allOutcomes cs words)
    (h' : o' ∈ allOutcomes cs words) (hname : o.company = o'.company) : o.told = o'.told := by
  obtain ⟨p, hp, hpo⟩ := exists_told_eq h ""
  obtain ⟨p', hp', hpo'⟩ := exists_told_eq h' ""
  have hcompany : p.company = o.company := congrArg Prod.fst hpo
  have hcompany' : p'.company = o'.company := congrArg Prod.fst hpo'
  have hsame : p = p' := List.inj_on_of_nodup_map nodup_names_outcomes hp hp'
    (hcompany.trans (hname.trans hcompany'.symm))
  rw [← hpo, ← hpo', hsame]

theorem results_draw (cs : List Company) (words : List Word) (timestamp : String) :
    (draw cs words timestamp).events.filterMap Event.result? =
      (allOutcomes cs words).map Outcome.told := by
  have hwarnings : (Screening.warnings cs).filterMap Event.result? = [] := by
    rw [List.filterMap_eq_nil_iff]
    intro e he
    obtain ⟨c, -, rfl⟩ := Screening.name_of_mem_warnings he
    rfl
  have hresults : ((allOutcomes cs words).map (·.event)).filterMap Event.result? =
      (allOutcomes cs words).map Outcome.told := by
    rw [List.filterMap_map]
    exact congrFun List.filterMap_eq_map _
  rw [events_draw, List.filterMap_append, List.filterMap_append, hwarnings, hresults]
  exact List.append_nil _

theorem warnings_draw (cs : List Company) (words : List Word) (timestamp : String) :
    (draw cs words timestamp).events.filter (fun e => e.level = .warning) =
      Screening.warnings cs := by
  have hwarnings : (Screening.warnings cs).filter (fun e => e.level = .warning) =
      Screening.warnings cs := by
    rw [List.filter_eq_self]
    intro e he
    obtain ⟨c, -, rfl⟩ := Screening.name_of_mem_warnings he
    rfl
  have hresults : ((allOutcomes cs words).map (·.event)).filter (fun e => e.level = .warning) =
      [] := by
    rw [List.filter_eq_nil_iff]
    intro e he
    obtain ⟨o, -, rfl⟩ := List.mem_map.mp he
    exact Bool.false_ne_true
  rw [events_draw, List.filter_append, List.filter_append, hwarnings, hresults, List.append_nil]
  exact List.append_nil _

theorem length_allOutcomes (cs : List Company) (words : List Word) :
    (allOutcomes cs words).length = cs.length := List.length_map _

theorem entries_draw (cs : List Company) (words : List Word) (timestamp : String) :
    (draw cs words timestamp).events.map (fun e => (e.name, e.level)) =
      List.replicate (Screening.warnings cs).length ("eligibility.duplicate_company", .warning) ++
        List.replicate cs.length ("eligibility.result", .info) ++
          [("eligibility.summary", .info)] := by
  have hwarnings : (Screening.warnings cs).map (fun e => (e.name, e.level)) =
      List.replicate (Screening.warnings cs).length
        ("eligibility.duplicate_company", Level.warning) := by
    refine List.map_eq_replicate_iff.mpr fun e he => ?_
    obtain ⟨c, -, rfl⟩ := Screening.name_of_mem_warnings he
    rfl
  have hresults : ((allOutcomes cs words).map (·.event)).map (fun e => (e.name, e.level)) =
      List.replicate cs.length ("eligibility.result", Level.info) := by
    rw [List.map_map, ← length_allOutcomes cs words]
    exact List.map_eq_replicate_iff.mpr fun o _ => rfl
  rw [events_draw, List.map_append, List.map_append, hwarnings, hresults]
  rfl

/-- The result for each company is what the outcome that is kept under its name says. -/
theorem forall₂_events_allOutcomes (cs : List Company) (words : List Word) (timestamp : String) :
    List.Forall₂ (fun c e => ∃ o ∈ (draw cs words timestamp).value.outcomes, o.company = c.name ∧
      e = .result o.company o.eligible o.description) cs
      ((allOutcomes cs words).map (·.event)) := by
  have hkept (c : Company) (o' : Outcome) (ho' : o' ∈ allOutcomes cs words)
      (hname : o'.company = c.name) :
      ∃ o ∈ (draw cs words timestamp).value.outcomes, o.company = c.name ∧
        o'.event = .result o.company o.eligible o.description := by
    obtain ⟨o, ho, htold⟩ := exists_told_eq ho' timestamp
    have hcompany : o.company = o'.company := congrArg Prod.fst htold
    exact ⟨o, ho, hcompany.trans hname, Outcome.event_of_told_eq htold⟩
  rw [allOutcomes, outcomesOf, List.map_map, List.forall₂_map_right_iff, List.forall₂_same]
  exact fun c hc => hkept c _ (List.mem_map_of_mem hc) rfl

/-- The events with which a report is drawn up tell all of it and nothing else. -/
theorem faithful_draw (cs : List Company) (words : List Word) (timestamp : String) :
    Faithful cs (draw cs words timestamp).value (draw cs words timestamp).events := by
  constructor
  case names_nodup => exact nodup_names_outcomes
  case sequence =>
    exact ⟨_, forall₂_events_allOutcomes cs words timestamp, events_draw cs words timestamp⟩
  case entries => exact entries_draw cs words timestamp
  case collected =>
    have hcollected : (ByName.ofList (·.1) ((allOutcomes cs words).map Outcome.told)).values =
        (ByName.ofList Outcome.company (allOutcomes cs words)).values.map Outcome.told :=
      ByName.values_ofList_map (fun _ => rfl) _
    rw [results_draw, hcollected]
    rfl
  case results_agree =>
    rw [results_draw]
    intro a ha b hb hname
    obtain ⟨o, ho, rfl⟩ := List.mem_map.mp ha
    obtain ⟨o', ho', rfl⟩ := List.mem_map.mp hb
    exact told_eq_of_name_eq ho ho' hname
  case count_warnings =>
    have hresults : ((draw cs words timestamp).events.filterMap Event.result?).length =
        cs.length := by
      rw [results_draw, List.length_map, length_allOutcomes]
    have houtcomes : (draw cs words timestamp).value.outcomes.length =
        (cs.map (·.name)).eraseDups.length := by
      rw [← names_outcomes cs words timestamp, List.length_map]
    rw [hresults, houtcomes, warnings_draw]
    exact Screening.length_warnings cs

end Report

end Candidacy
