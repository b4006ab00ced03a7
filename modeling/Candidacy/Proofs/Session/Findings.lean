import Candidacy.Proofs.Report.Events
import Candidacy.Proofs.Report.MissingItems
import Candidacy.Proofs.Session.Questions
import Candidacy.Proofs.SuccessRate

/-!
# More possessions

What questions and reports find out about companies depends on the possessions only through the set
of their normal forms, and more of these are never worse: whoever was eligible stays so, the counts
and the rate do not fall, and of what is missing nothing is new.

- `Findings`: all that the questions and a report tell, possessions and time apart.
- `Findings.Of`: they are what is told however companies and possessions are handed over.
- `Findings.AtMost`: one candidate's findings are no better than another's.
- `more_possessions`: the findings for more possessions are no worse, and for equal normal forms the
  same.
-/

namespace Candidacy

/-! ## One company -/

namespace Company

variable {ps qs : List String}

theorem canWork_of_subset {c : Company} (hsub : ∀ x ∈ heldItems ps, x ∈ heldItems qs)
    (h : c.canWork ps = true) : c.canWork qs = true :=
  canWork_mono (fun x _ hx => hsub x hx) h

theorem missingItems_sublist {c : Company} (hsub : ∀ x ∈ heldItems ps, x ∈ heldItems qs)
    (hp : c.canWork ps = false) (hq : c.canWork qs = false) :
    (c.outcome qs).missingItems.Sublist (c.outcome ps).missingItems := by
  rw [missingItems_outcome hp, missingItems_outcome hq]
  refine List.monotone_filter_right _ fun x hx => ?_
  simp only [Bool.not_eq_true', List.contains_eq_mem, decide_eq_false_iff_not] at hx ⊢
  exact mt (hsub x) hx

section Same

variable (hsame : ∀ x, x ∈ heldItems ps ↔ x ∈ heldItems qs)
include hsame

theorem canWork_congr (c : Company) : c.canWork ps = c.canWork qs := by
  rw [Bool.eq_iff_iff]
  exact ⟨canWork_of_subset fun x => (hsame x).mp, canWork_of_subset fun x => (hsame x).mpr⟩

theorem outcome_congr (c : Company) : c.outcome ps = c.outcome qs :=
  outcome_eq_of_required fun x _ => hsame x

end Same

end Company

/-! ## Questions and reports -/

namespace Session

/-- All that the questions about companies and a report on them tell, possessions and time apart. -/
structure Findings where
  kept : List Company
  dropped : List Company
  flags : Traced (ByName Bool)
  details : Traced (ByName Verdict)
  outcomes : List Outcome
  eligibleCount : Nat
  ineligibleCount : Nat
  rate : SuccessRate
  companyCount : Nat
  version : String
  events : List Event

namespace Findings

def answer (f : Findings) (s : Store) : Query → Except Fault (Traced Value) × Store
  | .eligible => told (s.newList (f.kept.map .company)) []
  | .ineligible => told (s.newList (f.dropped.map .company)) []
  | .eligibility =>
    told (s.newTable (f.flags.value.map fun (n, b) => (.text n, .bool b))) f.flags.events
  | .verdicts =>
    told (s.newTable (f.details.value.map fun (n, v) => (.text n, .verdict v))) f.details.events

def report (f : Findings) (possessions : List Word) (timestamp : String) : Report where
  possessions := possessions
  outcomes := f.outcomes
  eligibleCount := f.eligibleCount
  ineligibleCount := f.ineligibleCount
  rate := f.rate
  companyCount := f.companyCount
  timestamp := timestamp
  version := f.version

/-- The findings are what is told of these companies for these possessions, however both are handed
over. -/
structure Of (f : Findings) (cs : List Company) (ps : List Word) : Prop where
  asked : ∀ s companies possessions s₁,
    Screening.Input.ofValues s companies possessions = (.ok ⟨cs, ps.map (·.text)⟩, s₁) →
      ∀ query, (Operation.screen query companies possessions).run.run s = f.answer s₁ query
  reported : ∀ s companies possessions timestamp, Report.Reads s companies possessions cs ps →
    (Report.run s companies possessions timestamp).1 =
      .ok ⟨f.report (Text.sortedOn Word.text ps) timestamp, f.events⟩

/-- The findings `g` are as good as `f` or better. -/
structure AtMost (f g : Findings) : Prop where
  kept_sublist : f.kept.Sublist g.kept
  flags_true : ∀ n, f.flags.value.get? n = some true → g.flags.value.get? n = some true
  eligibleCount_le : f.eligibleCount ≤ g.eligibleCount
  rate_le : f.rate.tenths ≤ g.rate.tenths
  missing_sublist : ∀ o ∈ f.outcomes, ∀ o' ∈ g.outcomes, o.company = o'.company →
    o.eligible = false → o'.eligible = false → o'.missingItems.Sublist o.missingItems

def ofOwner (cs : List Company) (ps : List Word) : Findings :=
  let texts := ps.map (·.text)
  let drawn := Report.draw cs ps ""
  { kept := Screening.eligible cs texts
    dropped := Screening.ineligible cs texts
    flags := Screening.eligibility cs texts
    details := Screening.verdicts cs texts
    outcomes := drawn.value.outcomes
    eligibleCount := drawn.value.eligibleCount
    ineligibleCount := drawn.value.ineligibleCount
    rate := drawn.value.rate
    companyCount := drawn.value.companyCount
    version := drawn.value.version
    events := drawn.events }

theorem of_ofOwner (cs : List Company) (ps : List Word) : (ofOwner cs ps).Of cs ps := by
  constructor
  case asked =>
    intro s companies possessions s₁ h query
    rw [run_screen h]
    cases query with
    | eligible | ineligible | eligibility | verdicts => rfl
  case reported =>
    intro s companies possessions timestamp h
    rw [Report.run_of_reads h timestamp]
    rfl

variable {cs : List Company} {ps qs : List Word}

/-- More possessions are never worse. -/
theorem atMost_ofOwner
    (hsub : ∀ x ∈ heldItems (ps.map (·.text)), x ∈ heldItems (qs.map (·.text))) :
    (ofOwner cs ps).AtMost (ofOwner cs qs) := by
  have hcanWork (c : Company) : c.canWork (ps.map (·.text)) = true →
      c.canWork (qs.map (·.text)) = true := Company.canWork_of_subset hsub
  have hcount : (ofOwner cs ps).eligibleCount ≤ (ofOwner cs qs).eligibleCount := by
    show (Report.draw cs ps "").value.eligibleCount ≤ (Report.draw cs qs "").value.eligibleCount
    rw [Report.eligibleCount_eq_countP, Report.eligibleCount_eq_countP]
    exact List.countP_mono_left fun c _ => hcanWork c
  constructor
  case kept_sublist =>
    show (Screening.eligible cs _).Sublist (Screening.eligible cs _)
    rw [Screening.eligible_eq, Screening.eligible_eq]
    exact List.monotone_filter_right cs hcanWork
  case flags_true =>
    intro n hn
    have hn : (Screening.eligibility cs (ps.map (·.text))).value.get? n = some true := hn
    show (Screening.eligibility cs (qs.map (·.text))).value.get? n = some true
    rw [Screening.eligibility_value, ByName.get?_enterAll] at hn ⊢
    obtain ⟨c, hc, hyes⟩ := hn
    exact ⟨c, hc, hcanWork c hyes⟩
  case eligibleCount_le => exact hcount
  case rate_le =>
    show (Report.draw cs ps "").value.rate.tenths ≤ (Report.draw cs qs "").value.rate.tenths
    rw [Report.rate_draw, Report.rate_draw]
    refine SuccessRate.tenths_ofCounts_mono hcount ?_
    rw [Report.eligibleCount_eq_countP]
    exact List.countP_le_length
  case missing_sublist =>
    intro o (ho : o ∈ (Report.draw cs ps "").value.outcomes) o'
      (ho' : o' ∈ (Report.draw cs qs "").value.outcomes) hname hno hno'
    obtain ⟨c, hc, rfl⟩ := Report.mem_outcomes.mp ho
    obtain ⟨c', hc', rfl⟩ := Report.mem_outcomes.mp ho'
    -- both outcomes are of the last company of the name, so of the same one
    rw [← hname] at hc'
    obtain rfl := hc.unique hc'
    exact Company.missingItems_sublist hsub hno hno'

section Same

variable (hsame : ∀ x, x ∈ heldItems (ps.map (·.text)) ↔ x ∈ heldItems (qs.map (·.text)))
include hsame

theorem value_congr (cs : List Company) (timestamp : String) :
    (Report.draw cs qs timestamp).value =
      { (Report.draw cs ps timestamp).value with possessions := Text.sortedOn Word.text qs } := by
  have houtcomes : (Report.draw cs qs timestamp).value.outcomes =
      (Report.draw cs ps timestamp).value.outcomes := by
    rw [Report.outcomes_eq_map, Report.outcomes_eq_map]
    exact List.map_congr_left fun c _ => (Company.outcome_congr hsame c).symm
  rw [Report.value_draw cs qs, houtcomes]
  rfl

theorem verdicts_congr (cs : List Company) :
    Screening.verdicts cs (qs.map (·.text)) = Screening.verdicts cs (ps.map (·.text)) := by
  simp only [Screening.verdicts, Company.canWork_heldItems, Company.canWork_congr hsame]

theorem events_congr (cs : List Company) (timestamp : String) :
    (Report.draw cs qs timestamp).events = (Report.draw cs ps timestamp).events := by
  have hresults : (Report.allOutcomes cs qs).map (·.event) =
      (Report.allOutcomes cs ps).map (·.event) := by
    rw [Report.events_allOutcomes, Report.events_allOutcomes, verdicts_congr hsame]
  rw [Report.events_draw, Report.events_draw, hresults, value_congr hsame]

/-- Only the set of normal forms counts. -/
theorem ofOwner_congr (cs : List Company) : ofOwner cs qs = ofOwner cs ps := by
  have hcanWork := Company.canWork_congr hsame
  have hkept : Screening.eligible cs (qs.map (·.text)) =
      Screening.eligible cs (ps.map (·.text)) := by
    simp only [Screening.eligible_eq, hcanWork]
  have hdropped : Screening.ineligible cs (qs.map (·.text)) =
      Screening.ineligible cs (ps.map (·.text)) := by
    simp only [Screening.ineligible_eq, hcanWork]
  have hflags : Screening.eligibility cs (qs.map (·.text)) =
      Screening.eligibility cs (ps.map (·.text)) := by
    simp only [Screening.eligibility, Company.canWork_heldItems, hcanWork]
  dsimp only [ofOwner]
  rw [hkept, hdropped, hflags, verdicts_congr hsame, events_congr hsame, value_congr hsame]

end Same

end Findings

/-- Of two candidates the one who owns all that the other owns, by normal forms, never fares worse,
and if both own the same by normal forms, all that is told of them is the same but for the
possessions and the time. -/
theorem more_possessions (cs : List Company) {ps qs : List Word}
    (hsub : ∀ x ∈ heldItems (ps.map (·.text)), x ∈ heldItems (qs.map (·.text))) :
    ∃ f g : Findings, f.Of cs ps ∧ g.Of cs qs ∧ f.AtMost g ∧
      ((∀ x ∈ heldItems (qs.map (·.text)), x ∈ heldItems (ps.map (·.text))) → g = f) :=
  ⟨_, _, Findings.of_ofOwner cs ps, Findings.of_ofOwner cs qs, Findings.atMost_ofOwner hsub,
    fun hsup => Findings.ofOwner_congr (fun x => ⟨hsub x, hsup x⟩) cs⟩

/-- A car besides the bike, which may be spelled otherwise. -/
theorem more_possessions_namesakes :
    let ps : List Word := [.plain " Bike "]
    let qs : List Word := [.plain "CAR", .plain "bike", .plain "car"]
    (∀ x ∈ heldItems (ps.map (·.text)), x ∈ heldItems (qs.map (·.text))) ∧
      ∃ f g : Findings, f.Of Screening.namesakes ps ∧ g.Of Screening.namesakes qs ∧ f.AtMost g ∧
        ((∀ x ∈ heldItems (qs.map (·.text)), x ∈ heldItems (ps.map (·.text))) → g = f) := by
  intro ps qs
  have hsub : ∀ x ∈ heldItems (ps.map (·.text)), x ∈ heldItems (qs.map (·.text)) := by
    decide +kernel
  exact ⟨hsub, more_possessions Screening.namesakes hsub⟩

end Session

end Candidacy
