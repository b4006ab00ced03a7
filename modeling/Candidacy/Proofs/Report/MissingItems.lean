import Candidacy.Proofs.Report.Outcomes

/-!
# Missing items

What a report names as missing is exactly what decides: whoever gets all of it is eligible, and
whoever gets none of it stays ineligible, whatever else they get. For a single company this is
`canWork_of_missing` and `not_canWork_without_missing`; a report speaks for the last company of each
name.
-/

namespace Candidacy

namespace Company

variable {c : Company} {ps qs : List String}

/-- Whoever owns what another owns and all required items that the other lacks is accepted. -/
theorem WellFormed.canWork_of_missing (h : c.WellFormed) (howned : ∀ p ∈ ps, p ∈ qs)
    (hmissing : ∀ x ∈ c.requiredItems, x ∉ heldItems ps → x ∈ qs) : c.canWork qs = true := by
  refine h.canWork_of_required fun x hx => ?_
  rw [mem_heldItems]
  by_cases hheld : x ∈ heldItems ps
  · obtain ⟨p, hp, hpx⟩ := mem_heldItems.mp hheld
    exact ⟨p, howned p hp, hpx⟩
  · exact ⟨x, hmissing x hx hheld, h.normalizeItem_required hx⟩

/-- Whoever owns, besides what another owns, no required item that the other lacks is refused like
the other. -/
theorem not_canWork_without_missing (h : c.canWork ps = false)
    (hnone : ∀ q ∈ qs, q ∈ ps ∨
      (normalizeItem q ∈ c.requiredItems → normalizeItem q ∈ heldItems ps)) :
    c.canWork qs = false := by
  rw [Bool.eq_false_iff] at h ⊢
  refine mt (canWork_mono fun x hx hheld => ?_) h
  obtain ⟨q, hq, rfl⟩ := mem_heldItems.mp hheld
  rcases hnone q hq with hown | hlack
  · exact mem_heldItems.mpr ⟨q, hown, rfl⟩
  · exact hlack hx

theorem missingItems_outcome_of_canWork (h : c.canWork ps = true) :
    (c.outcome ps).missingItems = [] := by
  simp [outcome, Outcome.ofVerdict, h]

theorem missingItems_outcome (h : c.canWork ps = false) :
    (c.outcome ps).missingItems = c.requiredItems.filter (!(heldItems ps).contains ·) := by
  simp [outcome, Outcome.ofVerdict, h]

theorem mem_missingItems_outcome {x : String} (h : c.canWork ps = false) :
    x ∈ (c.outcome ps).missingItems ↔ x ∈ c.requiredItems ∧ x ∉ heldItems ps := by
  simp [missingItems_outcome h]

theorem required_of_missing {x : String} (h : x ∈ (c.outcome ps).missingItems) :
    x ∈ c.requiredItems := by
  cases hcan : c.canWork ps with
  | true =>
    rw [missingItems_outcome_of_canWork hcan] at h
    cases h
  | false => exact ((mem_missingItems_outcome hcan).mp h).1

/-- Of whoever holds the same of what is required the same is said. -/
theorem outcome_eq_of_required
    (h : ∀ x ∈ c.requiredItems, x ∈ heldItems ps ↔ x ∈ heldItems qs) :
    c.outcome ps = c.outcome qs := by
  have hcan : c.canWork ps = c.canWork qs := by
    rw [Bool.eq_iff_iff]
    exact ⟨canWork_mono fun x hx => (h x hx).mp, canWork_mono fun x hx => (h x hx).mpr⟩
  have hmissing : c.requiredItems.filter (!(heldItems ps).contains ·) =
      c.requiredItems.filter (!(heldItems qs).contains ·) := by
    refine List.filter_congr fun x hx => ?_
    simp only [List.contains_eq_mem, h x hx]
  unfold outcome Outcome.ofVerdict
  rw [hcan, hmissing]

theorem WellFormed.missingItems_ne_nil (hc : c.WellFormed) (h : c.canWork ps = false) :
    (c.outcome ps).missingItems ≠ [] := by
  intro hnil
  have hyes : c.canWork ps = true := by
    refine hc.canWork_of_required fun x hx => ?_
    by_contra hheld
    have hmem := (mem_missingItems_outcome h).mpr ⟨hx, hheld⟩
    rw [hnil] at hmem
    cases hmem
  rw [hyes] at h
  cases h

end Company

namespace Report

variable {cs : List Company} {words : List Word}

def Says (r : Report) (name : String) (eligible : Bool) : Prop :=
  (∃ o ∈ r.outcomes, o.company = name) ∧ ∀ o ∈ r.outcomes, o.company = name → o.eligible = eligible

/-- Every run over these companies for the owner of these strings says so of the name. -/
def RunsSay (cs : List Company) (words : List Word) (name : String) (eligible : Bool) : Prop :=
  ∀ (s : Store) (companies possessions : Value) (timestamp : String),
    Reads s companies possessions cs words →
      ∃ t, (run s companies possessions timestamp).1 = .ok t ∧ t.value.Says name eligible

/-- The strings are those of `words` and the texts of `more`, in any order and number. -/
def Joins (words : List Word) (more : List String) (all : List Word) : Prop :=
  ∀ x, x ∈ all.map (·.text) ↔ x ∈ words.map (·.text) ∨ x ∈ more

theorem runsSay_of_last {name : String} {c : Company} (hc : ByName.Last Company.name name cs c) :
    RunsSay cs words name (c.canWork (words.map (·.text))) := by
  intro s companies possessions timestamp h
  refine ⟨_, run_of_reads h timestamp, ?_, fun o ho hname => ?_⟩
  · have hname : (c.outcome (words.map (·.text))).company = name := hc.key_eq
    exact ⟨_, mem_outcomes.mpr ⟨c, hname.symm ▸ hc, rfl⟩, hname⟩
  · obtain ⟨c', hc', rfl⟩ := mem_outcomes.mp ho
    rw [hname] at hc'
    rw [hc.unique hc']
    rfl

/-- The missing items of an outcome decide: there are some just where the outcome is ineligible,
they are required and not held, with all of them the name is eligible, and with whatever has none of
them among its normal forms still ineligible. -/
structure Decisive (cs : List Company) (words : List Word) (o : Outcome) : Prop where
  missing_nil : o.eligible = true → o.missingItems = []
  missing_ne_nil : o.eligible = false → o.missingItems ≠ []
  missing_strict : o.missingItems.Pairwise (· < ·)
  missing_required : ∀ x ∈ o.missingItems, x ∈ o.requiredItems
  missing_not_held : ∀ w ∈ words, normalizeItem w.text ∉ o.missingItems
  enough : o.eligible = false →
    ∀ all, Joins words o.missingItems all → RunsSay cs all o.company true
  needed : o.eligible = false → ∀ more, (∀ q ∈ more, normalizeItem q ∉ o.missingItems) →
    ∀ all, Joins words more all → RunsSay cs all o.company false

theorem canWork_of_joins_missing {c : Company} {all : List Word} (hwf : c.WellFormed)
    (hno : c.canWork (words.map (·.text)) = false)
    (hall : Joins words (c.outcome (words.map (·.text))).missingItems all) :
    c.canWork (all.map (·.text)) = true := by
  refine hwf.canWork_of_missing (fun p hp => (hall p).mpr (.inl hp)) fun x hx hheld => ?_
  exact (hall x).mpr (.inr ((Company.mem_missingItems_outcome hno).mpr ⟨hx, hheld⟩))

theorem not_canWork_of_joins {c : Company} {more : List String} {all : List Word}
    (hno : c.canWork (words.map (·.text)) = false)
    (hmore : ∀ q ∈ more, normalizeItem q ∉ (c.outcome (words.map (·.text))).missingItems)
    (hall : Joins words more all) : c.canWork (all.map (·.text)) = false := by
  refine Company.not_canWork_without_missing hno fun q hq => ?_
  rcases (hall q).mp hq with hown | hq
  · exact .inl hown
  · refine .inr fun hreq => ?_
    by_contra hheld
    exact hmore q hq ((Company.mem_missingItems_outcome hno).mpr ⟨hreq, hheld⟩)

theorem decisive_of_canWork {c : Company} (hyes : c.canWork (words.map (·.text)) = true) :
    Decisive cs words (c.outcome (words.map (·.text))) := by
  have hnil := Company.missingItems_outcome_of_canWork hyes
  constructor
  case missing_nil => exact fun _ => hnil
  case missing_strict => rw [hnil]; exact List.Pairwise.nil
  case missing_required => rw [hnil]; exact fun x hx => by cases hx
  case missing_not_held => rw [hnil]; exact fun w _ hx => by cases hx
  all_goals
    intro hno
    cases hyes.symm.trans hno

theorem decisive_of_not_canWork {c : Company} (hwf : c.WellFormed)
    (hc : ByName.Last Company.name c.name cs c) (hno : c.canWork (words.map (·.text)) = false) :
    Decisive cs words (c.outcome (words.map (·.text))) := by
  have hmem (x : String) : x ∈ (c.outcome (words.map (·.text))).missingItems ↔
      x ∈ c.requiredItems ∧ x ∉ heldItems (words.map (·.text)) :=
    Company.mem_missingItems_outcome hno
  constructor
  case missing_nil =>
    intro hyes
    cases hno.symm.trans hyes
  case missing_ne_nil => exact fun _ => hwf.missingItems_ne_nil hno
  case missing_strict =>
    rw [Company.missingItems_outcome hno]
    exact c.requiredItems_strict.filter _
  case missing_required => exact fun x hx => ((hmem x).mp hx).1
  case missing_not_held =>
    intro w hw hx
    exact ((hmem _).mp hx).2 (mem_heldItems.mpr ⟨w.text, List.mem_map_of_mem hw, rfl⟩)
  case enough =>
    intro _ all hall
    rw [← canWork_of_joins_missing hwf hno hall]
    exact runsSay_of_last hc
  case needed =>
    intro _ more hmore all hall
    rw [← not_canWork_of_joins hno hmore hall]
    exact runsSay_of_last hc

/-- Every run that is given companies and possessions to read succeeds, and in each outcome of its
report the missing items decide. -/
theorem missingItems_decide {s : Store} {companies possessions : Value}
    (hwf : ∀ c ∈ cs, c.WellFormed) (h : Reads s companies possessions cs words)
    (timestamp : String) :
    ∃ t, (run s companies possessions timestamp).1 = .ok t ∧
      ∀ o ∈ t.value.outcomes, Decisive cs words o := by
  refine ⟨_, run_of_reads h timestamp, fun o ho => ?_⟩
  obtain ⟨c, hc, rfl⟩ := mem_outcomes.mp ho
  cases hcan : c.canWork (words.map (·.text)) with
  | true => exact decisive_of_canWork hcan
  | false => exact decisive_of_not_canWork (hwf c hc.mem) hc hcan

/-- A candidate with a bike, in any spelling, against companies two of which share a name. -/
theorem missingItems_decide_namesakes :
    (∀ c ∈ Screening.namesakes, c.WellFormed) ∧
      Reads .empty (.tuple (Screening.namesakes.map .company)) (.tuple [.text " Bike "])
        Screening.namesakes [.plain " Bike "] ∧
      ∃ t, (run .empty (.tuple (Screening.namesakes.map .company)) (.tuple [.text " Bike "]) "").1 =
          .ok t ∧
        ∀ o ∈ t.value.outcomes, Decisive Screening.namesakes [.plain " Bike "] o :=
  have hwf := Screening.namesakes_wellFormed
  have hreads := reads_tuples .empty Screening.namesakes [.plain " Bike "]
  ⟨hwf, hreads, missingItems_decide hwf hreads ""⟩

end Report

end Candidacy
