import Candidacy.Report.Text
import Candidacy.Proofs.Input.Walks
import Candidacy.Proofs.Report.Events
import Candidacy.Proofs.Report.MissingItems
import Candidacy.Proofs.Text.Lines
import Candidacy.Proofs.Text.Padding

/-!
# Reading a report back

Two reports with the same text tell the same. Names and descriptions may contain whatever separates
them, so no separator is looked for: the lines are counted off. The fourth line says how many results
there are. The results give the answers, at the end of each line, and the names, which are trimmed
and so end where the blanks that fill the column begin. The counts of the summary say how many lines
the sections behind it have, and there the names are known: what stands behind a name is the rest of
the line.

- `Drawn`: a report that a run over sound values has drawn up.
- `SingleLined`: a report whose names, items and possessions have no line feeds.
- `Legible`: what the reader of the text of a report relies on.
- `text_read_back`: drawn reports without line feeds that have the same text tell the same.
-/

namespace Candidacy

open Text

namespace Report

/-! ## Lines about companies -/

theorem toList_padded (width : Nat) (s : String) :
    (padded width s).toList = s.toList ++ List.replicate (width - s.length) ' ' := by
  rw [padded, String.toList_append, String.toList_ofList]

theorem toList_companyLine (name text : String) :
    (companyLine name text).toList = (padded 12 name).toList ++ (": ".toList ++ text.toList) := by
  rw [companyLine, String.toList_append, String.toList_append, List.append_assoc]

theorem padded_inj {width : Nat} {a b : String} (ha : Trimmed a.toList) (hb : Trimmed b.toList)
    (h : padded width a = padded width b) : a = b := by
  have htrim {s : String} (hs : Trimmed s.toList) : trimEnd (padded width s).toList = s.toList := by
    have hblank : Blank (List.replicate (width - s.length) ' ') := fun c hc => by
      rw [List.eq_of_mem_replicate hc]
      decide
    rw [toList_padded, trimEnd_append_blank hblank, trimEnd_eq_self hs.2]
  rw [← String.toList_inj, ← htrim ha, h, htrim hb]

theorem padded_eq_of_companyLine_eq {a b text : String}
    (h : companyLine a text = companyLine b text) : padded 12 a = padded 12 b := by
  rw [← String.toList_inj, toList_companyLine, toList_companyLine, List.append_cancel_right_eq] at h
  exact String.toList_inj.mp h

theorem text_eq_of_companyLine_eq {name text text' : String}
    (h : companyLine name text = companyLine name text') : text = text' := by
  rw [← String.toList_inj, toList_companyLine, toList_companyLine, List.append_cancel_left_eq,
    List.append_cancel_left_eq] at h
  exact String.toList_inj.mp h

/-- The last letters tell the two answers apart, whatever stands before them. -/
theorem eligible_eq_of_companyLine_eq {a b : String} {p q : Bool}
    (h : companyLine a (statusText p) = companyLine b (statusText q)) : p = q := by
  have hyes : (statusText true).toList = "\u2713 CA".toList ++ ['N', ' ', 'W', 'O', 'R', 'K'] := by
    decide
  have hno : (statusText false).toList =
      "\u2717 CANNO".toList ++ ['T', ' ', 'W', 'O', 'R', 'K'] := by
    decide
  rw [← String.toList_inj, toList_companyLine, toList_companyLine] at h
  cases p <;> cases q
  any_goals rfl
  all_goals
    rw [hyes, hno] at h
    simp only [← List.append_assoc] at h
    exact absurd (List.append_inj' h rfl).2 (by decide)

def resultLine (o : Outcome) : String := companyLine o.company (statusText o.eligible)

def requirementLine (o : Outcome) : String :=
  companyLine o.company ("Requirements: " ++ o.description)

def missingLine (o : Outcome) : String :=
  companyLine o.company ("Missing items: " ++ commaList o.missingItems)

/-! ## Lists of outcomes -/

section Lists

variable {α β γ : Type} {xs ys : List α}

theorem map_eq_map_of_settled {f : α → β} {g : α → γ}
    (hsettled : ∀ a ∈ xs, ∀ b ∈ ys, f a = f b → g a = g b) (h : xs.map f = ys.map f) :
    xs.map g = ys.map g := by
  induction xs generalizing ys with
  | nil => rw [List.map_eq_nil_iff.mp h.symm]
  | cons a xs ih =>
    cases ys with
    | nil => cases h
    | cons b ys =>
      rw [List.map_cons, List.map_cons, List.cons.injEq] at h
      have hhead := hsettled a List.mem_cons_self b List.mem_cons_self h.1
      have htail := ih (fun a ha b hb =>
        hsettled a (List.mem_cons_of_mem _ ha) b (List.mem_cons_of_mem _ hb)) h.2
      rw [List.map_cons, List.map_cons, hhead, htail]

theorem map_eq_map_of_parts {p : α → Bool} {f : α → β} (hanswers : xs.map p = ys.map p)
    (hyes : (xs.filter p).map f = (ys.filter p).map f)
    (hno : (xs.filter (!p ·)).map f = (ys.filter (!p ·)).map f) : xs.map f = ys.map f := by
  induction xs generalizing ys with
  | nil => rw [List.map_eq_nil_iff.mp hanswers.symm]
  | cons a xs ih =>
    cases ys with
    | nil => cases hanswers
    | cons b ys =>
      rw [List.map_cons, List.map_cons, List.cons.injEq] at hanswers
      obtain ⟨hhead, htail⟩ := hanswers
      cases ha : p a with
      | true =>
        simp only [List.filter_cons, ha, ← hhead, if_true, Bool.not_true, Bool.false_eq_true,
          if_false, List.map_cons, List.cons.injEq] at hyes hno
        rw [List.map_cons, List.map_cons, hyes.1, ih htail hyes.2 hno]
      | false =>
        simp only [List.filter_cons, ha, ← hhead, if_true, Bool.not_false, Bool.false_eq_true,
          if_false, List.map_cons, List.cons.injEq] at hyes hno
        rw [List.map_cons, List.map_cons, hno.1, ih htail hyes hno.2]

theorem map_pair_eq {f : α → β} {g : α → γ} (hf : xs.map f = ys.map f) (hg : xs.map g = ys.map g) :
    xs.map (fun a => (f a, g a)) = ys.map (fun a => (f a, g a)) := by
  rw [← List.zip_map', ← List.zip_map', hf, hg]

end Lists

variable {r r' : Report}

def resultOf (o : Outcome) : String × Bool := (o.company, o.eligible)

/-- Whatever part is taken by the answers, the results settle its names. -/
theorem names_filter_eq (p : Bool → Bool)
    (h : r.outcomes.map resultOf = r'.outcomes.map resultOf) :
    (r.outcomes.filter (p ·.eligible)).map (·.company) =
      (r'.outcomes.filter (p ·.eligible)).map (·.company) := by
  have hnames (r : Report) : (r.outcomes.filter (p ·.eligible)).map (·.company) =
      ((r.outcomes.map resultOf).filter (p ·.2)).map (·.1) := by
    rw [List.filter_map, List.map_map]
    rfl
  rw [hnames, hnames, h]

theorem map_text_eq {os os' : List Outcome} {text : Outcome → String}
    (hnames : os.map (·.company) = os'.map (·.company))
    (h : os.map (fun o => companyLine o.company (text o)) =
      os'.map (fun o => companyLine o.company (text o))) :
    os.map (fun o => (o.company, text o)) = os'.map (fun o => (o.company, text o)) := by
  refine map_eq_map_of_settled (fun o _ o' _ hboth => ?_) (map_pair_eq hnames h)
  obtain ⟨hname, hline⟩ := Prod.mk.inj hboth
  rw [hname] at hline
  rw [hname, text_eq_of_companyLine_eq hline]

/-! ## What the reader relies on -/

/-- What the reader of the text relies on: names are trimmed, nothing runs over the end of a line, and
the counts and the rate are those of the outcomes. -/
structure Legible (r : Report) : Prop where
  trimmed : ∀ o ∈ r.outcomes, Trimmed o.company.toList
  oneLine : ∀ l ∈ r.lines, OneLine l
  eligibleCount_eq : r.eligibleCount = r.eligible.length
  ineligibleCount_eq : r.ineligibleCount = r.ineligible.length
  rate_eq : r.rate = .ofCounts r.eligibleCount r.outcomes.length

structure SameSections (r r' : Report) : Prop where
  results : r.outcomes.map resultLine = r'.outcomes.map resultLine
  eligibleCount : r.eligibleCount = r'.eligibleCount
  ineligibleCount : r.ineligibleCount = r'.ineligibleCount
  eligible : r.eligible.map requirementLine = r'.eligible.map requirementLine
  ineligible : r.ineligible.map requirementLine = r'.ineligible.map requirementLine
  missing : r.ineligible.map missingLine = r'.ineligible.map missingLine

theorem number_eq_of_line_eq {label : String} {m n : Nat}
    (h : label ++ toString m = label ++ toString n) : m = n :=
  toString_injective ((String.append_right_inj label).mp h)

/-- Lines for as many outcomes end at the same place. -/
theorem split_lines {os os' : List Outcome} {line : Outcome → String} {rest rest' : List String}
    (hlength : os.length = os'.length) (h : os.map line ++ rest = os'.map line ++ rest') :
    os.map line = os'.map line ∧ rest = rest' :=
  List.append_inj h (by rw [List.length_map, List.length_map, hlength])

/-- Each section is counted off by a number that stands before it. -/
theorem sameSections_of_lines (h : r.Legible) (h' : r'.Legible) (hlines : r.lines = r'.lines) :
    r.SameSections r' := by
  simp only [lines, List.append_assoc, List.cons_append, List.nil_append, List.cons.injEq,
    true_and] at hlines
  obtain ⟨-, htotal, hlines⟩ := hlines
  obtain ⟨hresults, hlines⟩ := split_lines (number_eq_of_line_eq htotal) hlines
  simp only [List.cons.injEq, true_and] at hlines
  obtain ⟨hyes, hno, -, hlines⟩ := hlines
  have heligibleCount : r.eligibleCount = r'.eligibleCount := number_eq_of_line_eq hyes
  have hineligibleCount : r.ineligibleCount = r'.ineligibleCount := number_eq_of_line_eq hno
  have heligible : r.eligible.length = r'.eligible.length := by
    rw [← h.eligibleCount_eq, ← h'.eligibleCount_eq, heligibleCount]
  have hineligible : r.ineligible.length = r'.ineligible.length := by
    rw [← h.ineligibleCount_eq, ← h'.ineligibleCount_eq, hineligibleCount]
  obtain ⟨haccepted, hlines⟩ := split_lines heligible hlines
  simp only [List.cons.injEq, true_and] at hlines
  obtain ⟨hrefused, hlines⟩ := split_lines hineligible hlines
  simp only [List.cons.injEq, true_and] at hlines
  exact ⟨hresults, heligibleCount, hineligibleCount, haccepted, hrefused, hlines⟩

structure ReadAlike (r r' : Report) : Prop where
  told : r.outcomes.map Outcome.told = r'.outcomes.map Outcome.told
  eligibleCount : r.eligibleCount = r'.eligibleCount
  ineligibleCount : r.ineligibleCount = r'.ineligibleCount
  rate : r.rate = r'.rate
  missing : r.ineligible.map (fun o => (o.company, commaList o.missingItems)) =
    r'.ineligible.map (fun o => (o.company, commaList o.missingItems))

theorem results_eq_of_sections (h : r.Legible) (h' : r'.Legible) (hs : r.SameSections r') :
    r.outcomes.map resultOf = r'.outcomes.map resultOf := by
  refine map_eq_map_of_settled (fun o ho o' ho' hline => ?_) hs.results
  have hanswer : o.eligible = o'.eligible := eligible_eq_of_companyLine_eq hline
  rw [resultLine, resultLine, hanswer] at hline
  have hname : o.company = o'.company :=
    padded_inj (h.trimmed o ho) (h'.trimmed o' ho') (padded_eq_of_companyLine_eq hline)
  rw [resultOf, resultOf, hname, hanswer]

/-- In a section of outcomes with one answer, names and lines settle all that is told. -/
theorem told_eq_of_section {os os' : List Outcome} {b : Bool} (hos : ∀ o ∈ os, o.eligible = b)
    (hos' : ∀ o ∈ os', o.eligible = b) (hnames : os.map (·.company) = os'.map (·.company))
    (h : os.map requirementLine = os'.map requirementLine) :
    os.map Outcome.told = os'.map Outcome.told := by
  refine map_eq_map_of_settled (fun o ho o' ho' hsaid => ?_) (map_text_eq hnames h)
  obtain ⟨hname, htext⟩ := Prod.mk.inj hsaid
  rw [Outcome.told, Outcome.told, hname, hos o ho, hos' o' ho',
    (String.append_right_inj _).mp htext]

theorem readAlike_of_sections (h : r.Legible) (h' : r'.Legible) (hs : r.SameSections r') :
    r.ReadAlike r' := by
  have hresults := results_eq_of_sections h h' hs
  have heligible : r.eligible.map (·.company) = r'.eligible.map (·.company) :=
    names_filter_eq id hresults
  have hineligible : r.ineligible.map (·.company) = r'.ineligible.map (·.company) :=
    names_filter_eq (!·) hresults
  have hanswers : r.outcomes.map (·.eligible) = r'.outcomes.map (·.eligible) :=
    map_eq_map_of_settled (fun o _ o' _ hresult => (Prod.mk.inj hresult).2) hresults
  constructor
  case told =>
    refine map_eq_map_of_parts hanswers ?_ ?_
    · exact told_eq_of_section (fun _ => eligible_true) (fun _ => eligible_true) heligible
        hs.eligible
    · exact told_eq_of_section (fun _ => ineligible_false) (fun _ => ineligible_false) hineligible
        hs.ineligible
  case eligibleCount => exact hs.eligibleCount
  case ineligibleCount => exact hs.ineligibleCount
  case rate =>
    have hlength := congrArg List.length hresults
    rw [List.length_map, List.length_map] at hlength
    rw [h.rate_eq, h'.rate_eq, hs.eligibleCount, hlength]
  case missing =>
    refine map_eq_map_of_settled (fun o _ o' _ hsaid => ?_) (map_text_eq hineligible hs.missing)
    obtain ⟨hname, htext⟩ := Prod.mk.inj hsaid
    rw [hname, (String.append_right_inj _).mp htext]

/-! ## What runs draw up is legible -/

/-- The report was drawn up by a run that was given sound values. -/
def Drawn (r : Report) : Prop :=
  ∃ (s : Store) (companies possessions : Value) (timestamp : String) (t : Traced Report),
    s.Sound ∧ companies.Sound s ∧ (run s companies possessions timestamp).1 = .ok t ∧ t.value = r

/-- No company name, item or possession in the report has a line feed. -/
structure SingleLined (r : Report) : Prop where
  names : ∀ o ∈ r.outcomes, OneLine o.company
  items : ∀ o ∈ r.outcomes, ∀ x ∈ o.requiredItems, OneLine x
  possessions : ∀ w ∈ r.possessions, OneLine w.text

theorem drawn_iff :
    r.Drawn ↔
      ∃ cs words timestamp, (∀ c ∈ cs, c.WellFormed) ∧ r = (draw cs words timestamp).value := by
  constructor
  · rintro ⟨s, companies, possessions, timestamp, t, hs, hsound, hrun, rfl⟩
    obtain ⟨cs, words, hreads, rfl⟩ := run_eq_ok_iff.mp hrun
    refine ⟨cs, words, timestamp, fun c hc => ?_, rfl⟩
    have hwalked := Store.Walked.exhaust s possessions
    have hvalues := sound_of_companiesOf (hwalked.sound hs) (hsound.mono hwalked.keeps.toWithin)
      hreads.listed
    exact (hvalues _ (List.mem_map_of_mem hc)).wellFormed_company
  · rintro ⟨cs, words, timestamp, hwf, rfl⟩
    refine ⟨.empty, .tuple (cs.map .company), .tuple (words.map Word.toValue), timestamp, _,
      Store.sound_empty, .tuple ?_, run_of_reads (reads_tuples .empty cs words) timestamp, rfl⟩
    exact List.forall_mem_map.mpr fun c hc => .company (hwf c hc)

theorem oneLine_companyLine {name text : String} (hname : OneLine name) (htext : OneLine text) :
    OneLine (companyLine name text) := by
  have hblanks : OneLine (String.ofList (List.replicate (12 - name.length) ' ')) := by
    rw [OneLine, String.toList_ofList]
    intro h
    cases List.eq_of_mem_replicate h
  exact ((hname.append hblanks).append (by decide)).append htext

theorem oneLine_statusText (b : Bool) : OneLine (statusText b) := by
  cases b <;> decide

theorem oneLine_commaList {ss : List String} (h : ∀ s ∈ ss, OneLine s) : OneLine (commaList ss) :=
  .intercalate (by decide) h

theorem oneLine_possessionText {r : Report} (h : ∀ w ∈ r.possessions, OneLine w.text) :
    OneLine r.possessionText := by
  unfold possessionText
  dsimp only
  split
  · decide
  · exact oneLine_commaList (List.forall_mem_map.mpr h)

theorem oneLine_rate (rate : SuccessRate) : OneLine rate.text := by
  rw [OneLine, SuccessRate.text, String.toList_ofList]
  exact not_mem_positional rate.decimal

theorem oneLine_lines (hnames : ∀ o ∈ r.outcomes, OneLine o.company)
    (hdescriptions : ∀ o ∈ r.outcomes, OneLine o.description)
    (hmissing : ∀ o ∈ r.outcomes, ∀ x ∈ o.missingItems, OneLine x)
    (hpossessions : ∀ w ∈ r.possessions, OneLine w.text) : ∀ l ∈ r.lines, OneLine l := by
  have hnumber {label : String} (hlabel : OneLine label) (n : Nat) :
      OneLine (label ++ toString n) := hlabel.append (oneLine_toString n)
  have howned : OneLine ("Candidate Possessions: " ++ r.possessionText) :=
    .append (by decide) (oneLine_possessionText hpossessions)
  have hrate : OneLine ("Success Rate: " ++ r.rate.text ++ "%") :=
    .append (.append (by decide) (oneLine_rate r.rate)) (by decide)
  have hresult (o : Outcome) (ho : o ∈ r.outcomes) : OneLine (resultLine o) :=
    oneLine_companyLine (hnames o ho) (oneLine_statusText o.eligible)
  have hasked (o : Outcome) (ho : o ∈ r.outcomes) : OneLine (requirementLine o) :=
    oneLine_companyLine (hnames o ho) (.append (by decide) (hdescriptions o ho))
  have hlacked (o : Outcome) (ho : o ∈ r.outcomes) : OneLine (missingLine o) :=
    oneLine_companyLine (hnames o ho) (.append (by decide) (oneLine_commaList (hmissing o ho)))
  have heligible (o : Outcome) (ho : o ∈ r.eligible) := hasked o (List.mem_of_mem_filter ho)
  have hineligible (o : Outcome) (ho : o ∈ r.ineligible) := hasked o (List.mem_of_mem_filter ho)
  have hmissed (o : Outcome) (ho : o ∈ r.ineligible) := hlacked o (List.mem_of_mem_filter ho)
  simp only [lines, List.forall_mem_append, List.forall_mem_cons, List.forall_mem_map,
    List.not_mem_nil, false_implies, implies_true, and_true, and_assoc]
  exact ⟨by decide, by decide, howned, hnumber (by decide) _, by decide, by decide, hresult,
    by decide, by decide, hnumber (by decide) _, hnumber (by decide) _, hrate, by decide, by decide,
    by decide, by decide, heligible, by decide, by decide, hineligible, by decide, by decide,
    hmissed⟩

theorem oneLine_describe {q : Requirement} (h : ∀ x ∈ q.leaves, OneLine x) :
    OneLine q.describe := by
  induction q using Requirement.induct with
  | item name => exact h name (List.mem_singleton_self name)
  | composite op parts ih =>
    have hparts : ∀ s ∈ parts.map Requirement.describe, OneLine s :=
      List.forall_mem_map.mpr fun p hp => ih p hp fun x hx =>
        h x (Requirement.mem_leaves_composite.mpr ⟨p, hp, hx⟩)
    have hbetween : OneLine (" " ++ op.name ++ " ") := by
      cases op <;> decide
    rw [Requirement.describe_composite]
    exact .append (.append (by decide) (.intercalate hbetween hparts)) (by decide)

theorem oneLine_requirementDescription {c : Company} (h : ∀ x ∈ c.requiredItems, OneLine x) :
    OneLine c.requirementDescription := by
  unfold Company.requirementDescription
  split
  · decide
  · rename_i q hq
    exact oneLine_describe fun x hx => h x (Company.mem_requiredItems.mpr ⟨q, hq, hx⟩)

/-- What is drawn up about well-formed companies is legible, unless there are line feeds. -/
theorem Drawn.legible (h : r.Drawn) (hl : r.SingleLined) : r.Legible := by
  obtain ⟨cs, words, timestamp, hwf, rfl⟩ := drawn_iff.mp h
  constructor
  case trimmed =>
    intro o ho
    obtain ⟨c, hc, rfl⟩ := mem_outcomes.mp ho
    exact trim_eq_self_iff.mp (hwf c hc.mem).trim_name
  case oneLine =>
    refine oneLine_lines hl.names (fun o ho => ?_) (fun o ho x hx => ?_) hl.possessions
    · have hitems := hl.items o ho
      obtain ⟨c, -, rfl⟩ := mem_outcomes.mp ho
      exact oneLine_requirementDescription hitems
    · refine hl.items o ho x ?_
      obtain ⟨c, -, rfl⟩ := mem_outcomes.mp ho
      exact Company.required_of_missing hx
  case eligibleCount_eq => exact eligibleCount_draw cs words timestamp
  case ineligibleCount_eq => exact ineligibleCount_draw cs words timestamp
  case rate_eq => rfl

theorem singleLined_draw {cs : List Company} {words : List Word}
    (hnames : ∀ c ∈ cs, OneLine c.name)
    (hitems : ∀ c ∈ cs, ∀ q ∈ c.requirement, ∀ x ∈ q.leaves, OneLine x)
    (hwords : ∀ w ∈ words, OneLine w.text) (timestamp : String) :
    (draw cs words timestamp).value.SingleLined := by
  constructor
  case names =>
    intro o ho
    obtain ⟨c, hc, rfl⟩ := mem_outcomes.mp ho
    exact hnames c hc.mem
  case items =>
    intro o ho x hx
    obtain ⟨c, hc, rfl⟩ := mem_outcomes.mp ho
    obtain ⟨q, hq, hleaf⟩ := Company.mem_requiredItems.mp hx
    exact hitems c hc.mem q hq x hleaf
  case possessions =>
    exact fun w hw => hwords w ((sortedOn_perm Word.text words).mem_iff.mp hw)

/-- The text tells no more of the possessions than what is listed and what decides. -/
theorem text_draw_congr {cs : List Company} {words words' : List Word}
    (hlisted : commaList ((sortedOn Word.text words).map (·.text)) =
      commaList ((sortedOn Word.text words').map (·.text)))
    (hheld : ∀ c ∈ cs, ∀ q ∈ c.requirement, ∀ x ∈ q.leaves,
      x ∈ heldItems (words.map (·.text)) ↔ x ∈ heldItems (words'.map (·.text)))
    (timestamp timestamp' : String) :
    (draw cs words timestamp).value.text = (draw cs words' timestamp').value.text := by
  have hpossessions : (draw cs words timestamp).value.possessionText =
      (draw cs words' timestamp').value.possessionText :=
    congrArg (fun listed => if listed = "" then "(none)" else listed) hlisted
  have houtcomes : (draw cs words timestamp).value.outcomes =
      (draw cs words' timestamp').value.outcomes := by
    rw [outcomes_eq_map, outcomes_eq_map]
    refine List.map_congr_left fun c hc => Company.outcome_eq_of_required fun x hx => ?_
    obtain ⟨q, hq, hleaf⟩ := Company.mem_requiredItems.mp hx
    exact hheld c (ByName.mem_values_ofList.mp hc).mem q hq x hleaf
  have hyes : (draw cs words timestamp).value.eligibleCount =
      (draw cs words' timestamp').value.eligibleCount :=
    congrArg (fun os => (os.filter (·.eligible)).length) houtcomes
  have hno : (draw cs words timestamp).value.ineligibleCount =
      (draw cs words' timestamp').value.ineligibleCount :=
    congrArg (fun os => os.length - (os.filter (·.eligible)).length) houtcomes
  have hrate : (draw cs words timestamp).value.rate = (draw cs words' timestamp').value.rate := by
    rw [rate_draw, rate_draw, hyes]
  simp only [text, lines, eligible, ineligible, hpossessions, houtcomes, hyes, hno, hrate]

/-- Companies with names and items that look like lines of a report. -/
def decoys : List Company :=
  [⟨"Ltd: \u2717 CANNOT WORK", some (.item "bike")⟩,
    ⟨"=== SUMMARY ===", none⟩,
    ⟨"Inc", some (.composite .any [.item "boat: missing items: bike", .item "bike"])⟩]

/-- Of two reports with the same text, both drawn up without line feeds in names, items and
possessions, the same is told: the same outcomes, counts and rate, and the same missing items of each
company that the candidate may not work for. -/
theorem text_read_back (h : r.Drawn) (h' : r'.Drawn) (hl : r.SingleLined) (hl' : r'.SingleLined)
    (htext : r.text = r'.text) : r.ReadAlike r' := by
  have hlegible := h.legible hl
  have hlegible' := h'.legible hl'
  have hlines : r.lines = r'.lines :=
    eq_of_intercalate_eq hlegible.oneLine hlegible'.oneLine (List.cons_ne_nil _ _)
      (List.cons_ne_nil _ _) htext
  exact readAlike_of_sections hlegible hlegible' (sameSections_of_lines hlegible hlegible' hlines)

/-- One possession with a comma in it reads like two, and tells of the decoys what the two tell. -/
theorem text_read_back_decoys :
    let r := (draw decoys [.plain "bus", .plain "car"] "2024-02-29T00:00:00+00:00").value
    let r' := (draw decoys [.plain "bus, car"] "2024-03-01T00:00:00+00:00").value
    r.Drawn ∧ r'.Drawn ∧ r.SingleLined ∧ r'.SingleLined ∧ r.text = r'.text ∧ r.ReadAlike r' := by
  intro r r'
  have hwf : ∀ c ∈ decoys, c.WellFormed := by decide +kernel
  have h : r.Drawn := drawn_iff.mpr ⟨_, _, _, hwf, rfl⟩
  have h' : r'.Drawn := drawn_iff.mpr ⟨_, _, _, hwf, rfl⟩
  have hnames : ∀ c ∈ decoys, OneLine c.name := by decide
  have hitems : ∀ c ∈ decoys, ∀ q ∈ c.requirement, ∀ x ∈ q.leaves, OneLine x := by decide
  have hl : r.SingleLined := singleLined_draw hnames hitems (by decide) _
  have hl' : r'.SingleLined := singleLined_draw hnames hitems (by decide) _
  have htext : r.text = r'.text := by
    refine text_draw_congr ?_ (by decide +kernel) _ _
    have htwo : sortedOn Word.text [.plain "bus", .plain "car"] = [.plain "bus", .plain "car"] :=
      List.mergeSort_of_pairwise (by decide)
    have hone : sortedOn Word.text [.plain "bus, car"] = [.plain "bus, car"] :=
      List.mergeSort_singleton _
    rw [htwo, hone]
    rfl
  exact ⟨h, h', hl, hl', htext, text_read_back h h' hl hl' htext⟩

end Report

end Candidacy
