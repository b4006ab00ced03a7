import Candidacy.Proofs.Requirement.Rearrangement
import Candidacy.Proofs.Session.Findings
import Candidacy.Proofs.Session.Requirements

/-!
# Rearranged requirements in sessions

A requirement that is rearranged answers every question as before. So does a company that has it, and
of a list of companies in which it takes the other's place a screening and a report tell the same,
except how the requirement is put.

- `Company.AsksSame`: companies that answer alike and require the same items.
- `Findings.SameButDescriptions`: what is told of such companies.
- `rearranged_told`: what a rearrangement changes, and what not.
-/

namespace Candidacy

/-! ## Companies -/

/-- Two companies of one name that answer alike and require the same items. -/
structure Company.AsksSame (c d : Company) : Prop where
  name_eq : c.name = d.name
  canWork_eq : ∀ ps, c.canWork ps = d.canWork ps
  requiredItems_eq : c.requiredItems = d.requiredItems

theorem Company.AsksSame.refl (c : Company) : c.AsksSame c := ⟨rfl, fun _ => rfl, rfl⟩

theorem Company.asksSame_of_requirement {t u : Requirement} (h : t.AsksSame u) (n : String) :
    (⟨n, some t⟩ : Company).AsksSame ⟨n, some u⟩ :=
  ⟨rfl, fun ps => h.holds_eq (heldItems ps), h.items_eq⟩

/-! ## Tables and positions -/

namespace ByName

variable {α β : Type}

def mapValues (f : α → β) (t : ByName α) : ByName β := t.map fun (n, a) => (n, f a)

theorem names_mapValues (f : α → β) (t : ByName α) : (t.mapValues f).names = t.names := by
  rw [names, mapValues, List.map_map]
  rfl

theorem mapValues_id (t : ByName α) : t.mapValues id = t := List.map_id _

theorem get?_mapValues (f : α → β) (t : ByName α) (n : String) :
    (t.mapValues f).get? n = (t.get? n).map f := by
  induction t with
  | nil => rfl
  | cons e t ih =>
    obtain ⟨m, a⟩ := e
    rw [mapValues, List.map_cons, get?_cons, get?_cons, ← mapValues, ih]
    split <;> rfl

end ByName

theorem Traced.eq_of_parts {α : Type} {a b : Traced α} (hvalue : a.value = b.value)
    (hevents : a.events = b.events) : a = b := by
  obtain ⟨v, es⟩ := a
  obtain ⟨w, fs⟩ := b
  obtain rfl : v = w := hvalue
  obtain rfl : es = fs := hevents
  rfl

namespace Screening

/-- Answers of which the same becomes by `f` and `g` are entered in the same places, with the same
warnings. -/
theorem tally_congr {α β γ : Type} {answer : Company → α} {answer' : Company → β} {f : α → γ}
    {g : β → γ} {cs ds : List Company}
    (h : List.Forall₂ (fun c d => c.name = d.name ∧ f (answer c) = g (answer' d)) cs ds)
    {t : ByName α} {t' : ByName β} (ht : t.mapValues f = t'.mapValues g) :
    (tally answer t cs).value.mapValues f = (tally answer' t' ds).value.mapValues g ∧
      (tally answer t cs).events = (tally answer' t' ds).events := by
  induction h generalizing t t' with
  | nil => exact ⟨ht, rfl⟩
  | @cons c d cs ds hcd _ ih =>
    obtain ⟨hname, hanswer⟩ := hcd
    have hnames : t.names = t'.names := by
      rw [← ByName.names_mapValues f, ht, ByName.names_mapValues]
    have hhas : t.has c.name = t'.has d.name := by
      rw [Bool.eq_iff_iff, ByName.has_eq_true_iff, ByName.has_eq_true_iff, hnames, hname]
    have hput : (t.put c.name (answer c)).mapValues f = (t'.put d.name (answer' d)).mapValues g := by
      unfold ByName.mapValues at ht ⊢
      rw [ByName.map_put, ByName.map_put, ht, hname, hanswer]
    obtain ⟨hvalue, hevents⟩ := ih hput
    refine ⟨hvalue, ?_⟩
    rw [tally_cons_events, tally_cons_events, hhas, hevents, hname]

end Screening

/-! ## Findings -/

def Outcome.undescribed (o : Outcome) : Outcome := { o with description := "" }

def Event.undescribed : Event → Event
  | result company eligible _ => result company eligible ""
  | e => e

namespace Session

namespace Findings

/-- The findings are told alike of companies at the same places, but for descriptions. -/
structure SameButDescriptions (cs ds : List Company) (f g : Findings) : Prop where
  kept : ∃ places : List Nat, places.Sublist (List.range cs.length) ∧
    f.kept.map some = places.map (cs[·]?) ∧ g.kept.map some = places.map (ds[·]?)
  dropped : ∃ places : List Nat, places.Sublist (List.range cs.length) ∧
    f.dropped.map some = places.map (cs[·]?) ∧ g.dropped.map some = places.map (ds[·]?)
  flags : f.flags = g.flags
  details : f.details.value.mapValues (·.eligible) = g.details.value.mapValues (·.eligible)
  details_events : f.details.events = g.details.events
  outcomes : f.outcomes.map (·.undescribed) = g.outcomes.map (·.undescribed)
  eligibleCount : f.eligibleCount = g.eligibleCount
  ineligibleCount : f.ineligibleCount = g.ineligibleCount
  rate : f.rate = g.rate
  companyCount : f.companyCount = g.companyCount
  version : f.version = g.version
  events : f.events.map (·.undescribed) = g.events.map (·.undescribed)

variable {cs ds : List Company}

theorem filter_places {p : Company → Bool} (hp : cs.map p = ds.map p) :
    ∃ places : List Nat, places.Sublist (List.range cs.length) ∧
      (cs.filter p).map some = places.map (cs[·]?) ∧
      (ds.filter p).map some = places.map (ds[·]?) := by
  have hkept (xs : List Company) : (xs.filter p).map some =
      ((Screening.positions xs fun i => p (xs.get i) = true).map Fin.val).map (xs[·]?) := by
    rw [Screening.filter_eq_map_positions, List.map_map, List.map_map]
    exact List.map_congr_left fun i _ => (List.getElem?_eq_getElem i.isLt).symm
  refine ⟨_, ?_, hkept cs, ?_⟩
  · rw [← List.map_coe_finRange_eq_range]
    exact (Screening.positions_sublist _).map Fin.val
  · rw [Screening.positions_vals_congr hp]
    exact hkept ds

theorem counts_congr {os os' : List Outcome}
    (h : os.map (·.undescribed) = os'.map (·.undescribed)) :
    (os.filter (·.eligible)).length = (os'.filter (·.eligible)).length ∧
      os.length = os'.length := by
  have hcount (xs : List Outcome) : (xs.filter (·.eligible)).length =
      ((xs.map (·.undescribed)).filter (·.eligible)).length := by
    rw [List.filter_map, List.length_map]
    rfl
  have hlength := congrArg List.length h
  rw [List.length_map, List.length_map] at hlength
  exact ⟨by rw [hcount os, h, ← hcount os'], hlength⟩

section AskingSame

variable (h : List.Forall₂ Company.AsksSame cs ds)
include h

theorem map_eq_map {α : Type} {f : Company → α}
    (hf : ∀ c d : Company, c.AsksSame d → f c = f d) : cs.map f = ds.map f := by
  rw [← List.forall₂_eq_eq_eq, List.forall₂_map_left_iff, List.forall₂_map_right_iff]
  exact h.imp hf

theorem eligibility_congr (ps : List String) :
    Screening.eligibility cs ps = Screening.eligibility ds ps := by
  have hempty : ByName.mapValues id ([] : ByName Bool) = ByName.mapValues id [] := rfl
  obtain ⟨hvalue, hevents⟩ := Screening.tally_congr
    (h.imp fun c d hcd => ⟨hcd.name_eq, congrArg id (hcd.canWork_eq (heldItems ps))⟩) hempty
  rw [ByName.mapValues_id, ByName.mapValues_id] at hvalue
  exact Traced.eq_of_parts hvalue hevents

theorem answers_congr (ps : List String) :
    (Screening.verdicts cs ps).value.mapValues (·.eligible) =
        (Screening.verdicts ds ps).value.mapValues (·.eligible) ∧
      (Screening.verdicts cs ps).events = (Screening.verdicts ds ps).events := by
  refine Screening.tally_congr (h.imp fun c d hcd => ⟨hcd.name_eq, ?_⟩) rfl
  exact hcd.canWork_eq _

theorem warnings_congr : Screening.warnings cs = Screening.warnings ds := by
  obtain ⟨-, hevents⟩ := answers_congr h []
  simpa only [Screening.verdicts, Screening.tally_nil_events] using hevents

theorem outcomes_congr (ps : List Word) :
    (Report.draw cs ps "").value.outcomes.map (·.undescribed) =
      (Report.draw ds ps "").value.outcomes.map (·.undescribed) := by
  let bare (c : Company) : Outcome := (c.outcome (ps.map (·.text))).undescribed
  have hkey : ∀ c : Company, (bare c).company = c.name := fun _ => rfl
  have hvalues (xs : List Company) : (Report.draw xs ps "").value.outcomes.map (·.undescribed) =
      (ByName.ofList Outcome.company (xs.map bare)).values := by
    rw [Report.outcomes_eq_map, List.map_map, ByName.values_ofList_map hkey]
    rfl
  have hbare : cs.map bare = ds.map bare := by
    refine map_eq_map h fun c d hcd => ?_
    simp only [bare, Outcome.undescribed, Company.outcome, Outcome.ofVerdict, hcd.name_eq,
      hcd.canWork_eq, hcd.requiredItems_eq]
  rw [hvalues, hvalues, hbare]

theorem results_congr (ps : List Word) :
    ((Report.allOutcomes cs ps).map (·.event)).map (·.undescribed) =
      ((Report.allOutcomes ds ps).map (·.event)).map (·.undescribed) := by
  let bare (answers : ByName Bool) (c : Company) : Event :=
    .result c.name ((answers.get? c.name).getD false) ""
  have hresults (xs : List Company) :
      ((Report.allOutcomes xs ps).map (·.event)).map (·.undescribed) =
        xs.map (bare ((Screening.verdicts xs (ps.map (·.text))).value.mapValues (·.eligible))) := by
    rw [Report.events_allOutcomes, List.map_map]
    refine List.map_congr_left fun c _ => ?_
    simp only [bare, ByName.get?_mapValues, Function.comp_apply, Event.undescribed]
    cases (Screening.verdicts xs (ps.map (·.text))).value.get? c.name with
    | none | some v => rfl
  rw [hresults, hresults, (answers_congr h _).1]
  exact map_eq_map h fun c d hcd => by simp only [bare, hcd.name_eq]

theorem summary_congr (ps : List Word) :
    let r := (Report.draw cs ps "").value
    let r' := (Report.draw ds ps "").value
    r.eligibleCount = r'.eligibleCount ∧ r.ineligibleCount = r'.ineligibleCount ∧
      r.rate = r'.rate ∧ r.companyCount = r'.companyCount := by
  obtain ⟨heligible, hlength⟩ := counts_congr (outcomes_congr h ps)
  exact ⟨heligible, congrArg₂ (· - ·) hlength heligible,
    congrArg₂ SuccessRate.ofCounts heligible hlength, hlength⟩

theorem reported_congr (ps : List Word) :
    (Report.draw cs ps "").events.map (·.undescribed) =
      (Report.draw ds ps "").events.map (·.undescribed) := by
  obtain ⟨heligible, hineligible, hrate, -⟩ := summary_congr h ps
  rw [Report.events_draw, Report.events_draw, warnings_congr h, heligible, hineligible, hrate]
  simp only [List.map_append, results_congr h ps]

theorem sameButDescriptions_ofOwner (ps : List Word) :
    (ofOwner cs ps).SameButDescriptions cs ds (ofOwner ds ps) := by
  obtain ⟨hanswers, hevents⟩ := answers_congr h (ps.map (·.text))
  obtain ⟨heligible, hineligible, hrate, hcount⟩ := summary_congr h ps
  constructor
  case kept =>
    show ∃ places, _ ∧ (Screening.eligible cs _).map some = _ ∧
      (Screening.eligible ds _).map some = _
    rw [Screening.eligible_eq, Screening.eligible_eq]
    exact filter_places (map_eq_map h fun c d hcd => hcd.canWork_eq _)
  case dropped =>
    show ∃ places, _ ∧ (Screening.ineligible cs _).map some = _ ∧
      (Screening.ineligible ds _).map some = _
    rw [Screening.ineligible_eq, Screening.ineligible_eq]
    exact filter_places (map_eq_map h fun c d hcd => congrArg (!·) (hcd.canWork_eq _))
  case flags => exact eligibility_congr h _
  case details => exact hanswers
  case details_events => exact hevents
  case outcomes => exact outcomes_congr h ps
  case eligibleCount => exact heligible
  case ineligibleCount => exact hineligible
  case rate => exact hrate
  case companyCount => exact hcount
  case version => rfl
  case events => exact reported_congr h ps

end AskingSame

end Findings

/-- A requirement that is rearranged is well formed, has the same items and answers every question
about possessions as before. In the place of the other it leaves all that questions and reports tell
of a list of companies as it was, except for the descriptions. -/
theorem rearranged_told {t u : Requirement} (h : t.Rearranged u) :
    (t.WellFormed → u.WellFormed) ∧ t.items = u.items ∧
    (∀ possessions, Operation.holds (.requirement t) possessions =
      Operation.holds (.requirement u) possessions) ∧
    ∀ (before after : List Company) (n : String) (ps : List Word), ∃ f g : Findings,
      f.Of (before ++ ⟨n, some t⟩ :: after) ps ∧ g.Of (before ++ ⟨n, some u⟩ :: after) ps ∧
      f.SameButDescriptions (before ++ ⟨n, some t⟩ :: after) (before ++ ⟨n, some u⟩ :: after) g := by
  have hsame := h.asksSame
  refine ⟨hsame.wellFormed, hsame.items_eq, fun possessions =>
    Operation.holds_congr hsame.holds_eq possessions, fun before after n ps => ?_⟩
  have hall : List.Forall₂ Company.AsksSame (before ++ ⟨n, some t⟩ :: after)
      (before ++ ⟨n, some u⟩ :: after) := by
    have hothers (cs : List Company) : List.Forall₂ Company.AsksSame cs cs :=
      List.forall₂_same.mpr fun c _ => .refl c
    exact List.rel_append (hothers before)
      (.cons (Company.asksSame_of_requirement hsame n) (hothers after))
  exact ⟨_, _, Findings.of_ofOwner _ ps, Findings.of_ofOwner _ ps,
    Findings.sameButDescriptions_ofOwner hall ps⟩

/-- The bus comes out of its composite, is asked for once more and first, and the car gets a composite
of its own. -/
theorem rearranged_told_bus :
    let t : Requirement :=
      .composite .all [.item "bike", .composite .all [.item "car", .item "bus"]]
    let u : Requirement :=
      .composite .all [.item "bus", .item "bike", .composite .any [.item "car"], .item "bus"]
    t.Rearranged u ∧ (t.WellFormed → u.WellFormed) ∧ t.items = u.items ∧
    (∀ possessions, Operation.holds (.requirement t) possessions =
      Operation.holds (.requirement u) possessions) ∧
    ∀ (before after : List Company) (n : String) (ps : List Word), ∃ f g : Findings,
      f.Of (before ++ ⟨n, some t⟩ :: after) ps ∧ g.Of (before ++ ⟨n, some u⟩ :: after) ps ∧
      f.SameButDescriptions (before ++ ⟨n, some t⟩ :: after) (before ++ ⟨n, some u⟩ :: after) g := by
  intro t u
  have hspliced : t.Rearranges (.composite .all [.item "bike", .item "car", .item "bus"]) :=
    @Requirement.Rearranges.splice .all [.item "bike"] [.item "car", .item "bus"] []
  have hagain : Requirement.Rearranges (.composite .all [.item "bike", .item "car", .item "bus"])
      (.composite .all [.item "bike", .item "bus", .item "car", .item "bus"]) :=
    @Requirement.Rearranges.again .all [.item "bike"] [.item "car", .item "bus"] (.item "bus")
      (by simp)
  have hreordered : Requirement.Rearranges
      (.composite .all [.item "bike", .item "bus", .item "car", .item "bus"])
      (.composite .all [.item "bus", .item "bike", .item "car", .item "bus"]) :=
    .reorder (.swap ..)
  have hwrapped : Requirement.Rearranges
      (.composite .all [.item "bus", .item "bike", .item "car", .item "bus"]) u :=
    @Requirement.Rearranges.inside .all [.item "bus", .item "bike"] [.item "bus"] (.item "car") _
      (.wrap .any)
  have h : t.Rearranged u :=
    (((Relation.ReflTransGen.single hspliced).tail hagain).tail hreordered).tail hwrapped
  exact ⟨h, rearranged_told h⟩

end Session

end Candidacy
