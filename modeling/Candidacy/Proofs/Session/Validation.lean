import Candidacy.Proofs.Session.Journal
import Candidacy.Proofs.Session.Requirements

/-!
# Refusals before anything else

All questions about companies refuse the same input with the same fault, the companies' before the
possessions', and nothing that comes after this check fails. A run makes the same checks once it has
walked through the possessions and then the companies. This other order shows if both are one and
the same iterator, which the first walk leaves empty: a run then finds no companies, a question no
possessions.

- `Work.fault`: what a computation is refused with.
- `Validated`: the refusals of everything that takes possessions, at once.
- `input_validated`: they are so for all values whatever.
- `report_of_shared_iterator`: a run that is not refused although the question is.
-/

namespace Candidacy.Session

def Work.fault {α : Type} (w : Work α) (s : Store) : Option Fault := faultOf (w.run.run s).1

theorem Work.fault_ofInput {α : Type} (g : Store → Except InputFault α × Store) (s : Store) :
    (Work.ofInput g).fault s = (faultOf (g s).1).map .input := by
  rw [fault, run_ofInput, faultOf_mapError]

theorem Records.of_fault {α : Type} {x : Journal α} {w : Work (Traced α)} (h : Records x w)
    {s : Store} {why : Fault} (hf : w.fault s = some why) (es : List Event) :
    x.run.run (s, es) = (.error why, ((w.run.run s).2, es)) := by
  have hx := h s es
  unfold Work.fault at hf
  cases hw : w.run.run s with
  | mk r s' =>
    rw [hw] at hx hf
    cases r with
    | ok t => cases hf
    | error e =>
      cases hf
      exact hx

section Refusals

variable {s : Store} {companies possessions : Value}

theorem fault_screen (query : Query) :
    (Operation.screen query companies possessions).fault s =
      (faultOf (Screening.Input.ofValues s companies possessions).1).map .input := by
  cases hin : Screening.Input.ofValues s companies possessions with
  | mk r s₁ =>
    cases r with
    | error why =>
      rw [Work.fault, run_screen_error hin]
      rfl
    | ok input =>
      rw [Work.fault, run_screen hin]
      cases query with
      | eligibility | verdicts | eligible | ineligible => rfl

theorem fault_report_eq_none_iff {timestamp : String} :
    (Operation.report timestamp companies possessions).fault s = none ↔
      ∃ cs words, Report.Reads s companies possessions cs words := by
  rw [Operation.report, Work.fault_ofInput, Option.map_eq_none_iff, faultOf_eq_none_iff]
  constructor
  · rintro ⟨t, ht⟩
    obtain ⟨cs, words, hreads, -⟩ := Report.run_eq_ok_iff.mp ht
    exact ⟨cs, words, hreads⟩
  · rintro ⟨cs, words, hreads⟩
    exact ⟨_, Report.run_of_reads hreads timestamp⟩

/-- Of values that are not one and the same iterator a run accepts what a question accepts. -/
theorem fault_report_iff_fault_screen (hnone : companies ≠ .none)
    (hsep : Separate companies possessions) (timestamp : String) (query : Query) :
    (Operation.report timestamp companies possessions).fault s = none ↔
      (Operation.screen query companies possessions).fault s = none := by
  rw [fault_report_eq_none_iff, fault_screen, Option.map_eq_none_iff,
    Screening.Input.faultOf_ofValues_eq_none_iff]
  simp only [Report.reads_iff hnone hsep, Possessions.Listed, hsep.elements?_exhaust]

theorem elements?_exhaust_iterator (s : Store) (ref : Nat) :
    (s.exhaust (.iterator ref)).elements? (.iterator ref) = some [] := by
  have hall : (s.remaining ref).drop (s.remaining ref).length = [] := List.drop_length
  have hleft : (s.exhaust (.iterator ref)).elements? (.iterator ref) =
      some ((s.iterators.setIfInBounds ref
        ((s.remaining ref).drop (s.remaining ref).length))[ref]?.getD []) := rfl
  rw [hleft, hall]
  -- a reference to nothing stands for an iterator with nothing to give
  by_cases h : ref < s.iterators.size
  · rw [Array.getElem?_setIfInBounds_self_of_lt h, Option.getD_some]
  · rw [Array.getElem?_eq_none (by simpa using h), Option.getD_none]

/-- A run over the very iterator that it takes the possessions from finds no company. -/
theorem fault_report_iterator_iff {ref : Nat} {timestamp : String} :
    (Operation.report timestamp (.iterator ref) (.iterator ref)).fault s = none ↔
      ∃ words, Possessions.Listed s (.iterator ref) words := by
  rw [fault_report_eq_none_iff]
  constructor
  · rintro ⟨cs, words, hreads⟩
    exact ⟨words, Report.possessionsOf_eq_ok_iff.mp hreads.given⟩
  · rintro ⟨words, hwords⟩
    refine ⟨[], words, Report.possessionsOf_eq_ok_iff.mpr hwords, ?_⟩
    have hnone : Value.iterator ref ≠ .none := by intro h; cases h
    rw [Report.fst_companiesOf_eq_ok_iff hnone]
    exact elements?_exhaust_iterator s ref

/-- A question about the very iterator that it takes the possessions from finds no possession. -/
theorem fault_screen_iterator_iff {ref : Nat} {query : Query} :
    (Operation.screen query (.iterator ref) (.iterator ref)).fault s = none ↔
      ∃ cs, Companies.Listed s (.iterator ref) cs := by
  rw [fault_screen, Option.map_eq_none_iff, Screening.Input.faultOf_ofValues_eq_none_iff]
  constructor
  · rintro ⟨cs, _, hcs, -⟩
    exact ⟨cs, hcs⟩
  · rintro ⟨cs, hcs⟩
    exact ⟨cs, [], hcs, rfl, elements?_exhaust_iterator s ref⟩

/-! ## All at once -/

/-- What companies and possessions are refused for wherever they are taken, and what has been
written by then. Possessions count for a question as they are once companies have been walked
through. -/
structure Validated (s : Store) (companies possessions : Value) : Prop where
  question_alike : ∀ q q', (Operation.screen q companies possessions).fault s =
    (Operation.screen q' companies possessions).fault s
  question_accepted : ∀ q, (Operation.screen q companies possessions).fault s = none ↔
    ∃ cs words, Companies.Listed s companies cs ∧
      Possessions.Listed (s.exhaust companies) possessions words
  question_refused : ∀ q why, (Operation.screen q companies possessions).fault s = some why ↔
    ∃ e, why = .input e ∧ (Companies.Refused s companies e ∨
      (∃ cs, Companies.Listed s companies cs) ∧
        Possessions.Refused (s.exhaust companies) possessions e)
  question_recorded : ∀ q, Records (Journal.ask q companies possessions)
    (Operation.screen q companies possessions)
  question_silent : ∀ q why, (Operation.screen q companies possessions).fault s = some why →
    ∀ es, ∃ s', (Journal.ask q companies possessions).run.run (s, es) = (.error why, (s', es))
  walks_apart : Separate companies possessions →
    (s.exhaust companies).elements? possessions = s.elements? possessions
  run_accepted : companies ≠ .none → Separate companies possessions → ∀ timestamp q,
    (Operation.report timestamp companies possessions).fault s = none ↔
      (Operation.screen q companies possessions).fault s = none
  question_shared : ∀ ref, companies = .iterator ref → possessions = .iterator ref →
    ∀ q, (Operation.screen q companies possessions).fault s = none ↔
      ∃ cs, Companies.Listed s companies cs
  run_shared : ∀ ref, companies = .iterator ref → possessions = .iterator ref → ∀ timestamp,
    (Operation.report timestamp companies possessions).fault s = none ↔
      ∃ words, Possessions.Listed s possessions words
  run_recorded : ∀ timestamp, Records (Journal.report timestamp companies possessions)
    (Operation.report timestamp companies possessions)
  run_silent : ∀ timestamp why,
    (Operation.report timestamp companies possessions).fault s = some why →
      ∀ es, ∃ s', (Journal.report timestamp companies possessions).run.run (s, es) =
        (.error why, (s', es))
  requirement_alike : ∀ r, (Operation.holds (.requirement r) possessions).fault s =
    (Work.ofInput (Possessions.normalForms · possessions)).fault s
  company_alike : ∀ c, (Operation.canWork (.company c) possessions).fault s =
    (Work.ofInput (Possessions.normalForms · possessions)).fault s

/-- Whatever values are handed over, all questions accept and refuse the same, before they write
anything, and so does a run over companies that are not the iterator of the possessions itself. A
requirement and a company refuse just the possessions that have no normal forms. -/
theorem input_validated (s : Store) (companies possessions : Value) :
    Validated s companies possessions := by
  constructor
  case question_alike =>
    intro q q'
    rw [fault_screen, fault_screen]
  case question_accepted =>
    intro q
    rw [fault_screen, Option.map_eq_none_iff, Screening.Input.faultOf_ofValues_eq_none_iff]
  case question_refused =>
    intro q why
    rw [fault_screen, Option.map_eq_some_iff]
    refine exists_congr fun e => ?_
    rw [Screening.Input.faultOf_ofValues_eq_some_iff, and_comm, eq_comm]
  case question_recorded => exact fun q => records_ask q companies possessions
  case question_silent => exact fun q why h es => ⟨_, (records_ask q _ _).of_fault h es⟩
  case walks_apart => exact fun hsep => hsep.elements?_exhaust s
  case run_accepted => exact fault_report_iff_fault_screen
  case question_shared =>
    rintro ref rfl rfl q
    exact fault_screen_iterator_iff
  case run_shared =>
    rintro ref rfl rfl timestamp
    exact fault_report_iterator_iff
  case run_recorded => exact fun timestamp => records_report timestamp companies possessions
  case run_silent =>
    exact fun timestamp why h es => ⟨_, (records_report timestamp _ _).of_fault h es⟩
  case requirement_alike =>
    intro r
    rw [Work.fault_ofInput, Work.fault, Operation.run_holds, faultOf_mapError, faultOf_map]
  case company_alike =>
    intro c
    rw [Work.fault_ofInput, Work.fault, Operation.run_canWork, faultOf_mapError, faultOf_map,
      Possessions.normalForms, faultOf_map]

/-- Of an iterator over a string, given as companies and as possessions, a run reports no company
at all, where the question for the verdicts is refused. -/
theorem report_of_shared_iterator :
    let made := Store.empty.newIterator [.text "bike"]
    made.1 ≠ .none ∧
      (Operation.report "" made.1 made.1).fault made.2 = none ∧
      (Operation.screen .verdicts made.1 made.1).fault made.2 =
        some (.input (.invalid (.companyKind .text))) := by
  intro made
  have hnone : made.1 ≠ .none := by intro h; cases h
  have hwords : Possessions.Listed made.2 made.1 [.plain "bike"] := ⟨rfl, rfl⟩
  have hgiven : made.2.elements? made.1 =
      some (([] : List Company).map .company ++ .text "bike" :: []) := rfl
  have hrefused : Companies.Refused made.2 made.1 (.invalid (.companyKind .text)) :=
    .element hgiven rfl
  refine ⟨hnone, fault_report_iterator_iff.mpr ⟨_, hwords⟩, ?_⟩
  rw [fault_screen, Screening.Input.faultOf_ofValues_eq_some_iff.mpr (.inl hrefused)]
  rfl

end Refusals

end Candidacy.Session
