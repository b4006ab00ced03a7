import Candidacy.Session.Operation
import Candidacy.Proofs.Screening
import Candidacy.Proofs.Session.Work

/-!
# Four questions, one answer

The four questions of a screening agree with each other and with every single company on whatever
companies and possessions are accepted, however often names are repeated.

- `Answers`: answers to all four questions that agree.
- `questions_agree`: what the questions answer are such answers.
-/

namespace Candidacy.Session

def told (made : Value × Store) (events : List Event) : Except Fault (Traced Value) × Store :=
  (.ok ⟨made.1, events⟩, made.2)

/-- Answers to the four questions about companies for the owner of `ps`, in agreement: the positions
of the companies kept and dropped, and tables of flags and details in which the last company of each
name decides. -/
structure Answers (cs : List Company) (ps : List String) where
  kept : List (Fin cs.length)
  dropped : List (Fin cs.length)
  flags : ByName Bool
  details : ByName Verdict
  kept_sublist : kept.Sublist (List.finRange cs.length)
  dropped_sublist : dropped.Sublist (List.finRange cs.length)
  parts_perm : (kept ++ dropped).Perm (List.finRange cs.length)
  mem_kept : ∀ i, i ∈ kept ↔ (cs.get i).canWork ps = true
  names_flags : flags.names = (cs.map (·.name)).eraseDups
  names_details : details.names = flags.names
  last_decides : ∀ n ∈ flags.names, ∃ c, ByName.Last Company.name n cs c ∧
    flags.get? n = some (c.canWork ps) ∧
    details.get? n = some ⟨c.canWork ps, c.requirementDescription⟩

namespace Answers

open Screening

theorem positions_perm {cs : List Company} (p : Company → Bool) :
    ((positions cs fun i => p (cs.get i) = true) ++
      positions cs fun i => (!p (cs.get i)) = true).Perm (List.finRange cs.length) := by
  unfold positions
  have hnot (i : Fin cs.length) :
      decide ((!p (cs.get i)) = true) = !decide (p (cs.get i) = true) := by
    cases p (cs.get i) <;> rfl
  simp only [hnot]
  exact List.filter_append_perm _ _

def ofScreening (cs : List Company) (ps : List String) : Answers cs ps where
  kept := positions cs fun i => (cs.get i).canWork ps = true
  dropped := positions cs fun i => (!(cs.get i).canWork ps) = true
  flags := (eligibility cs ps).value
  details := (verdicts cs ps).value
  kept_sublist := positions_sublist _
  dropped_sublist := positions_sublist _
  parts_perm := positions_perm (·.canWork ps)
  mem_kept _ := mem_positions
  names_flags := by rw [eligibility_value, ByName.names_enterAll]
  names_details := by
    rw [eligibility_value, verdicts_value, ByName.names_enterAll, ByName.names_enterAll]
  last_decides n hn := by
    rw [eligibility_value, ByName.names_enterAll, List.mem_eraseDups] at hn
    obtain ⟨c, hc⟩ := ByName.Last.exists_of_mem hn
    refine ⟨c, hc, ?_, ?_⟩
    · rw [eligibility_value]
      exact ByName.get?_enterAll.mpr ⟨c, hc, rfl⟩
    · rw [verdicts_value]
      exact ByName.get?_enterAll.mpr ⟨c, hc, rfl⟩

end Answers

section Asked

variable {s s₁ : Store} {companies possessions : Value} {input : Screening.Input}

theorem Operation.run_canWork (c : Company) (possessions : Value) (s : Store) :
    (Operation.canWork (.company c) possessions).run.run s =
      (((Possessions.ofValue s possessions).1.map fun words =>
          c.canWork (words.map (·.text))).mapError .input,
        (Possessions.ofValue s possessions).2) :=
  Work.run_ofInput_map (Possessions.ofValue · possessions)
    (fun words => c.canWork (words.map Word.text)) s

theorem run_screen (h : Screening.Input.ofValues s companies possessions = (.ok input, s₁))
    (query : Query) :
    (Operation.screen query companies possessions).run.run s =
      match query with
      | .eligible =>
        told (s₁.newList ((Screening.eligible input.companies input.possessions).map .company)) []
      | .ineligible =>
        told (s₁.newList ((Screening.ineligible input.companies input.possessions).map .company)) []
      | .eligibility =>
        let answer := Screening.eligibility input.companies input.possessions
        told (s₁.newTable (answer.value.map fun (n, b) => (.text n, .bool b))) answer.events
      | .verdicts =>
        let answer := Screening.verdicts input.companies input.possessions
        told (s₁.newTable (answer.value.map fun (n, v) => (.text n, .verdict v)))
          answer.events := by
  have hin : (Work.ofInput (Screening.Input.ofValues · companies possessions)).run.run s =
      (.ok input, s₁) := Work.run_ofInput_ok h
  cases query with
  | eligible | ineligible | eligibility | verdicts => exact Work.run_bind_ok hin

theorem run_screen_error {why : InputFault}
    (h : Screening.Input.ofValues s companies possessions = (.error why, s₁)) (query : Query) :
    (Operation.screen query companies possessions).run.run s = (.error (.input why), s₁) :=
  Work.run_bind_error (Work.run_ofInput_error h)

/-- On all accepted input the four questions succeed and agree: by company they give the positions
where the single company's answer is yes and the others, by name the answer of the last company of
each name in the order of first appearance. Only the questions by name warn, at each position whose
name occurs earlier. -/
theorem questions_agree
    (h : Screening.Input.ofValues s companies possessions = (.ok input, s₁)) :
    ∃ a : Answers input.companies input.possessions,
      (Operation.screen .eligible companies possessions).run.run s =
        told (s₁.newList (a.kept.map fun i => .company (input.companies.get i))) [] ∧
      (Operation.screen .ineligible companies possessions).run.run s =
        told (s₁.newList (a.dropped.map fun i => .company (input.companies.get i))) [] ∧
      (Operation.screen .eligibility companies possessions).run.run s =
        told (s₁.newTable (a.flags.map fun (n, b) => (.text n, .bool b)))
          (Screening.warnings input.companies) ∧
      (Operation.screen .verdicts companies possessions).run.run s =
        told (s₁.newTable (a.details.map fun (n, v) => (.text n, .verdict v)))
          (Screening.warnings input.companies) ∧
      (Screening.warnings input.companies).length + a.flags.length = input.companies.length := by
  refine ⟨.ofScreening _ _, ?_, ?_, ?_, ?_, ?_⟩
  · rw [run_screen h, Screening.eligible_eq, Screening.filter_eq_map_positions, List.map_map]
    rfl
  · rw [run_screen h, Screening.ineligible_eq, Screening.filter_eq_map_positions, List.map_map]
    rfl
  · rw [run_screen h]
    simp only [Screening.eligibility, Screening.tally_nil_events]
    rfl
  · rw [run_screen h]
    simp only [Screening.verdicts, Screening.tally_nil_events]
    rfl
  · have hlen := Screening.length_warnings input.companies
    have hnames := (Answers.ofScreening input.companies input.possessions).names_flags
    rw [← hnames, ByName.names, List.length_map] at hlen
    exact hlen

end Asked

/-- Of two companies that share a name the later answers by name, and both by company. -/
theorem questions_agree_namesakes :
    let companies : Value := .tuple (Screening.namesakes.map .company)
    let possessions : Value := .tuple [.text " Bike ", .operator .any]
    let input : Screening.Input := ⟨Screening.namesakes, [" Bike ", "OR"]⟩
    Screening.Input.ofValues .empty companies possessions = (.ok input, .empty) ∧
    ∃ a : Answers input.companies input.possessions,
      (Operation.screen .eligible companies possessions).run.run .empty =
        told (Store.empty.newList (a.kept.map fun i => .company (input.companies.get i))) [] ∧
      (Operation.screen .ineligible companies possessions).run.run .empty =
        told (Store.empty.newList (a.dropped.map fun i => .company (input.companies.get i))) [] ∧
      (Operation.screen .eligibility companies possessions).run.run .empty =
        told (Store.empty.newTable (a.flags.map fun (n, b) => (.text n, .bool b)))
          (Screening.warnings input.companies) ∧
      (Operation.screen .verdicts companies possessions).run.run .empty =
        told (Store.empty.newTable (a.details.map fun (n, v) => (.text n, .verdict v)))
          (Screening.warnings input.companies) ∧
      (Screening.warnings input.companies).length + a.flags.length = input.companies.length :=
  ⟨rfl, questions_agree rfl⟩

end Candidacy.Session
