import Candidacy.Proofs.Input.Records
import Candidacy.Proofs.Session.Isolation

/-!
# Companies from records in a session

Records that are handed over make a new list of companies, unless one of them makes none. Handed over as
records, the list makes another one with the same companies, and of two lists with the same companies
every question and every run tells the same.

- `run_companiesOf`: what comes of records in a row.
- `run_screen_list`, `run_report_list`: of a list nothing counts but what is in it.
- `companies_of_records`: what is made of records, and once again of what was made.
-/

namespace Candidacy.Session

open Companies (Describes Flawed)

variable {s : Store} {records : Value} {xs : List Value}

namespace Operation

theorem ofRecordCollection_of_elements (h : s.elements? records = some xs) :
    Companies.ofRecordCollection s records =
      ((Companies.ofRecords xs).1, s.advance records (Companies.ofRecords xs).2) := by
  rw [Companies.ofRecordCollection, h]

theorem run_companiesOf_ok {cs : List Company} (h : s.elements? records = some xs)
    (hcs : (Companies.ofRecords xs).1 = .ok cs) :
    ∃ ref s', (companiesOf records).run.run s = (.ok (.list ref), s') ∧ ref < s'.lists.size ∧
      s'.listItems ref = cs.map .company ∧ s.Keeps [] s' := by
  let s₁ := s.advance records (Companies.ofRecords xs).2
  have hread : Companies.ofRecordCollection s records = (.ok cs, s₁) := by
    rw [ofRecordCollection_of_elements h, hcs]
  have hnew : s₁.lists.size < (s₁.newList (cs.map .company)).2.lists.size := by
    simp [Store.newList]
  refine ⟨s₁.lists.size, (s₁.newList (cs.map .company)).2, ?_, hnew, Store.listItems_newList _ _,
    (Store.keeps_advance s records _).trans (Store.keeps_newList s₁ _)⟩
  rw [companiesOf, Work.run_bind_ok (Work.run_ofInput_ok hread)]
  rfl

theorem run_companiesOf_error {why : InputFault} (h : s.elements? records = some xs)
    (hwhy : (Companies.ofRecords xs).1 = .error why) :
    ((companiesOf records).run.run s).1 = .error (.input why) := by
  have hread : Companies.ofRecordCollection s records =
      (.error why, s.advance records (Companies.ofRecords xs).2) := by
    rw [ofRecordCollection_of_elements h, hwhy]
  rw [companiesOf, Work.run_bind_error (Work.run_ofInput_error hread)]

theorem made_of_run {v : Value} {s' : Store} (h : s.elements? records = some xs)
    (hrun : (companiesOf records).run.run s = (.ok v, s')) :
    ∃ ref cs, v = .list ref ∧ ref < s'.lists.size ∧ s'.listItems ref = cs.map .company ∧
      List.Forall₂ Describes xs cs := by
  cases hread : (Companies.ofRecords xs).1 with
  | ok cs =>
    obtain ⟨ref, s₁, hmade, hnew, hitems, -⟩ := run_companiesOf_ok h hread
    cases hrun.symm.trans hmade
    exact ⟨ref, cs, rfl, hnew, hitems, Companies.ofRecords_eq_ok_iff.mp hread⟩
  | error why =>
    have hfailed := run_companiesOf_error h hread
    rw [hrun] at hfailed
    cases hfailed

/-- Refused are records of which one makes no company, for what is wrong with the first of these. -/
theorem companiesOf_eq_error_iff {why : Fault} (h : s.elements? records = some xs) :
    ((companiesOf records).run.run s).1 = .error why ↔
      ∃ before x after flaw, xs = before ++ x :: after ∧ (∀ w ∈ before, ∃ c, Describes w c) ∧
        Flawed x flaw ∧ why = .input flaw := by
  constructor
  · intro hfailed
    cases hread : (Companies.ofRecords xs).1 with
    | ok cs =>
      obtain ⟨ref, s₁, hmade, -⟩ := run_companiesOf_ok h hread
      rw [hmade] at hfailed
      cases hfailed
    | error flaw =>
      cases hfailed.symm.trans (run_companiesOf_error h hread)
      obtain ⟨before, x, after, hxs, hbefore, hx⟩ := Companies.ofRecords_eq_error_iff.mp hread
      exact ⟨before, x, after, flaw, hxs, hbefore, hx, rfl⟩
  · rintro ⟨before, x, after, flaw, hxs, hbefore, hx, rfl⟩
    exact run_companiesOf_error h
      (Companies.ofRecords_eq_error_iff.mpr ⟨before, x, after, hxs, hbefore, hx⟩)

theorem run_companiesOf_again {ref : Nat} {s' : Store} (h : s.elements? records = some xs)
    (hrun : (companiesOf records).run.run s = (.ok (.list ref), s')) :
    ∃ ref' s'', (companiesOf (.list ref)).run.run s' = (.ok (.list ref'), s'') ∧
      s''.listItems ref' = s'.listItems ref ∧ s''.listItems ref = s'.listItems ref := by
  obtain ⟨_, cs, ⟨⟩, hold, hitems, hcs⟩ := made_of_run h hrun
  have helements : s'.elements? (.list ref) = some (cs.map .company) := congrArg some hitems
  have hagain := Companies.ofRecords_companies (Companies.ofRecords_eq_ok_iff.mpr hcs)
  obtain ⟨ref', s'', hrun', -, hitems', hkeeps⟩ := run_companiesOf_ok helements hagain
  exact ⟨ref', s'', hrun', hitems'.trans hitems.symm,
    hkeeps.listItems ref hold List.not_mem_nil⟩

/-- Of a list of companies nothing counts but what is in it. -/
theorem run_screen_list (query : Query) (ref : Nat) (possessions : Value) (s : Store) :
    (screen query (.list ref) possessions).run.run s =
      (screen query (.tuple (s.listItems ref)) possessions).run.run s := by
  have hread : Screening.Input.ofValues s (.list ref) possessions =
      Screening.Input.ofValues s (.tuple (s.listItems ref)) possessions := rfl
  cases hinput : Screening.Input.ofValues s (.tuple (s.listItems ref)) possessions with
  | mk r s₁ =>
    rw [hinput] at hread
    cases r with
    | ok input => rw [run_screen hread, run_screen hinput]
    | error why => rw [run_screen_error hread, run_screen_error hinput]

theorem run_report_list (timestamp : String) (ref : Nat) (possessions : Value) (s : Store) :
    (report timestamp (.list ref) possessions).run.run s =
      (report timestamp (.tuple (s.listItems ref)) possessions).run.run s := by
  rw [report, report, Work.run_ofInput, Work.run_ofInput, Report.run_list]

end Operation

open Operation

/-- What is made of records in a row, in a store where they are `xs`. -/
structure MadeOfRecords (s : Store) (records : Value) (xs : List Value) : Prop where
  returns : (∃ v s', (companiesOf records).run.run s = (.ok v, s')) ↔
    ∀ x ∈ xs, ∃ c, Describes x c
  lists : ∀ v s', (companiesOf records).run.run s = (.ok v, s') →
    ∃ ref cs, v = .list ref ∧ s'.listItems ref = cs.map .company ∧ List.Forall₂ Describes xs cs
  answers : ∀ x c, Describes x c →
    (Companies.requirementOf? x = some .none ∧ (∀ ps, c.canWork ps = true) ∧
        c.requirementDescription = Company.noRequirements) ∨
      ∃ r, Companies.requirementOf? x = some (.requirement r) ∧
        (∀ ps, c.canWork ps = r.holds (heldItems ps)) ∧ c.requirementDescription = r.describe
  refuses : ∀ why, ((companiesOf records).run.run s).1 = .error why ↔
    ∃ before x after flaw, xs = before ++ x :: after ∧ (∀ w ∈ before, ∃ c, Describes w c) ∧
      Flawed x flaw ∧ why = .input flaw
  refuses_alone : ∀ x flaw, Flawed x flaw →
    ((companiesOf (.tuple [x])).run.run s).1 = .error (.input flaw)
  again : ∀ ref s', (companiesOf records).run.run s = (.ok (.list ref), s') →
    ∃ ref' s'', (companiesOf (.list ref)).run.run s' = (.ok (.list ref'), s'') ∧
      s''.listItems ref' = s'.listItems ref ∧ s''.listItems ref = s'.listItems ref
  alike : ∀ (s' : Store) ref ref', s'.listItems ref = s'.listItems ref' → ∀ possessions,
    (∀ query, (screen query (.list ref) possessions).run.run s' =
      (screen query (.list ref') possessions).run.run s') ∧
    ∀ timestamp, (report timestamp (.list ref) possessions).run.run s' =
      (report timestamp (.list ref') possessions).run.run s'

/-- Records make companies in their order unless one of them makes none, and the first of these is what
they are refused for. A list that was made makes the same companies again, which answer as before. -/
theorem companies_of_records (h : s.elements? records = some xs) :
    MadeOfRecords s records xs := by
  constructor
  case returns =>
    rw [← Companies.exists_companies_iff]
    constructor
    · rintro ⟨v, s', hrun⟩
      obtain ⟨ref, cs, -, -, -, hcs⟩ := made_of_run h hrun
      exact ⟨cs, hcs⟩
    · rintro ⟨cs, hcs⟩
      obtain ⟨ref, s', hrun, -⟩ := run_companiesOf_ok h (Companies.ofRecords_eq_ok_iff.mpr hcs)
      exact ⟨_, s', hrun⟩
  case lists =>
    intro v s' hrun
    obtain ⟨ref, cs, hv, -, hitems, hcs⟩ := made_of_run h hrun
    exact ⟨ref, cs, hv, hitems, hcs⟩
  case answers => exact fun x c hc => hc.answers
  case refuses => exact fun why => companiesOf_eq_error_iff h
  case refuses_alone =>
    exact fun x flaw hx => (companiesOf_eq_error_iff rfl).mpr
      ⟨[], x, [], flaw, rfl, fun _ hw => absurd hw List.not_mem_nil, hx, rfl⟩
  case again => exact fun ref s' hrun => run_companiesOf_again h hrun
  case alike =>
    intro s' ref ref' hsame possessions
    refine ⟨fun query => ?_, fun timestamp => ?_⟩
    · rw [run_screen_list, hsame, ← run_screen_list]
    · rw [run_report_list, hsame, ← run_report_list]

/-- A record with blanks around its name and a company make companies. An operator has a name but no
requirement, and that is found before the blank name behind it. -/
theorem companies_of_records_mixed :
    let good : List Value :=
      [.record (.text "\u00a0A ") .none, .company ⟨"B", some (.item "bike")⟩]
    let bad : List Value :=
      [.record (.text "A") .none, .operator .any, .record (.text " ") (.int 3)]
    Store.empty.elements? (.tuple good) = some good ∧
      Store.empty.elements? (.tuple bad) = some bad ∧
      (∃ ref s', (companiesOf (.tuple good)).run.run .empty = (.ok (.list ref), s') ∧
        s'.listItems ref = [.company ⟨"A", none⟩, .company ⟨"B", some (.item "bike")⟩]) ∧
      ((companiesOf (.tuple bad)).run.run .empty).1 =
        .error (.input (.noAttribute .operator "requirement")) := by
  intro good bad
  have hgood : MadeOfRecords .empty (.tuple good) good := companies_of_records rfl
  have hbad : MadeOfRecords .empty (.tuple bad) bad := companies_of_records rfl
  have hmakes : List.Forall₂ Describes good [⟨"A", none⟩, ⟨"B", some (.item "bike")⟩] :=
    Companies.ofRecords_eq_ok_iff.mp (by decide +kernel)
  have hbefore : Describes (.record (.text "A") .none) ⟨"A", none⟩ :=
    Companies.ofRecord_eq_ok_iff.mp (by decide +kernel)
  refine ⟨rfl, rfl, ?_, (hbad.refuses _).mpr ⟨[_], .operator .any, [_], _, rfl,
    List.forall_mem_singleton.mpr ⟨_, hbefore⟩, .noRequirement rfl rfl, rfl⟩⟩
  obtain ⟨v, s', hrun⟩ := hgood.returns.mpr (Companies.exists_companies_iff.mp ⟨_, hmakes⟩)
  obtain ⟨ref, cs, rfl, hitems, hcs⟩ := hgood.lists v s' hrun
  have hsame := (Companies.ofRecords_eq_ok_iff.mpr hcs).symm.trans
    (Companies.ofRecords_eq_ok_iff.mpr hmakes)
  cases hsame
  exact ⟨ref, s', hrun, hitems⟩

end Candidacy.Session
