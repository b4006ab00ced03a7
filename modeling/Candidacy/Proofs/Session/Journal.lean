import Candidacy.Proofs.Input.Acceptance
import Candidacy.Proofs.Report.Events
import Candidacy.Proofs.Session.Questions

/-!
# Events as they are written

A question or a run gives its events together with its answer. Here both are carried out step by
step over a journal, into which each event goes when it comes up and from which nothing is taken
back: every company is asked for itself, and whatever a step might refuse, it refuses there.

- `Journal.ask`, `Journal.report`: a question and a run over a journal.
- `Records`: the journal grows by the events that are told with the answer, and by none on a fault.
- `records_ask`, `records_report`: this is so of every question and of every run.
- `run_tells_report`: what a run writes tells all of its report.
-/

namespace Candidacy.Session

/-- A computation on the store and a journal of events. What it wrote stays when it fails. -/
abbrev Journal := ExceptT Fault (StateM (Store × List Event))

namespace Journal

variable {α β : Type}

def write (e : Event) : Journal Unit := modify fun (s, es) => (s, es ++ [e])

def ofWork (w : Work α) : Journal α := fun (s, es) =>
  let (r, s) := w.run.run s
  (r, (s, es))

/-- The answer of a company, which looks at the items held as possessions of their own. -/
def canWork (held : List String) (c : Company) : Journal Bool :=
  ofWork (Operation.canWork (.company c) (.frozenSet (held.map .text)))

def verdict (held : List String) (c : Company) : Journal Verdict :=
  return ⟨← canWork held c, c.requirementDescription⟩

/-- Enters an answer per company under its name; a name met before is written down first. -/
def tally (answer : Company → Journal α) (table : ByName α) : List Company → Journal (ByName α)
  | [] => return table
  | c :: cs => do
    if table.has c.name then write (.duplicateCompany c.name)
    let a ← answer c
    tally answer (table.put c.name a) cs

def sift (answer : Company → Journal Bool) (wanted : Bool) : List Company → Journal (List Company)
  | [] => return []
  | c :: cs => do
    let b ← answer c
    let rest ← sift answer wanted cs
    return if b = wanted then c :: rest else rest

def input (companies possessions : Value) : Journal (List Company × List String) := do
  let cs ← ofWork (Work.ofInput (Companies.ofValue · companies))
  let held ← ofWork (Work.ofInput (Possessions.normalForms · possessions))
  return (cs, held)

def verdicts (companies possessions : Value) : Journal (ByName Verdict) := do
  let (cs, held) ← input companies possessions
  tally (verdict held) [] cs

def ask (query : Query) (companies possessions : Value) : Journal Value :=
  match query with
  | .eligibility => do
    let (cs, held) ← input companies possessions
    let table ← tally (canWork held) [] cs
    ofWork (Operation.tableOf .bool table)
  | .verdicts => do
    let table ← verdicts companies possessions
    ofWork (Operation.tableOf .verdict table)
  | .eligible => do
    let (cs, held) ← input companies possessions
    let kept ← sift (canWork held) true cs
    ofWork (Operation.listOf kept)
  | .ineligible => do
    let (cs, held) ← input companies possessions
    let dropped ← sift (canWork held) false cs
    ofWork (Operation.listOf dropped)

/-- The outcome for each value of a list, each looked up by its name and written down. -/
def outcomes (held : List String) (table : ByName Verdict) : List Value → Journal (List Outcome)
  | [] => return []
  | .company c :: vs =>
    match table.get? c.name with
    | some v => do
      write (Outcome.ofVerdict held c v).event
      let rest ← outcomes held table vs
      return .ofVerdict held c v :: rest
    | none => throw (.unknownKey c.name)
  | v :: _ => ofWork (unknownOperation v "name")

def reportOf (words : List Word) (all : List Outcome) (timestamp : String) : Report :=
  let outcomes := (ByName.ofList Outcome.company all).values
  let eligibleCount := (outcomes.filter (·.eligible)).length
  { possessions := Text.sortedOn Word.text words
    outcomes := outcomes
    eligibleCount := eligibleCount
    ineligibleCount := outcomes.length - eligibleCount
    rate := .ofCounts eligibleCount outcomes.length
    companyCount := outcomes.length
    timestamp := timestamp
    version := Report.currentVersion }

/-- What a run does with companies and possessions once it has walked through both. -/
def drawUp (timestamp : String) (listed given : List Value) : Journal Report := do
  let table ← verdicts (.tuple listed) (.tuple given)
  let held ← ofWork (Work.ofInput (Possessions.normalForms · (.tuple given)))
  let all ← outcomes held table listed
  let words ← ofWork (Work.ofInput fun s => (Report.checkedWords given, s))
  let r := reportOf words all timestamp
  write (.summary r.eligibleCount r.ineligibleCount r.rate)
  return r

def report (timestamp : String) (companies possessions : Value) : Journal Report := do
  let given ← ofWork (Work.ofInput (Report.possessionsOf · possessions))
  let listed ← ofWork (Work.ofInput (Report.companiesOf · companies))
  drawUp timestamp listed given

/-! ## Single steps -/

variable {s s' : Store} {es : List Event}

theorem run_pure (a : α) : (pure a : Journal α).run.run (s, es) = (.ok a, (s, es)) := rfl

theorem run_write (e : Event) : (write e).run.run (s, es) = (.ok (), (s, es ++ [e])) := rfl

theorem run_ofWork {w : Work α} {r : Except Fault α} (h : w.run.run s = (r, s')) :
    (ofWork w).run.run (s, es) = (r, (s', es)) := by
  show ((w.run.run s).1, ((w.run.run s).2, es)) = _
  rw [h]

theorem listed_frozenSet (held : List String) :
    Possessions.Listed s (.frozenSet (held.map .text)) (held.map .plain) := by
  refine ⟨rfl, ?_⟩
  show some (held.map Value.text) = _
  rw [List.map_map]
  rfl

/-- No company that is asked can refuse the items held. -/
theorem run_canWork (held : List String) (c : Company) :
    (canWork held c).run.run (s, es) = (.ok (c.canWork held), (s, es)) := by
  have hread : Possessions.ofValue s (.frozenSet (held.map .text)) = (.ok (held.map .plain), s) :=
    Possessions.ofValue_eq_ok_iff.mpr ⟨listed_frozenSet held, rfl⟩
  have htexts : (held.map Word.plain).map (·.text) = held := by
    rw [List.map_map]
    exact List.map_id held
  apply run_ofWork
  rw [Operation.run_canWork, hread, Except.map, htexts]
  rfl

theorem run_verdict (held : List String) (c : Company) :
    (verdict held c).run.run (s, es) =
      (.ok ⟨c.canWork held, c.requirementDescription⟩, (s, es)) := by
  rw [verdict, Work.run_bind_ok (run_canWork held c)]
  rfl

/-! ## Company after company -/

section Companies

variable {answer : Company → Journal α} {f : Company → α}
  (hanswer : ∀ c s es, (answer c).run.run (s, es) = (.ok (f c), (s, es)))
include hanswer

/-- The warnings are written one by one, each before the company that it is about is asked. -/
theorem run_tally (t : ByName α) (cs : List Company) :
    (tally answer t cs).run.run (s, es) =
      (.ok (Screening.tally f t cs).value, (s, es ++ (Screening.tally f t cs).events)) := by
  induction cs generalizing t es with
  | nil =>
    show (_, (s, es)) = _
    rw [Screening.tally, List.append_nil]
  | cons c cs ih =>
    -- whatever has been written by now, the company is asked and the rest follows
    have hrest (es' : List Event) :
        (answer c >>= fun a => tally answer (t.put c.name a) cs).run.run (s, es') =
          (.ok (Screening.tally f (t.put c.name (f c)) cs).value,
            (s, es' ++ (Screening.tally f (t.put c.name (f c)) cs).events)) := by
      rw [Work.run_bind_ok (hanswer c s es'), ih]
    rw [Screening.tally_cons_events]
    by_cases hseen : t.has c.name = true
    · rw [tally, if_pos hseen, if_pos hseen, Work.run_bind_ok (run_write _), hrest,
        List.append_assoc]
      rfl
    · rw [tally, if_neg hseen, if_neg hseen]
      exact hrest es

end Companies

theorem run_sift {answer : Company → Journal Bool} {f : Company → Bool}
    (hanswer : ∀ c s es, (answer c).run.run (s, es) = (.ok (f c), (s, es))) (wanted : Bool)
    (cs : List Company) :
    (sift answer wanted cs).run.run (s, es) =
      (.ok (cs.filter fun c => f c == wanted), (s, es)) := by
  induction cs with
  | nil => rfl
  | cons c cs ih =>
    rw [sift, Work.run_bind_ok (hanswer c s es), Work.run_bind_ok ih, List.filter_cons, run_pure]
    simp only [beq_iff_eq]

/-! ## Questions -/

variable {companies possessions : Value}

theorem run_input :
    (input companies possessions).run.run (s, es) =
      (((Screening.Input.ofValues s companies possessions).1.map fun i =>
          (i.companies, heldItems i.possessions)).mapError .input,
        ((Screening.Input.ofValues s companies possessions).2, es)) := by
  cases hc : Companies.ofValue s companies with
  | mk rc s₁ =>
    cases rc with
    | error why =>
      rw [input, Work.run_bind_error (run_ofWork (Work.run_ofInput_error hc)),
        Screening.Input.ofValues, hc]
      rfl
    | ok cs =>
      rw [input, Work.run_bind_ok (run_ofWork (Work.run_ofInput_ok hc)), Screening.Input.ofValues,
        hc]
      dsimp only
      cases hp : Possessions.ofValue s₁ possessions with
      | mk rp s₂ =>
        have hforms : (Work.ofInput (Possessions.normalForms · possessions)).run.run s₁ =
            ((rp.map fun ws => heldItems (ws.map (·.text))).mapError .input, s₂) := by
          rw [Work.run_ofInput, Possessions.normalForms, hp]
        cases rp with
        | error why =>
          rw [Work.run_bind_error (run_ofWork hforms)]
          rfl
        | ok words =>
          rw [Work.run_bind_ok (run_ofWork hforms)]
          rfl

theorem run_input_ok {i : Screening.Input}
    (h : Screening.Input.ofValues s companies possessions = (.ok i, s')) :
    (input companies possessions).run.run (s, es) =
      (.ok (i.companies, heldItems i.possessions), (s', es)) := by
  rw [run_input, h]
  rfl

theorem run_input_error {why : InputFault}
    (h : Screening.Input.ofValues s companies possessions = (.error why, s')) :
    (input companies possessions).run.run (s, es) = (.error (.input why), (s', es)) := by
  rw [run_input, h]
  rfl

theorem run_verdicts {i : Screening.Input}
    (h : Screening.Input.ofValues s companies possessions = (.ok i, s')) :
    (verdicts companies possessions).run.run (s, es) =
      (.ok (Screening.verdicts i.companies i.possessions).value,
        (s', es ++ (Screening.verdicts i.companies i.possessions).events)) := by
  rw [verdicts, Work.run_bind_ok (run_input_ok h)]
  exact run_tally (fun c s es => run_verdict _ c) [] i.companies

theorem run_ask_error {why : InputFault}
    (h : Screening.Input.ofValues s companies possessions = (.error why, s')) (query : Query) :
    (ask query companies possessions).run.run (s, es) = (.error (.input why), (s', es)) := by
  cases query with
  | eligibility | eligible | ineligible => exact Work.run_bind_error (run_input_error h)
  | verdicts => exact Work.run_bind_error (Work.run_bind_error (run_input_error h))

end Journal

/-- The journal grows by the events that are told with the answer, and by none on a fault. -/
def Records {α : Type} (x : Journal α) (w : Work (Traced α)) : Prop :=
  ∀ s es, x.run.run (s, es) =
    match w.run.run s with
    | (.ok t, s') => (.ok t.value, (s', es ++ t.events))
    | (.error why, s') => (.error why, (s', es))

/-- Every question tells the events that come up while it is answered. -/
theorem records_ask (query : Query) (companies possessions : Value) :
    Records (Journal.ask query companies possessions)
      (Operation.screen query companies possessions) := by
  intro s es
  cases hin : Screening.Input.ofValues s companies possessions with
  | mk r s₁ =>
    cases r with
    | error why =>
      rw [run_screen_error hin, Journal.run_ask_error hin]
    | ok i =>
      have hinput : (Journal.input companies possessions).run.run (s, es) =
          (.ok (i.companies, heldItems i.possessions), (s₁, es)) := Journal.run_input_ok hin
      have hcanWork (c : Company) (s : Store) (es : List Event) :
          (Journal.canWork (heldItems i.possessions) c).run.run (s, es) =
            (.ok (c.canWork (heldItems i.possessions)), (s, es)) := Journal.run_canWork _ c
      rw [run_screen hin]
      cases query with
      | eligible =>
        rw [Journal.ask, Work.run_bind_ok hinput,
          Work.run_bind_ok (Journal.run_sift hcanWork true _)]
        simp only [told, List.append_nil, beq_true]
        rfl
      | ineligible =>
        rw [Journal.ask, Work.run_bind_ok hinput,
          Work.run_bind_ok (Journal.run_sift hcanWork false _)]
        simp only [told, List.append_nil, beq_false]
        rfl
      | eligibility =>
        rw [Journal.ask, Work.run_bind_ok hinput, Work.run_bind_ok (Journal.run_tally hcanWork _ _)]
        rfl
      | verdicts =>
        rw [Journal.ask, Work.run_bind_ok (Journal.run_verdicts hin)]
        rfl

/-! ## Runs -/

namespace Journal

variable {s : Store} {es : List Event} {cs : List Company} {held : List String}

/-- Each outcome is written down as it comes up, companies of one name each for themselves. -/
theorem run_outcomes {table : ByName Verdict} (hfound : ∀ c ∈ cs, ∃ v, table.get? c.name = some v) :
    (outcomes held table (cs.map .company)).run.run (s, es) =
      (.ok (Report.outcomesOf cs table held),
        (s, es ++ (Report.outcomesOf cs table held).map (·.event))) := by
  induction cs generalizing es with
  | nil =>
    show (_, (s, es)) = (_, (s, es ++ []))
    rw [List.append_nil]
    rfl
  | cons c cs ih =>
    obtain ⟨v, hv⟩ := hfound c List.mem_cons_self
    have hrest (es' : List Event) := @ih es' fun d hd => hfound d (List.mem_cons_of_mem c hd)
    have houtcomes : Report.outcomesOf (c :: cs) table held =
        Outcome.ofVerdict held c v :: Report.outcomesOf cs table held := by
      simp only [Report.outcomesOf, List.map_cons, hv, Option.getD_some]
    rw [List.map_cons, outcomes, hv, houtcomes, List.map_cons]
    dsimp only
    rw [Work.run_bind_ok (run_write _), Work.run_bind_ok (hrest _), List.append_assoc]
    rfl

variable {listed given : List Value} {timestamp : String}

theorem run_drawUp_error {why : InputFault}
    (h : Screening.Input.ofValues s (.tuple listed) (.tuple given) = (.error why, s)) :
    (drawUp timestamp listed given).run.run (s, es) = (.error (.input why), (s, es)) := by
  rw [drawUp, verdicts, Work.run_bind_error (Work.run_bind_error (run_input_error h))]

theorem draw_eq (cs : List Company) (words : List Word) (timestamp : String) :
    let verdicts := Screening.verdicts cs (words.map (·.text))
    let all := Report.outcomesOf cs verdicts.value (heldItems (words.map (·.text)))
    let r := reportOf words all timestamp
    Report.draw cs words timestamp =
      ⟨r, verdicts.events ++ all.map (·.event) ++
        [.summary r.eligibleCount r.ineligibleCount r.rate]⟩ := rfl

theorem run_drawUp_ok (cs : List Company) (words : List Word) :
    (drawUp timestamp (cs.map .company) (words.map Word.toValue)).run.run (s, es) =
      (.ok (Report.draw cs words timestamp).value,
        (s, es ++ (Report.draw cs words timestamp).events)) := by
  have hinput : Screening.Input.ofValues s (.tuple (cs.map .company))
      (.tuple (words.map Word.toValue)) = (.ok ⟨cs, words.map (·.text)⟩, s) :=
    Screening.Input.ofValues_of_lists rfl ⟨rfl, rfl⟩
  have hforms : (Work.ofInput (Possessions.normalForms · (.tuple (words.map Word.toValue)))).run.run
      s = (.ok (heldItems (words.map (·.text))), s) := by
    have hread : Possessions.ofValue s (.tuple (words.map Word.toValue)) = (.ok words, s) :=
      Possessions.ofValue_eq_ok_iff.mpr ⟨⟨rfl, rfl⟩, rfl⟩
    rw [Work.run_ofInput, Possessions.normalForms, hread]
    rfl
  have hfound : ∀ c ∈ cs, ∃ v,
      (Screening.verdicts cs (words.map (·.text))).value.get? c.name = some v := by
    intro c hc
    obtain ⟨d, hd⟩ : ∃ d, ByName.Last Company.name c.name cs d :=
      ByName.Last.exists_of_member hc
    exact ⟨_, Screening.get?_verdicts hd _⟩
  have hwords :
      (Work.ofInput fun s => (Report.checkedWords (words.map Word.toValue), s)).run.run s =
        (.ok words, s) := by
    rw [Work.run_ofInput, Report.checkedWords_eq_ok_iff.mpr rfl]
    rfl
  rw [drawUp, Work.run_bind_ok (run_verdicts hinput), Work.run_bind_ok (run_ofWork hforms),
    Work.run_bind_ok (run_outcomes hfound), Work.run_bind_ok (run_ofWork hwords)]
  dsimp only
  rw [Work.run_bind_ok (run_write _), run_pure, draw_eq, List.append_assoc, List.append_assoc,
    ← List.append_assoc (Traced.events _)]

/-- After the walks a run ends like the drawing up of its report, with nothing written if the values
turn out not to be companies and strings. -/
theorem run_drawUp (listed given : List Value) :
    (drawUp timestamp listed given).run.run (s, es) =
      match (Companies.checked listed).bind fun cs =>
          (Report.checkedWords given).map fun words => Report.draw cs words timestamp with
      | .ok t => (.ok t.value, (s, es ++ t.events))
      | .error why => (.error (.input why), (s, es)) := by
  have hwalk : Companies.ofValue s (.tuple listed) = (Companies.checked listed, s) :=
    Companies.ofValue_of_elements rfl
  cases hcs : Companies.checked listed with
  | error why =>
    rw [hcs] at hwalk
    exact run_drawUp_error (Screening.Input.ofValues_of_error hwalk)
  | ok cs =>
    obtain rfl := Companies.checked_eq_ok_iff.mp hcs
    cases hws : Report.checkedWords given with
    | error why =>
      have hinput : Screening.Input.ofValues s (.tuple (cs.map .company)) (.tuple given) =
          (.error why, s) := by
        have hlisted : Companies.Listed s (.tuple (cs.map .company)) cs := rfl
        rw [Screening.Input.ofValues_of_listed hlisted,
          Possessions.ofValue_of_elements rfl rfl, hws]
        rfl
      exact run_drawUp_error hinput
    | ok words =>
      obtain rfl := Report.checkedWords_eq_ok_iff.mp hws
      exact run_drawUp_ok cs words

end Journal

theorem records_report (timestamp : String) (companies possessions : Value) :
    Records (Journal.report timestamp companies possessions)
      (Operation.report timestamp companies possessions) := by
  intro s es
  rw [Operation.report, Work.run_ofInput, Report.run]
  cases hp : Report.possessionsOf s possessions with
  | mk rp s₁ =>
    cases rp with
    | error why =>
      rw [Journal.report, Work.run_bind_error (Journal.run_ofWork (Work.run_ofInput_error hp))]
      rfl
    | ok given =>
      rw [Journal.report, Work.run_bind_ok (Journal.run_ofWork (Work.run_ofInput_ok hp))]
      dsimp only
      cases hc : Report.companiesOf s₁ companies with
      | mk rc s₂ =>
        cases rc with
        | error why =>
          rw [Work.run_bind_error (Journal.run_ofWork (Work.run_ofInput_error hc))]
          rfl
        | ok listed =>
          rw [Work.run_bind_ok (Journal.run_ofWork (Work.run_ofInput_ok hc)), Journal.run_drawUp]
          dsimp only
          cases Companies.checked listed with
          | error why => rfl
          | ok cs =>
            cases Report.checkedWords given with
            | error why | ok words => rfl

/-- Every run that is given companies and possessions to read succeeds, and the events that it
writes one by one tell all of its report and nothing else. -/
theorem run_tells_report {s : Store} {companies possessions : Value} {cs : List Company}
    {words : List Word} (h : Report.Reads s companies possessions cs words) (timestamp : String) :
    ∃ t s', (Operation.report timestamp companies possessions).run.run s = (.ok t, s') ∧
      (∀ es, (Journal.report timestamp companies possessions).run.run (s, es) =
        (.ok t.value, (s', es ++ t.events))) ∧
      t.value.Faithful cs t.events := by
  have hok := Report.run_of_reads h timestamp
  have hrun : (Operation.report timestamp companies possessions).run.run s =
      (.ok (Report.draw cs words timestamp), (Report.run s companies possessions timestamp).2) := by
    rw [Operation.report, Work.run_ofInput, hok]
    rfl
  refine ⟨_, _, hrun, fun es => ?_, Report.faithful_draw cs words timestamp⟩
  have hwritten := records_report timestamp companies possessions s es
  rw [hrun] at hwritten
  exact hwritten

/-- Of two companies that share a name both are told, with the verdict of the later. -/
theorem run_tells_report_namesakes :
    let companies : Value := .tuple (Screening.namesakes.map .company)
    let possessions : Value := .tuple ([.plain "car", .plain " Bike "].map Word.toValue)
    Report.Reads .empty companies possessions Screening.namesakes
        [.plain "car", .plain " Bike "] ∧
      ∃ t s', (Operation.report "" companies possessions).run.run .empty = (.ok t, s') ∧
        (∀ es, (Journal.report "" companies possessions).run.run (.empty, es) =
          (.ok t.value, (s', es ++ t.events))) ∧
        t.value.Faithful Screening.namesakes t.events :=
  have hreads := Report.reads_tuples .empty Screening.namesakes [.plain "car", .plain " Bike "]
  ⟨hreads, run_tells_report hreads ""⟩

end Candidacy.Session
