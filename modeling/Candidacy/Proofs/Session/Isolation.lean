import Candidacy.Proofs.Session.Construction
import Candidacy.Proofs.Session.Questions
import Candidacy.Proofs.Session.Requirements

/-!
# Isolation of shared values

What a session builds of shared lists does not change with them, and what it does with shared lists
does not change them. Requirements and companies are what they were built as; pipelines alone look
into their list anew each time, and give out lists of their own.

- `Step.Edits`: a step that succeeds in appending to a list or popping from it.
- `State.Isolated`: the frame of everything that may happen after a state.
- `isolated_after`: every state that a session reaches is isolated in this way.
-/

namespace Candidacy

/-! ## Pipelines over lists -/

theorem Report.companiesOf_list (s : Store) (ref : Nat) :
    companiesOf s (.list ref) = companiesOf s (.tuple (s.listItems ref)) := rfl

theorem Report.run_list (s : Store) (ref : Nat) (possessions : Value) (timestamp : String) :
    run s (.list ref) possessions timestamp =
      run s (.tuple (s.listItems ref)) possessions timestamp := by
  have hitems : (possessionsOf s possessions).2.listItems ref = s.listItems ref := by
    cases possessions <;> rfl
  rw [run, run]
  cases h : possessionsOf s possessions with
  | mk given s₁ =>
    rw [h] at hitems
    cases given with
    | error why => rfl
    | ok given =>
      dsimp only
      rw [companiesOf_list, hitems]

namespace Session

variable {timestamp : String} {σ : State} {s : Store} {ref pipe : Nat}

theorem Operation.run_pipelineCompanies (h : s.pipelineCompanies pipe = .list ref) :
    (Operation.pipelineCompanies (.pipeline pipe)).run.run s =
      (.ok (.list s.lists.size), (s.newList (s.listItems ref)).2) := by
  have hcompanies : (Operation.companiesUnder (.pipeline pipe) "companies").run.run s =
      (.ok (.list ref), s) := by
    rw [← h]
    rfl
  rw [Operation.pipelineCompanies, Work.run_bind_ok hcompanies]
  rfl

theorem Operation.run_report_under (h : s.pipelineCompanies pipe = .list ref)
    (timestamp : String) (possessions : Value) :
    (do
      let companies ← Operation.companiesUnder (.pipeline pipe) "run"
      Operation.report timestamp companies possessions).run.run s =
      (Operation.report timestamp (.tuple (s.listItems ref)) possessions).run.run s := by
  have hcompanies : (Operation.companiesUnder (.pipeline pipe) "run").run.run s =
      (.ok (.list ref), s) := by
    rw [← h]
    rfl
  rw [Work.run_bind_ok hcompanies, Operation.report, Operation.report, Work.run_ofInput,
    Work.run_ofInput, Report.run_list]

/-! ## Edits -/

/-- The step appends to the list or pops from it, and succeeds. -/
structure Step.Edits (timestamp : String) (σ : State) (step : Step) (ref : Nat) : Prop where
  command : ∃ list s, (list.eval σ.bindings).run.run σ.store = (.ok (.list ref), s) ∧
    (step.command = .pop list ∨ ∃ value, step.command = .append list value)
  succeeds : ∃ a, (step.perform timestamp σ).1 = .ok a

theorem Term.run_of_mem_listNamed {bindings : ByName Value} {t : Term}
    (h : ref ∈ t.listNamed bindings s) :
    ∃ s₁, (t.eval bindings).run.run s = (.ok (.list ref), s₁) := by
  unfold listNamed at h
  cases hrun : (t.eval bindings).run.run s with
  | mk r s₁ =>
    rw [hrun] at h
    dsimp only at h
    split at h
    · rename_i named
      rw [List.mem_singleton] at h
      subst h
      exact ⟨s₁, rfl⟩
    · cases h

theorem Step.edits_of_mem_edited {step : Step} (h : ref ∈ step.edited timestamp σ) :
    step.Edits timestamp σ ref := by
  unfold edited at h
  split at h
  · rename_i a ha
    refine ⟨?_, a, ha⟩
    cases hcommand : step.command
    case append list value =>
      rw [hcommand] at h
      obtain ⟨s₁, hrun⟩ := Term.run_of_mem_listNamed h
      exact ⟨list, s₁, hrun, .inr ⟨value, rfl⟩⟩
    case pop list =>
      rw [hcommand] at h
      obtain ⟨s₁, hrun⟩ := Term.run_of_mem_listNamed h
      exact ⟨list, s₁, hrun, .inl rfl⟩
    all_goals
      rw [hcommand] at h
      cases h
  · cases h

theorem exists_edits_of_mem {steps : List Step} (h : ref ∈ edits timestamp σ steps) :
    ∃ before step later, steps = before ++ step :: later ∧
      step.Edits timestamp (σ.after timestamp before) ref := by
  induction steps generalizing σ with
  | nil => cases h
  | cons step steps ih =>
    rcases List.mem_append.mp h with hfirst | hrest
    · exact ⟨[], step, steps, rfl, Step.edits_of_mem_edited hfirst⟩
    · obtain ⟨before, step', later, rfl, hedits⟩ := ih hrest
      exact ⟨step :: before, step', later, rfl, hedits⟩

/-! ## Steps on what is kept -/

section Kept

variable {name field : String} {target value possessions : Term} {v w p : Value} {s₁ : Store}
  {keep : Option String}

/-- A requirement that is kept under a name answers by what it is and what is possessed. -/
theorem Step.fst_perform_holds {r : Requirement} (hr : σ.bindings.get? name = some (.requirement r))
    (hp : (possessions.eval σ.bindings).run.run σ.store = (.ok p, s)) :
    (Step.perform timestamp σ ⟨.holds (.stored name) possessions, keep⟩).1 =
      ((Possessions.normalForms s p).1.map fun held =>
        Answer.value (.bool (r.holds held))).mapError .input := by
  have hstored := Term.run_stored hr σ.store
  have hanswer : ((Operation.holds (.requirement r) p).run.run s) =
      (((Possessions.normalForms s p).1.map r.holds).mapError .input,
        (Possessions.normalForms s p).2) := Operation.run_holds r p s
  have hrun : ((Command.holds (.stored name) possessions).perform
      (σ.context timestamp)).run.run σ.store = _ :=
    (Work.run_bind_ok hstored).trans ((Work.run_bind_ok hp).trans
      (Work.run_bind_pure (fun b => Answer.value (.bool b)) hanswer))
  rw [fst_perform, hrun]
  cases (Possessions.normalForms s p).1 <;> rfl

theorem Step.fst_perform_canWork {c : Company} (hc : σ.bindings.get? name = some (.company c))
    (hp : (possessions.eval σ.bindings).run.run σ.store = (.ok p, s)) :
    (Step.perform timestamp σ ⟨.canWork (.stored name) possessions, keep⟩).1 =
      ((Possessions.ofValue s p).1.map fun words =>
        Answer.value (.bool (c.canWork (words.map (·.text))))).mapError .input := by
  have hstored := Term.run_stored hc σ.store
  have hanswer := Operation.run_canWork c p s
  have hrun : ((Command.canWork (.stored name) possessions).perform
      (σ.context timestamp)).run.run σ.store = _ :=
    (Work.run_bind_ok hstored).trans ((Work.run_bind_ok hp).trans
      (Work.run_bind_pure (fun b => Answer.value (.bool b)) hanswer))
  rw [fst_perform, hrun]
  cases (Possessions.ofValue s p).1 <;> rfl

def frozenFault (fields : List String) (deleting : Bool) (field : String) : Fault :=
  if field ∈ fields then .frozenField deleting field else .noSuchField

theorem Operation.run_touchField {α : Type} {fields : List String}
    (hv : Operation.frozenFields? v = some fields) (deleting : Bool) (field : String) (s : Store) :
    (Operation.touchField deleting v field : Work α).run.run s =
      (.error (frozenFault fields deleting field), s) := by
  rw [Operation.touchField, hv, frozenFault]
  simp only [List.contains_iff_mem]
  rfl

theorem Step.perform_setField {fields : List String}
    (hv : Operation.frozenFields? v = some fields)
    (ht : (target.eval σ.bindings).run.run σ.store = (.ok v, s))
    (hw : (value.eval σ.bindings).run.run s = (.ok w, s₁)) :
    Step.perform timestamp σ ⟨.setField target field value, keep⟩ =
      (.error (frozenFault fields false field), { σ with store := s₁ }) := by
  apply perform_of_error
  exact (Work.run_bind_ok ht).trans ((Work.run_bind_ok hw).trans
    (Operation.run_touchField hv false field s₁))

theorem Step.perform_eraseField {fields : List String}
    (hv : Operation.frozenFields? v = some fields)
    (ht : (target.eval σ.bindings).run.run σ.store = (.ok v, s)) :
    Step.perform timestamp σ ⟨.eraseField target field, keep⟩ =
      (.error (frozenFault fields true field), { σ with store := s }) := by
  apply perform_of_error
  exact (Work.run_bind_ok ht).trans (Operation.run_touchField hv true field s)

/-- A composite that is built of a list has the items of the list for its parts. -/
theorem Step.composite_of_list {operator : Term} {list : String} {a : Answer} (hσ : σ.Sound)
    (hlist : σ.bindings.get? list = some (.list ref))
    (h : (Step.perform timestamp σ ⟨.make (.composite operator (.stored list)), keep⟩).1 = .ok a) :
    ∃ op rs, a = .value (.requirement (.composite op rs)) ∧
      σ.store.listItems ref = rs.map .requirement := by
  rw [fst_perform] at h
  cases hrun : ((Command.make (.composite operator (.stored list))).perform
      (σ.context timestamp)).run.run σ.store with
  | mk r s' =>
    rw [hrun] at h
    cases h
    obtain ⟨v, s₂, hv, hanswer⟩ := Work.run_bind_eq_ok hrun
    cases hanswer
    rw [Term.eval_composite] at hv
    obtain ⟨o, s₁, ho, hv⟩ := Work.run_bind_eq_ok hv
    have hkeeps := (Term.keeps_of_run hσ.store hσ.bindings ho).1
    have href := (hσ.bindings list _ hlist).lt_of_list
    have hstored : ((Term.stored list).eval (σ.context timestamp).bindings).run.run s₁ = _ :=
      Term.run_stored hlist s₁
    rw [Work.run_bind_ok hstored] at hv
    have houtcome := (Construction.composite o (.list ref)).build_outcome s₁
    rw [hv] at houtcome
    cases houtcome with
    | made hmakes =>
      cases hmakes with
      | composite _ hitems =>
        refine ⟨_, _, rfl, ?_⟩
        rw [← hkeeps.listItems ref href List.not_mem_nil]
        exact Option.some.inj hitems

end Kept

/-! ## Lists given out -/

theorem Operation.pipelineCompanies_eq_ok {pipeline v : Value} {s' : Store} (hs : s.Sound)
    (h : (Operation.pipelineCompanies pipeline).run.run s = (.ok v, s')) :
    ∃ s₁ vs, s.Keeps [] s₁ ∧ v = .list s₁.lists.size ∧ s' = (s₁.newList vs).2 := by
  obtain ⟨companies, s₀, hunder, h⟩ := Work.run_bind_eq_ok h
  obtain ⟨vs, s₁, hwalk, h⟩ := Work.run_bind_eq_ok h
  cases h
  have hsafe : (Operation.companiesUnder pipeline "companies").Safe [] s Value.Sound :=
    Operation.safe_companiesUnder pipeline "companies" hs
  obtain ⟨hkeeps₀, hs₀, -⟩ := hsafe.of_run hunder
  have hread : (Work.ofInput (Report.companiesOf · companies)).Safe [] s₀ fun _ _ => True :=
    Work.safe_ofInput hs₀ (Report.walked_companiesOf s₀ companies) fun _ _ => trivial
  exact ⟨s₁, vs, hkeeps₀.trans (hread.of_run hwalk).1, rfl, rfl⟩

/-- A list that a pipeline gives out was not there before. -/
theorem Step.fresh_of_pipelineCompanies {step : Step} {pipeline : Term} {a : Answer}
    (hσ : σ.Sound) (hcommand : step.command = .pipelineCompanies pipeline)
    (h : (step.perform timestamp σ).1 = .ok a) :
    ∃ new, a = .value (.list new) ∧ σ.store.lists.size ≤ new := by
  rw [fst_perform, hcommand] at h
  cases hrun : ((Command.pipelineCompanies pipeline).perform
      (σ.context timestamp)).run.run σ.store with
  | mk r s' =>
    rw [hrun] at h
    cases h
    obtain ⟨p, s₁, hp, hrest⟩ := Work.run_bind_eq_ok hrun
    obtain ⟨hkeeps, hs₁⟩ := Term.keeps_of_run hσ.store hσ.bindings hp
    obtain ⟨v, s₂, hv, hanswer⟩ := Work.run_bind_eq_ok hrest
    cases hanswer
    obtain ⟨s₃, vs, hkeeps₃, rfl, rfl⟩ := Operation.pipelineCompanies_eq_ok hs₁ hv
    exact ⟨s₃.lists.size, rfl, Nat.le_trans hkeeps.lists hkeeps₃.lists⟩

/-! ## Isolation -/

/-- The frame of all that may happen after a state, whichever steps fail.

- `kept`, `asked`, `asked_company`: what is kept under a name stays what it is until the name is
  given away, and a requirement or a company kept so answers by what it is and what it is asked.
- `composite_of_list`: a composite built of a list has the items of the list then as its parts, and
  keeps them.
- `frozen`, `undeclared`: the fields of requirements and companies are neither set nor deleted, and
  none of any other name is added.
- `contents`, `edited`: nothing shared changes but lists that are edited and iterators that are
  walked through; only appending to a list and popping from it edit the list.
- `created`, `listed`, `reported`: a pipeline that is created over a list stays over it, and lists
  and reports what is in the list at the time.
- `fresh`: the list that a pipeline gives out is nobody else's, and editing it leaves every other
  list, and what any pipeline over another list gives out, as it was. -/
structure State.Isolated (timestamp : String) (σ : State) : Prop where
  kept : ∀ name v later, σ.bindings.get? name = some v → (∀ step ∈ later, step.keep ≠ some name) →
    (σ.after timestamp later).bindings.get? name = some v
  asked : ∀ name r later, σ.bindings.get? name = some (.requirement r) →
    (∀ step ∈ later, step.keep ≠ some name) → ∀ possessions p s keep,
    (possessions.eval (σ.after timestamp later).bindings).run.run (σ.after timestamp later).store =
      (.ok p, s) →
    (Step.perform timestamp (σ.after timestamp later)
        ⟨.holds (.stored name) possessions, keep⟩).1 =
      ((Possessions.normalForms s p).1.map fun held =>
        Answer.value (.bool (r.holds held))).mapError .input
  asked_company : ∀ name c later, σ.bindings.get? name = some (.company c) →
    (∀ step ∈ later, step.keep ≠ some name) → ∀ possessions p s keep,
    (possessions.eval (σ.after timestamp later).bindings).run.run (σ.after timestamp later).store =
      (.ok p, s) →
    (Step.perform timestamp (σ.after timestamp later)
        ⟨.canWork (.stored name) possessions, keep⟩).1 =
      ((Possessions.ofValue s p).1.map fun words =>
        Answer.value (.bool (c.canWork (words.map (·.text))))).mapError .input
  composite_of_list : ∀ operator list name ref a later,
    σ.bindings.get? list = some (.list ref) →
    let step : Step := ⟨.make (.composite operator (.stored list)), some name⟩
    (step.perform timestamp σ).1 = .ok a → (∀ step ∈ later, step.keep ≠ some name) →
    ∃ op rs, σ.store.listItems ref = rs.map .requirement ∧
      (σ.after timestamp (step :: later)).bindings.get? name =
        some (.requirement (.composite op rs))
  frozen_set : ∀ target value field v w s s₁ keep fields,
    Operation.frozenFields? v = some fields → field ∈ fields →
    (target.eval σ.bindings).run.run σ.store = (.ok v, s) →
    (value.eval σ.bindings).run.run s = (.ok w, s₁) →
    Step.perform timestamp σ ⟨.setField target field value, keep⟩ =
      (.error (.frozenField false field), { σ with store := s₁ })
  frozen_erase : ∀ target field v s keep fields,
    Operation.frozenFields? v = some fields → field ∈ fields →
    (target.eval σ.bindings).run.run σ.store = (.ok v, s) →
    Step.perform timestamp σ ⟨.eraseField target field, keep⟩ =
      (.error (.frozenField true field), { σ with store := s })
  undeclared_set : ∀ target value field v w s s₁ keep fields,
    Operation.frozenFields? v = some fields → field ∉ fields →
    (target.eval σ.bindings).run.run σ.store = (.ok v, s) →
    (value.eval σ.bindings).run.run s = (.ok w, s₁) →
    Step.perform timestamp σ ⟨.setField target field value, keep⟩ =
      (.error .noSuchField, { σ with store := s₁ })
  undeclared_erase : ∀ target field v s keep fields,
    Operation.frozenFields? v = some fields → field ∉ fields →
    (target.eval σ.bindings).run.run σ.store = (.ok v, s) →
    Step.perform timestamp σ ⟨.eraseField target field, keep⟩ =
      (.error .noSuchField, { σ with store := s })
  contents : ∀ later, σ.store.Keeps (edits timestamp σ later) (σ.after timestamp later).store
  edited : ∀ later ref, ref < σ.store.lists.size →
    (σ.after timestamp later).store.listItems ref ≠ σ.store.listItems ref →
    ∃ before step rest, later = before ++ step :: rest ∧
      step.Edits timestamp (σ.after timestamp before) ref
  created : ∀ list ref keep, σ.bindings.get? list = some (.list ref) →
    let next := Step.perform timestamp σ ⟨.newPipeline (.stored list), keep⟩
    ∃ pipe, next.1 = .ok (.value (.pipeline pipe)) ∧ pipe < next.2.store.pipelines.size ∧
      next.2.store.pipelineCompanies pipe = .list ref
  listed : ∀ pipe ref later, pipe < σ.store.pipelines.size →
    σ.store.pipelineCompanies pipe = .list ref →
    let now := (σ.after timestamp later).store
    (Operation.pipelineCompanies (.pipeline pipe)).run.run now =
      (.ok (.list now.lists.size), (now.newList (now.listItems ref)).2)
  reported : ∀ pipe ref later possessions, pipe < σ.store.pipelines.size →
    σ.store.pipelineCompanies pipe = .list ref →
    let now := (σ.after timestamp later).store
    (do
      let companies ← Operation.companiesUnder (.pipeline pipe) "run"
      Operation.report timestamp companies possessions).run.run now =
      (Operation.report timestamp (.tuple (now.listItems ref)) possessions).run.run now
  fresh : ∀ (step : Step) pipeline a, step.command = .pipelineCompanies pipeline →
    (step.perform timestamp σ).1 = .ok a → ∃ new, a = .value (.list new) ∧
      (∀ v, σ.Holds v → v ≠ .list new) ∧
      ∀ later, let now := (step.perform timestamp σ).2
        (∀ ref ∈ edits timestamp now later, ref = new) →
        (∀ ref < σ.store.lists.size,
          (now.after timestamp later).store.listItems ref = σ.store.listItems ref) ∧
        ∀ pipe ref, pipe < σ.store.pipelines.size → σ.store.pipelineCompanies pipe = .list ref →
          ∃ s copy, (Operation.pipelineCompanies (.pipeline pipe)).run.run
            (now.after timestamp later).store = (.ok (.list copy), s) ∧
            s.listItems copy = σ.store.listItems ref

section Isolated

variable {later : List Step}

theorem State.pipelineCompanies_after (hσ : σ.Sound) (hpipe : pipe < σ.store.pipelines.size)
    (href : σ.store.pipelineCompanies pipe = .list ref) :
    (σ.after timestamp later).store.pipelineCompanies pipe = .list ref :=
  ((State.preserved hσ).keeps.pipelineCompanies pipe hpipe).trans href

theorem State.Sound.isolated (hσ : σ.Sound) : σ.Isolated timestamp := by
  have hkept (name : String) (v : Value) (later : List Step)
      (hv : σ.bindings.get? name = some v) (hlater : ∀ step ∈ later, step.keep ≠ some name) :
      (σ.after timestamp later).bindings.get? name = some v :=
    ((State.preserved hσ).bindings name hlater).trans hv
  constructor
  case kept => exact hkept
  case asked =>
    exact fun name r later hr hlater possessions p s keep hp =>
      Step.fst_perform_holds (hkept name _ later hr hlater) hp
  case asked_company =>
    exact fun name c later hc hlater possessions p s keep hp =>
      Step.fst_perform_canWork (hkept name _ later hc hlater) hp
  case composite_of_list =>
    intro operator list name ref a later hlist step ha hlater
    obtain ⟨op, rs, rfl, hitems⟩ := Step.composite_of_list hσ hlist ha
    refine ⟨op, rs, hitems, ?_⟩
    have hbound := Step.get?_perform (show step.keep = some name from rfl) ha
    exact ((State.preserved (step.preserves timestamp hσ).sound).bindings name hlater).trans hbound
  case frozen_set =>
    intro target value field v w s s₁ keep fields hv hfield ht hw
    rw [Step.perform_setField hv ht hw, frozenFault, if_pos hfield]
  case frozen_erase =>
    intro target field v s keep fields hv hfield ht
    rw [Step.perform_eraseField hv ht, frozenFault, if_pos hfield]
  case undeclared_set =>
    intro target value field v w s s₁ keep fields hv hfield ht hw
    rw [Step.perform_setField hv ht hw, frozenFault, if_neg hfield]
  case undeclared_erase =>
    intro target field v s keep fields hv hfield ht
    rw [Step.perform_eraseField hv ht, frozenFault, if_neg hfield]
  case contents => exact fun later => (State.preserved hσ).keeps
  case edited =>
    intro later ref href hchanged
    apply exists_edits_of_mem
    by_contra hnot
    exact hchanged ((State.preserved hσ).keeps.listItems ref href hnot)
  case created =>
    intro list ref keep hlist
    have hrun : ((Command.newPipeline (.stored list)).perform
        (σ.context timestamp)).run.run σ.store =
          (.ok (.value (.pipeline σ.store.pipelines.size)),
            (σ.store.newPipeline (.list ref)).2) :=
      Work.run_bind_ok (Term.run_stored hlist σ.store)
    dsimp only
    rw [Step.perform_of_ok hrun]
    refine ⟨_, rfl, ?_, Store.pipelineCompanies_newPipeline _ _⟩
    simp [Store.newPipeline]
  case listed =>
    exact fun pipe ref later hpipe href =>
      Operation.run_pipelineCompanies (State.pipelineCompanies_after hσ hpipe href)
  case reported =>
    exact fun pipe ref later possessions hpipe href =>
      Operation.run_report_under (State.pipelineCompanies_after hσ hpipe href) timestamp possessions
  case fresh =>
    intro step pipeline a hcommand ha
    obtain ⟨new, rfl, hnew⟩ := Step.fresh_of_pipelineCompanies hσ hcommand ha
    refine ⟨new, rfl, fun v hv hlist => ?_, ?_⟩
    · have hin := hσ.of_holds hv
      rw [hlist] at hin
      exact absurd hin.lt_of_list (Nat.not_lt.mpr hnew)
    · intro later now honly
      have hstep := step.preserves timestamp hσ
      have hlater : now.Preserved timestamp later := State.preserved hstep.sound
      have hunedited : step.edited timestamp σ = [] := by
        rw [Step.edited, hcommand, ha]
        rfl
      have hfirst := hstep.keeps
      rw [hunedited] at hfirst
      have hsame (ref : Nat) (href : ref < σ.store.lists.size) :
          (now.after timestamp later).store.listItems ref = σ.store.listItems ref := by
        have hother : ref ∉ edits timestamp now later :=
          fun hin => absurd (honly ref hin) (Nat.ne_of_lt (Nat.lt_of_lt_of_le href hnew))
        have hnow : ref < now.store.lists.size := Nat.lt_of_lt_of_le href hfirst.lists
        rw [hlater.keeps.listItems ref hnow hother, hfirst.listItems ref href List.not_mem_nil]
      refine ⟨hsame, fun pipe ref hpipe href => ?_⟩
      have hin : ref < σ.store.lists.size := by
        have hcompanies := hσ.store.pipelineCompanies pipe
        rw [href] at hcompanies
        exact hcompanies.lt_of_list
      have hunder : (now.after timestamp later).store.pipelineCompanies pipe = .list ref := by
        rw [hlater.keeps.pipelineCompanies pipe (Nat.lt_of_lt_of_le hpipe hfirst.pipelines),
          hfirst.pipelineCompanies pipe hpipe, href]
      refine ⟨_, _, Operation.run_pipelineCompanies hunder, ?_⟩
      rw [← hsame ref hin]
      exact Store.listItems_newList _ _

end Isolated

/-- Every state that a session reaches, whichever of its steps failed, is isolated. -/
theorem isolated_after (timestamp : String) (steps : List Step) :
    (State.start.after timestamp steps).Isolated timestamp :=
  (State.sound_after_start timestamp steps).isolated

end Session

end Candidacy
