import Candidacy.Proofs.ByName
import Candidacy.Proofs.Session.Operations

/-!
# How a session evolves

The state of a session stays sound through all of its steps. What was shared before a step is
unchanged after it, but for iterators, which may be further on, and for the one list that the step
appends to or pops from.

- `Command.edited`, `Step.edited`: the list that a command is about to edit, and that a step edits.
- `State.after`: the state after the steps of a session, one after the other.
- `edits`: the lists that the steps of a session edit in turn.
- `Command.safe_perform`, `Step.preserves`, `State.preserved`: what a command, a step and any number
  of steps preserve.
-/

namespace Candidacy.Session

/-! ## One command -/

def Term.listNamed (bindings : ByName Value) (s : Store) (t : Term) : List Nat :=
  match ((t.eval bindings).run.run s).1 with
  | .ok (.list ref) => [ref]
  | _ => []

def Command.edited (bindings : ByName Value) (s : Store) : Command → List Nat
  | append list _ | pop list => list.listNamed bindings s
  | _ => []

variable {s s' : Store}

theorem Term.listNamed_of_run {bindings : ByName Value} {t : Term} {ref : Nat}
    (h : (t.eval bindings).run.run s = (.ok (.list ref), s')) :
    t.listNamed bindings s = [ref] := by
  rw [listNamed, h]

theorem Term.run_stored {bindings : ByName Value} {name : String} {v : Value}
    (h : bindings.get? name = some v) (s : Store) :
    ((Term.stored name).eval bindings).run.run s = (.ok v, s) := by
  show (valueOf bindings name).run.run s = _
  rw [valueOf, h]
  rfl

namespace Command

open Operation in
/-- Every command is safe: it edits one list at most, and what it answers is sound. -/
theorem safe_perform (e : Context) (command : Command) (hs : s.Sound)
    (hb : SoundBindings e.bindings s) :
    (command.perform e).Safe (command.edited e.bindings s) s fun s a => a.toValue.Sound s := by
  -- the terms of a command, one and two of them, before the operation
  have one {t : Term} {f : Value → Work Answer} {edited : List Nat}
      (hf : ∀ v s₁, s₁.Sound → v.Sound s₁ → (f v).Safe edited s₁ fun s a => a.toValue.Sound s) :
      (t.eval e.bindings >>= f).Safe edited s fun s a => a.toValue.Sound s :=
    (Term.safe_eval t hs hb).bind fun v s₁ _ hs₁ hv => hf v s₁ hs₁ hv
  have two {t u : Term} {f : Value → Value → Work Answer} {edited : List Nat}
      (hf : ∀ v w s₁, s₁.Sound → v.Sound s₁ → w.Sound s₁ →
        (f v w).Safe edited s₁ fun s a => a.toValue.Sound s) :
      (t.eval e.bindings >>= fun v => u.eval e.bindings >>= f v).Safe edited s
        fun s a => a.toValue.Sound s := by
    refine (Term.safe_eval t hs hb).bind fun v s₁ hkeeps₁ hs₁ hv => ?_
    refine (Term.safe_eval u hs₁ (hb.mono hkeeps₁.toWithin)).bind fun w s₂ hkeeps₂ hs₂ hw => ?_
    exact hf v w s₂ hs₂ (hv.mono hkeeps₂.toWithin) hw
  cases command with
  | make t => exact one fun v s₁ hs₁ hv => Work.safe_pure hs₁ hv
  | view t =>
    refine one fun v s₁ hs₁ hv => ?_
    refine (safe_inWords _ v hs₁).bind fun _ s₂ hkeeps₂ hs₂ _ => ?_
    refine (safe_inWords _ v hs₂).bind fun _ s₃ hkeeps₃ hs₃ _ => ?_
    exact Work.safe_pure hs₃ (hv.mono (hkeeps₂.trans hkeeps₃).toWithin)
  | holds r p =>
    exact two fun v w s₁ hs₁ _ _ => (safe_holds v w hs₁).bind fun _ _ _ hs₂ _ =>
      Work.safe_pure hs₂ (.plain rfl)
  | canWork c p =>
    exact two fun v w s₁ hs₁ _ _ => (safe_canWork v w hs₁).bind fun _ _ _ hs₂ _ =>
      Work.safe_pure hs₂ (.plain rfl)
  | readOperator t =>
    refine one fun v s₁ hs₁ _ => ?_
    have hread : (Work.ofInput fun s => (Operator.ofValue s v, s)).Safe [] s₁ fun _ _ => True :=
      Work.safe_ofInput hs₁ .refl fun _ _ => trivial
    exact hread.bind fun _ _ _ hs₂ _ => Work.safe_pure hs₂ (.plain rfl)
  | normalizeItem t =>
    exact one fun v s₁ hs₁ _ => (safe_normalForm v hs₁).bind fun _ _ _ hs₂ hw =>
      Work.safe_pure hs₂ hw
  | normalizePossessions t =>
    refine one fun v s₁ hs₁ _ => ?_
    have hread : (Work.ofInput (Possessions.normalForms · v)).Safe [] s₁ fun _ _ => True :=
      Work.safe_ofInput hs₁ (Possessions.walked_normalForms s₁ v) fun _ _ => trivial
    refine hread.bind fun items s₂ _ hs₂ _ => Work.safe_pure hs₂ (.frozenSet fun w hw => ?_)
    obtain ⟨_, -, rfl⟩ := List.mem_map.mp hw
    exact .plain rfl
  | equal a b =>
    exact two fun v w s₁ hs₁ _ _ => (safe_equality v w hs₁).bind fun _ _ _ hs₂ _ =>
      Work.safe_pure hs₂ (.plain rfl)
  | distinct t =>
    exact one fun v s₁ hs₁ _ => (safe_distinct v hs₁).bind fun _ _ _ hs₂ _ =>
      Work.safe_pure hs₂ (.plain rfl)
  | setField target field t => exact two fun v _ s₁ hs₁ _ _ => safe_touchField false v field hs₁
  | eraseField target field => exact one fun v s₁ hs₁ _ => safe_touchField true v field hs₁
  | append list t =>
    refine (Term.safe_eval list hs hb).with_run.bind fun l s₁ hkeeps₁ hs₁ ⟨_, hlist⟩ => ?_
    refine (Term.safe_eval t hs₁ (hb.mono hkeeps₁.toWithin)).bind fun v s₂ _ hs₂ hv => ?_
    have hedited (ref : Nat) (hl : l = .list ref) : list.listNamed e.bindings s = [ref] :=
      Term.listNamed_of_run (hl ▸ hlist)
    exact (safe_append hs₂ hv hedited).bind fun _ _ _ hs₃ _ => Work.safe_pure hs₃ (.plain rfl)
  | pop list =>
    refine (Term.safe_eval list hs hb).with_run.bind fun l s₁ _ hs₁ ⟨_, hlist⟩ => ?_
    have hedited (ref : Nat) (hl : l = .list ref) : list.listNamed e.bindings s = [ref] :=
      Term.listNamed_of_run (hl ▸ hlist)
    exact (safe_pop hs₁ hedited).bind fun _ _ _ hs₂ hv => Work.safe_pure hs₂ hv
  | screen query c p =>
    exact two fun v w s₁ hs₁ hv _ => (safe_screen query w hs₁ hv).bind fun _ _ _ hs₂ ht =>
      Work.safe_pure hs₂ ht
  | sampleCompanies =>
    exact (safe_listOf hs Sample.companies_wellFormed).bind fun _ _ _ hs₁ hv =>
      Work.safe_pure hs₁ hv
  | companiesOf t =>
    exact one fun v s₁ hs₁ hv => (safe_companiesOf hs₁ hv).bind fun _ _ _ hs₂ hw =>
      Work.safe_pure hs₂ hw
  | newPipeline t =>
    exact one fun v s₁ hs₁ hv => (Work.safe_newPipeline hs₁ hv).bind fun _ _ _ hs₂ hw =>
      Work.safe_pure hs₂ hw
  | pipelineCompanies t =>
    exact one fun v s₁ hs₁ _ => (safe_pipelineCompanies v hs₁).bind fun _ _ _ hs₂ hw =>
      Work.safe_pure hs₂ hw
  | run pipe p =>
    refine two fun v w s₁ hs₁ _ _ => (safe_companiesUnder v "run" hs₁).bind fun c s₂ _ hs₂ _ => ?_
    exact (safe_report e.timestamp c w hs₂).bind fun _ _ _ hs₃ _ => Work.safe_pure hs₃ (.plain rfl)
  | runOver c p =>
    exact two fun v w s₁ hs₁ _ _ => (safe_report e.timestamp v w hs₁).bind fun _ _ _ hs₂ _ =>
      Work.safe_pure hs₂ (.plain rfl)
  | loadSettings t =>
    exact one fun v s₁ hs₁ _ => (safe_settings v hs₁).bind fun _ _ _ hs₂ _ =>
      Work.safe_pure hs₂ (.plain rfl)
  | settingsFile files name =>
    refine one fun v s₁ hs₁ _ => (safe_inWords _ v hs₁).bind fun _ s₂ _ hs₂ _ => ?_
    split
    · exact Work.safe_pure hs₂ (.plain rfl)
    · exact Work.safe_throw hs₂
  | pathFor base name =>
    refine two fun v w s₁ hs₁ _ _ => (safe_base v hs₁).bind fun root s₂ _ hs₂ _ => ?_
    exact (safe_inWords _ w hs₂).bind fun _ _ _ hs₃ _ => Work.safe_pure hs₃ (.plain rfl)
  | container settings runs =>
    exact one fun v s₁ hs₁ hv => e.safe_container runs hs₁ hv
  | configureLog level jsonLogs =>
    exact two fun v w s₁ hs₁ _ _ => (safe_logSetup v w hs₁).bind fun _ _ _ hs₂ _ =>
      Work.safe_pure hs₂ (.plain rfl)
  | commandLine files arguments => exact Work.safe_pure hs (.plain rfl)

/-- A command that fails edits nothing at all. -/
theorem keeps_of_error {e : Context} {command : Command} (hs : s.Sound)
    (hb : SoundBindings e.bindings s) {why : Fault}
    (h : (command.perform e).run.run s = (.error why, s')) : s.Keeps [] s' := by
  have hkeeps := ((command.safe_perform e hs hb).of_run h).1
  cases command
  case append list t =>
    rcases Work.run_bind_eq_error h with h | ⟨l, s₁, hl, h⟩
    · exact (Term.keeps_of_run hs hb h).1
    · obtain ⟨hkeeps₁, hs₁⟩ := Term.keeps_of_run hs hb hl
      rcases Work.run_bind_eq_error h with h | ⟨v, s₂, hv, h⟩
      · exact hkeeps₁.trans (Term.keeps_of_run hs₁ (hb.mono hkeeps₁.toWithin) h).1
      · have hkeeps₂ := (Term.keeps_of_run hs₁ (hb.mono hkeeps₁.toWithin) hv).1
        rcases Work.run_bind_eq_error h with h | ⟨_, _, _, h⟩
        · rw [Operation.store_of_append_error h]
          exact hkeeps₁.trans hkeeps₂
        · cases h
  case pop list =>
    rcases Work.run_bind_eq_error h with h | ⟨l, s₁, hl, h⟩
    · exact (Term.keeps_of_run hs hb h).1
    · rcases Work.run_bind_eq_error h with h | ⟨_, _, _, h⟩
      · rw [Operation.store_of_pop_error h]
        exact (Term.keeps_of_run hs hb hl).1
      · cases h
  -- no other command edits a list even if it succeeds
  all_goals exact hkeeps

end Command

/-! ## One step -/

/-- What is shared and what is kept under names is sound. -/
structure State.Sound (σ : State) : Prop where
  store : σ.store.Sound
  bindings : SoundBindings σ.bindings σ.store

theorem State.sound_start : State.start.Sound where
  store := Store.sound_empty
  bindings _ _ h := by cases h

namespace State

def context (timestamp : String) (σ : State) : Context := ⟨σ.bindings, σ.log, timestamp⟩

end State

namespace Step

variable {timestamp : String} {σ : State} {step : Step}

theorem perform_of_error {why : Fault} {s : Store}
    (h : (step.command.perform (σ.context timestamp)).run.run σ.store = (.error why, s)) :
    step.perform timestamp σ =
      (.error why, { σ with store := s, root := step.command.rootAfter σ.root why }) := by
  have hrun : (step.command.perform ⟨σ.bindings, σ.log, timestamp⟩).run.run σ.store =
      (.error why, s) := h
  rw [perform, hrun]

def bindingsAfter (step : Step) (answer : Answer) (bindings : ByName Value) : ByName Value :=
  match step.keep with
  | some name => ByName.put name answer.toValue bindings
  | none => bindings

theorem perform_of_ok {answer : Answer} {s : Store}
    (h : (step.command.perform (σ.context timestamp)).run.run σ.store = (.ok answer, s)) :
    step.perform timestamp σ =
      (.ok answer, ⟨s, step.bindingsAfter answer σ.bindings, answer.logAfter σ.log,
        answer.rootAfter σ.root⟩) := by
  have hrun : (step.command.perform ⟨σ.bindings, σ.log, timestamp⟩).run.run σ.store =
      (.ok answer, s) := h
  rw [perform, hrun]
  rfl

theorem fst_perform (timestamp : String) (σ : State) (step : Step) :
    (step.perform timestamp σ).1 =
      ((step.command.perform (σ.context timestamp)).run.run σ.store).1 := by
  cases hrun : (step.command.perform (σ.context timestamp)).run.run σ.store with
  | mk r s =>
    cases r with
    | error why => rw [perform_of_error hrun]
    | ok answer => rw [perform_of_ok hrun]

theorem get?_bindingsAfter {name : String} (hkeep : step.keep ≠ some name) (answer : Answer)
    (bindings : ByName Value) :
    (step.bindingsAfter answer bindings).get? name = bindings.get? name := by
  unfold bindingsAfter
  split
  · rename_i kept hkept
    have hne : name ≠ kept := fun h => hkeep (h ▸ hkept)
    rw [ByName.get?_put, if_neg hne]
  · rfl

theorem get?_bindingsAfter_self {name : String} (hkeep : step.keep = some name) (answer : Answer)
    (bindings : ByName Value) :
    (step.bindingsAfter answer bindings).get? name = some answer.toValue := by
  rw [bindingsAfter, hkeep]
  exact (ByName.get?_put name answer.toValue bindings name).trans (if_pos rfl)

theorem get?_perform {name : String} {answer : Answer} (hkeep : step.keep = some name)
    (h : (step.perform timestamp σ).1 = .ok answer) :
    (step.perform timestamp σ).2.bindings.get? name = some answer.toValue := by
  cases hrun : (step.command.perform (σ.context timestamp)).run.run σ.store with
  | mk r s =>
    cases r with
    | error why =>
      rw [perform_of_error hrun] at h
      cases h
    | ok a =>
      rw [perform_of_ok hrun] at h ⊢
      cases h
      exact get?_bindingsAfter_self hkeep answer σ.bindings

/-- The list that a step edits: one that succeeds, as its command says. -/
def edited (timestamp : String) (σ : State) (step : Step) : List Nat :=
  match (step.perform timestamp σ).1 with
  | .ok _ => step.command.edited σ.bindings σ.store
  | .error _ => []

/-- What one step preserves: all that is shared, but for the list that it edits, soundness, and the
bindings that it is not told to renew. -/
structure Preserves (timestamp : String) (σ : State) (step : Step) : Prop where
  keeps : σ.store.Keeps (step.edited timestamp σ) (step.perform timestamp σ).2.store
  sound : (step.perform timestamp σ).2.Sound
  answer : ∀ a, (step.perform timestamp σ).1 = .ok a →
    a.toValue.Sound (step.perform timestamp σ).2.store
  bindings : ∀ name, step.keep ≠ some name →
    (step.perform timestamp σ).2.bindings.get? name = σ.bindings.get? name

theorem preserves (timestamp : String) {σ : State} (step : Step) (hσ : σ.Sound) :
    step.Preserves timestamp σ := by
  have hsafe := step.command.safe_perform (σ.context timestamp) hσ.store hσ.bindings
  cases hrun : (step.command.perform (σ.context timestamp)).run.run σ.store with
  | mk r s =>
    obtain ⟨hkeeps, hsound, hgood⟩ := hsafe.of_run hrun
    cases r with
    | error why =>
      have hstep := perform_of_error hrun
      have hkeeps := Command.keeps_of_error hσ.store hσ.bindings hrun
      constructor
      case keeps =>
        rw [hstep]
        exact hkeeps.of_nil
      case sound =>
        rw [hstep]
        exact ⟨hsound, hσ.bindings.mono hkeeps.toWithin⟩
      case answer =>
        rw [hstep]
        exact fun a ha => by cases ha
      case bindings =>
        rw [hstep]
        exact fun _ _ => rfl
    | ok answer =>
      have hstep := perform_of_ok hrun
      have hanswer : answer.toValue.Sound s := hgood answer rfl
      constructor
      case keeps =>
        rw [edited, hstep]
        exact hkeeps
      case sound =>
        rw [hstep]
        refine ⟨hsound, fun name v hv => ?_⟩
        by_cases hkeep : step.keep = some name
        · rw [get?_bindingsAfter_self hkeep] at hv
          cases hv
          exact hanswer
        · rw [get?_bindingsAfter hkeep] at hv
          exact (hσ.bindings name v hv).mono hkeeps.toWithin
      case answer =>
        rw [hstep]
        rintro a ⟨⟩
        exact hanswer
      case bindings =>
        rw [hstep]
        exact fun name hkeep => get?_bindingsAfter hkeep answer σ.bindings

end Step

/-! ## Many steps -/

def State.after (timestamp : String) (σ : State) (steps : List Step) : State :=
  steps.foldl (fun σ step => (step.perform timestamp σ).2) σ

/-- The lists that the steps of a session edit in turn. -/
def edits (timestamp : String) (σ : State) : List Step → List Nat
  | [] => []
  | step :: steps =>
    step.edited timestamp σ ++ edits timestamp (step.perform timestamp σ).2 steps

structure State.Preserved (timestamp : String) (σ : State) (steps : List Step) : Prop where
  keeps : σ.store.Keeps (edits timestamp σ steps) (σ.after timestamp steps).store
  sound : (σ.after timestamp steps).Sound
  bindings : ∀ name, (∀ step ∈ steps, step.keep ≠ some name) →
    (σ.after timestamp steps).bindings.get? name = σ.bindings.get? name

namespace State

variable {timestamp : String} {σ : State} {steps : List Step}

theorem preserved (hσ : σ.Sound) : σ.Preserved timestamp steps := by
  induction steps generalizing σ with
  | nil => exact ⟨.refl _ _, hσ, fun _ _ => rfl⟩
  | cons step steps ih =>
    have hstep := step.preserves timestamp hσ
    have hrest := ih hstep.sound
    constructor
    case keeps =>
      have hfirst := hstep.keeps.mono fun ref hr =>
        List.mem_append_left (edits timestamp (step.perform timestamp σ).2 steps) hr
      have hlast := hrest.keeps.mono fun ref hr =>
        List.mem_append_right (step.edited timestamp σ) hr
      exact hfirst.trans hlast
    case sound => exact hrest.sound
    case bindings =>
      intro name hkeep
      obtain ⟨hfirst, hkeep⟩ := List.forall_mem_cons.mp hkeep
      exact (hrest.bindings name hkeep).trans (hstep.bindings name hfirst)

theorem sound_after_start (timestamp : String) (steps : List Step) :
    (State.start.after timestamp steps).Sound :=
  (preserved sound_start).sound

end State

end Candidacy.Session
