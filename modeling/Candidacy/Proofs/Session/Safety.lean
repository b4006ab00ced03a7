import Candidacy.Session.Operation
import Candidacy.Proofs.Input.Walks
import Candidacy.Proofs.Session.Work

/-!
# Computations on a sound store

From a sound store every computation of a session reaches a sound store again, which keeps all that
was shared before, and what it gives is sound there. The one exception to keeping are the lists that
an operation is asked to edit.

- `Work.Safe edited w s good`: the computation `w` does so from `s`, but for the lists `edited`, and
  what it gives is `good` in the store that it reaches.
- `Safe.bind`: one safe computation after the other is safe.
- `Term.safe_eval`: terms are evaluated safely.
-/

namespace Candidacy.Session

/-- From `s` the computation reaches a sound store that keeps what is shared, but for the edited lists, and
what it gives is good there. -/
structure Work.Safe {α : Type} (edited : List Nat) (w : Work α) (s : Store)
    (good : Store → α → Prop) : Prop where
  keeps : s.Keeps edited (w.run.run s).2
  sound : (w.run.run s).2.Sound
  good : ∀ a, (w.run.run s).1 = .ok a → good (w.run.run s).2 a

namespace Work

variable {α β : Type} {edited : List Nat} {s s' : Store} {good : Store → α → Prop}
  {w : Work α}

theorem safe_pure {a : α} (hs : s.Sound) (ha : good s a) :
    (pure a : Work α).Safe edited s good where
  keeps := .refl edited s
  sound := hs
  good b hb := by
    cases hb
    exact ha

theorem safe_throw {why : Fault} (hs : s.Sound) : (throw why : Work α).Safe edited s good where
  keeps := .refl edited s
  sound := hs
  good b hb := by cases hb

namespace Safe

theorem with_run (h : w.Safe edited s good) :
    w.Safe edited s fun s₁ a => good s₁ a ∧ w.run.run s = (.ok a, s₁) :=
  ⟨h.keeps, h.sound, fun a ha => ⟨h.good a ha, Prod.ext ha rfl⟩⟩

theorem of_run (h : w.Safe edited s good) {r : Except Fault α} (hrun : w.run.run s = (r, s')) :
    s.Keeps edited s' ∧ s'.Sound ∧ ∀ a, r = .ok a → good s' a := by
  obtain ⟨hkeeps, hsound, hgood⟩ := h
  rw [hrun] at hkeeps hsound hgood
  exact ⟨hkeeps, hsound, hgood⟩

theorem bind {x : Work α} {f : α → Work β} {goal : Store → β → Prop} (hx : x.Safe edited s good)
    (hf : ∀ a s₁, s.Keeps edited s₁ → s₁.Sound → good s₁ a → (f a).Safe edited s₁ goal) :
    (x >>= f).Safe edited s goal := by
  cases h : x.run.run s with
  | mk r s₁ =>
    obtain ⟨hkeeps, hsound, hgood⟩ := hx.of_run h
    cases r with
    | error why =>
      constructor <;> rw [run_bind_error h]
      · exact hkeeps
      · exact hsound
      · exact fun b hb => by cases hb
    | ok a =>
      have hnext := hf a s₁ hkeeps hsound (hgood a rfl)
      constructor <;> rw [run_bind_ok h]
      · exact hkeeps.trans hnext.keeps
      · exact hnext.sound
      · exact hnext.good

end Safe

theorem safe_get_bind {f : Store → Work α} (h : (f s).Safe edited s good) :
    (get >>= f).Safe edited s good := ⟨h.keeps, h.sound, h.good⟩

theorem safe_ofResult {f : Store → Except Fault α × Store} (hs : s.Sound)
    (hw : s.Walked (f s).2) (hgood : ∀ a, (f s).1 = .ok a → good (f s).2 a) :
    (ofResult f).Safe edited s good :=
  ⟨hw.keeps.of_nil, hw.sound hs, hgood⟩

theorem safe_ofInput {f : Store → Except InputFault α × Store} (hs : s.Sound)
    (hw : s.Walked (f s).2) (hgood : ∀ a, (f s).1 = .ok a → good (f s).2 a) :
    (ofInput f).Safe edited s good :=
  safe_ofResult hs hw fun a ha => hgood a (mapError_eq_ok_iff.mp ha)

theorem safe_ofChecked {r : Except InvalidInput α} (hs : s.Sound)
    (hgood : ∀ a, r = .ok a → good s a) : (ofChecked r).Safe edited s good := by
  cases r with
  | error why => exact safe_throw hs
  | ok a => exact safe_pure hs (hgood a rfl)

theorem safe_unchangeable (v : Value) (hs : s.Sound) :
    (unchangeable v).Safe edited s fun _ _ => True := by
  unfold unchangeable
  cases v.changeable? with
  | none => exact safe_pure hs trivial
  | some kind => exact safe_throw hs

theorem safe_forM_unchangeable (vs : List Value) (hs : s.Sound) :
    (vs.forM unchangeable).Safe edited s fun _ _ => True := by
  induction vs generalizing s with
  | nil => exact safe_pure hs trivial
  | cons v vs ih => exact (safe_unchangeable v hs).bind fun _ _ _ hs₁ _ => ih hs₁

theorem safe_ofNew {f : Store → Value × Store} (hkeeps : s.Keeps [] (f s).2)
    (hsound : (f s).2.Sound) (hvalue : (f s).1.Sound (f s).2) :
    (ofNew f).Safe edited s Value.Sound where
  keeps := hkeeps.of_nil
  sound := hsound
  good v hv := by
    cases hv
    exact hvalue

theorem safe_newList (hs : s.Sound) {items : List Value} (hitems : ∀ v ∈ items, v.Sound s) :
    (ofNew (·.newList items)).Safe edited s Value.Sound :=
  safe_ofNew (Store.keeps_newList s items) (hs.newList hitems) (.list (by simp [Store.newList]))

theorem safe_newTable (hs : s.Sound) {es : List (Value × Value)}
    (hes : ∀ e ∈ es, e.1.Sound s ∧ e.2.Sound s) :
    (ofNew (·.newTable es)).Safe edited s Value.Sound :=
  safe_ofNew (Store.keeps_newTable s es) (hs.newTable hes) (.table (by simp [Store.newTable]))

theorem safe_newPipeline (hs : s.Sound) {companies : Value} (hc : companies.Sound s) :
    (ofNew (·.newPipeline companies)).Safe edited s Value.Sound :=
  safe_ofNew (Store.keeps_newPipeline s companies) (hs.newPipeline hc)
    (.pipeline (by simp [Store.newPipeline]))

end Work

def SoundValues (s : Store) (vs : List Value) : Prop := ∀ v ∈ vs, v.Sound s

/-! ## Constructions -/

/-- A call that makes a requirement or a company of the values it is given. -/
inductive Construction where
  | item (name : Value)
  | composite (operator parts : Value)
  | group (op : Operator) (parts : List Value)
  | company (name requirement : Value)

namespace Construction

def build : Construction → Work Value
  | item name => return .requirement (← Work.ofChecked (Requirement.ofItem name))
  | composite operator parts => Term.compositeOf operator parts
  | group op parts => return .requirement (← Work.ofChecked (Requirement.ofOperator op parts))
  | company name requirement => return .company (← Work.ofChecked (Company.ofValues name requirement))

def arguments : Construction → List Value
  | item name => [name]
  | composite operator parts => [operator, parts]
  | group _ parts => parts
  | company name requirement => [name, requirement]

end Construction

variable {edited : List Nat} {s : Store}

theorem Term.safe_compositeOf {operator parts : Value} (hs : s.Sound) (hparts : parts.Sound s) :
    (Term.compositeOf operator parts).Safe edited s Value.Sound := by
  have hbuild : (Work.ofInput (Requirement.ofValues · operator parts)).Safe edited s
      fun _ r => r.WellFormed :=
    Work.safe_ofInput hs (Requirement.walked_ofValues s operator parts) fun _ hr =>
      Requirement.wellFormed_of_sound hs hparts hr
  exact hbuild.bind fun r s₁ _ hs₁ hr => Work.safe_pure hs₁ (.requirement hr)

/-- Of sound arguments a construction makes sound objects. -/
theorem Construction.safe_build (c : Construction) (hs : s.Sound) (hargs : SoundValues s c.arguments) :
    c.build.Safe edited s Value.Sound := by
  cases c with
  | item name =>
    refine (Work.safe_ofChecked hs fun r hr => ?_).bind fun r s₁ _ hs₁ hr =>
      Work.safe_pure hs₁ (.requirement hr)
    exact Requirement.wellFormed_of_ofItem hr
  | composite operator parts => exact Term.safe_compositeOf hs (hargs parts (by simp [arguments]))
  | group op parts =>
    refine (Work.safe_ofChecked hs fun r hr => ?_).bind fun r s₁ _ hs₁ hr =>
      Work.safe_pure hs₁ (.requirement hr)
    exact Requirement.wellFormed_of_ofOperator (fun q hq => (hargs _ hq).wellFormed_requirement) hr
  | company name requirement =>
    refine (Work.safe_ofChecked hs fun c hc => ?_).bind fun c s₁ _ hs₁ hc =>
      Work.safe_pure hs₁ (.company hc)
    refine Company.wellFormed_of_ofValues (fun r hr => ?_) hc
    exact (hargs _ (by simp [arguments, hr])).wellFormed_requirement

/-! ## Terms -/

def SoundBindings (bindings : ByName Value) (s : Store) : Prop :=
  ∀ name v, bindings.get? name = some v → v.Sound s

theorem SoundBindings.mono {bindings : ByName Value} {s s' : Store} (hw : s.Within s')
    (h : SoundBindings bindings s) : SoundBindings bindings s' :=
  fun name v hv => (h name v hv).mono hw

def SoundEntries (s : Store) (es : List (Value × Value)) : Prop := ∀ e ∈ es, e.1.Sound s ∧ e.2.Sound s

namespace Term

theorem safe_numberOf (text : String) (hs : s.Sound) :
    (numberOf text).Safe edited s Value.Sound := by
  unfold numberOf
  split
  · exact Work.safe_pure hs (.plain rfl)
  · exact Work.safe_ofNew (Store.keeps_newNotANumber s) hs.newNotANumber (.plain rfl)
  · exact Work.safe_throw hs

theorem safe_setOf {items : List Value} (hs : s.Sound) (hitems : SoundValues s items) :
    (setOf items).Safe edited s Value.Sound := by
  refine (Work.safe_forM_unchangeable items hs).bind fun _ s₁ hkeeps hs₁ _ => ?_
  have hmembers : SoundValues s₁ (s₁.members items) := fun v hv =>
    (hitems v (Store.mem_of_mem_members hv)).mono hkeeps.toWithin
  exact Work.safe_ofNew (Store.keeps_newSet s₁ _) (hs₁.newSet hmembers)
    (.set (by simp [Store.newSet]))

theorem safe_putAll {es : List (Value × Value)} (hs : s.Sound) (hes : SoundEntries s es) :
    (putAll es).Safe edited s Value.Sound := by
  refine Work.safe_get_bind (Work.safe_newTable hs ?_)
  exact Store.mem_foldl_putEntry hes fun _ he => absurd he List.not_mem_nil

theorem safe_valueOf {bindings : ByName Value} (name : String) (hs : s.Sound)
    (hb : SoundBindings bindings s) : (valueOf bindings name).Safe edited s Value.Sound := by
  unfold valueOf
  split
  · rename_i v hv
    exact Work.safe_pure hs (hb name v hv)
  · exact Work.safe_throw hs

mutual
/-- Terms are evaluated safely: parts before the whole, each in the store that the one before it
left, where what was built before is still sound. -/
theorem safe_eval {bindings : ByName Value} :
    ∀ (t : Term) {s : Store}, s.Sound → SoundBindings bindings s →
      (t.eval bindings).Safe edited s Value.Sound
  | none, _, hs, _ | bool _, _, hs, _ | int _, _, hs, _ | float _, _, hs, _ | text _, _, hs, _
  | operator _, _, hs, _ | bytes _, _, hs, _ => Work.safe_pure hs (.plain rfl)
  | number digits, _, hs, _ => safe_numberOf digits hs
  | list items, _, hs, hb => by
    refine (safe_evalAll items hs hb).bind fun vs s₁ _ hs₁ hvs => ?_
    exact Work.safe_newList hs₁ hvs
  | tuple items, _, hs, hb => by
    refine (safe_evalAll items hs hb).bind fun vs s₁ _ hs₁ hvs => ?_
    exact Work.safe_pure hs₁ (.tuple hvs)
  | set items, _, hs, hb => by
    refine (safe_evalAll items hs hb).bind fun vs s₁ _ hs₁ hvs => ?_
    exact safe_setOf hs₁ hvs
  | iterator items, _, hs, hb => by
    refine (safe_evalAll items hs hb).bind fun vs s₁ _ hs₁ hvs => ?_
    exact Work.safe_ofNew (Store.keeps_newIterator s₁ vs) (hs₁.newIterator hvs)
      (.iterator (by simp [Store.newIterator]))
  | table entries, _, hs, hb => by
    refine (safe_evalEntries entries hs hb).bind fun es s₁ _ hs₁ hes => ?_
    exact safe_putAll hs₁ hes
  | item name, _, hs, hb => by
    refine (safe_eval name hs hb).bind fun v s₁ _ hs₁ hv => ?_
    exact (Construction.item v).safe_build hs₁ (by simpa [Construction.arguments, SoundValues])
  | composite op parts, _, hs, hb => by
    refine (safe_eval op hs hb).bind fun o s₁ hkeeps hs₁ ho => ?_
    refine (safe_eval parts hs₁ (hb.mono hkeeps.toWithin)).bind fun ps s₂ hkeeps₂ hs₂ hps => ?_
    have ho₂ := ho.mono hkeeps₂.toWithin
    exact (Construction.composite o ps).safe_build hs₂
      (by simp [Construction.arguments, SoundValues, ho₂, hps])
  | group op parts, _, hs, hb => by
    refine (safe_evalAll parts hs hb).bind fun vs s₁ _ hs₁ hvs => ?_
    exact (Construction.group op vs).safe_build hs₁ hvs
  | company name requirement, _, hs, hb => by
    refine (safe_eval name hs hb).bind fun n s₁ hkeeps hs₁ hn => ?_
    refine (safe_eval requirement hs₁ (hb.mono hkeeps.toWithin)).bind fun w s₂ hkeeps₂ hs₂ hw => ?_
    have hn₂ := hn.mono hkeeps₂.toWithin
    exact (Construction.company n w).safe_build hs₂
      (by simp [Construction.arguments, SoundValues, hn₂, hw])
  | record name requirement, _, hs, hb => by
    refine (safe_eval name hs hb).bind fun n s₁ hkeeps hs₁ hn => ?_
    refine (safe_eval requirement hs₁ (hb.mono hkeeps.toWithin)).bind fun w s₂ hkeeps₂ hs₂ hw => ?_
    exact Work.safe_pure hs₂ (.record (hn.mono hkeeps₂.toWithin) hw)
  | stored name, _, hs, hb => safe_valueOf name hs hb
termination_by structural t => t

theorem safe_evalAll {bindings : ByName Value} :
    ∀ (ts : List Term) {s : Store}, s.Sound → SoundBindings bindings s →
      (evalAll bindings ts).Safe edited s SoundValues
  | [], _, hs, _ => Work.safe_pure hs fun _ hv => absurd hv List.not_mem_nil
  | t :: ts, _, hs, hb => by
    refine (safe_eval t hs hb).bind fun v s₁ hkeeps hs₁ hv => ?_
    refine (safe_evalAll ts hs₁ (hb.mono hkeeps.toWithin)).bind fun vs s₂ hkeeps₂ hs₂ hvs => ?_
    exact Work.safe_pure hs₂ (List.forall_mem_cons.mpr ⟨hv.mono hkeeps₂.toWithin, hvs⟩)
termination_by structural ts => ts

theorem safe_evalEntries {bindings : ByName Value} :
    ∀ (es : List (Term × Term)) {s : Store}, s.Sound → SoundBindings bindings s →
      (evalEntries bindings es).Safe edited s SoundEntries
  | [], _, hs, _ => Work.safe_pure hs fun _ he => absurd he List.not_mem_nil
  | (key, value) :: rest, _, hs, hb => by
    refine (safe_eval key hs hb).bind fun k s₁ hkeeps₁ hs₁ hk => ?_
    have hb₁ := hb.mono hkeeps₁.toWithin
    refine (safe_eval value hs₁ hb₁).bind fun v s₂ hkeeps₂ hs₂ hv => ?_
    have hb₂ := hb₁.mono hkeeps₂.toWithin
    refine (Work.safe_unchangeable k hs₂).bind fun _ s₃ hkeeps₃ hs₃ _ => ?_
    have hb₃ := hb₂.mono hkeeps₃.toWithin
    refine (safe_evalEntries rest hs₃ hb₃).bind fun es s₄ hkeeps₄ hs₄ hes => ?_
    have hvalue : s₂.Within s₄ := (hkeeps₃.trans hkeeps₄).toWithin
    have hkey : s₁.Within s₄ := hkeeps₂.toWithin.trans hvalue
    exact Work.safe_pure hs₄ (List.forall_mem_cons.mpr ⟨⟨hk.mono hkey, hv.mono hvalue⟩, hes⟩)
termination_by structural es => es
end

/-- The evaluation of a term edits nothing, whatever comes of it. -/
theorem keeps_of_run {bindings : ByName Value} {t : Term} {r : Except Fault Value} {s' : Store}
    (hs : s.Sound) (hb : SoundBindings bindings s) (h : (t.eval bindings).run.run s = (r, s')) :
    s.Keeps [] s' ∧ s'.Sound := by
  obtain ⟨hkeeps, hsound, -⟩ := Work.Safe.of_run (safe_eval t hs hb) h
  exact ⟨hkeeps, hsound⟩

end Term

end Candidacy.Session
