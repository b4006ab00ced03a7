import Candidacy.Session.Term

/-!
# Computations on the store

How a computation that may fail goes on: after a success with the value and the state as it is then,
after a fault not at all.
-/

namespace Candidacy.Session.Work

variable {α β : Type} {s s' : Store}

section Bind

variable {σ : Type} {x : ExceptT Fault (StateM σ) α} {f : α → ExceptT Fault (StateM σ) β} {s s' : σ}

theorem run_bind_ok {a : α} (h : x.run.run s = (.ok a, s')) :
    (x >>= f).run.run s = (f a).run.run s' := by
  rw [ExceptT.run_bind, StateT.run_bind, h]
  rfl

theorem run_bind_error {e : Fault} (h : x.run.run s = (.error e, s')) :
    (x >>= f).run.run s = (.error e, s') := by
  rw [ExceptT.run_bind, StateT.run_bind, h]
  rfl

theorem run_bind_pure {r : Except Fault α} (f : α → β) (h : x.run.run s = (r, s')) :
    (x >>= fun a => pure (f a)).run.run s = (r.map f, s') := by
  cases r with
  | error e => exact run_bind_error h
  | ok a => exact run_bind_ok h

/-- What fails as a whole failed at the first computation or, after it, at the second. -/
theorem run_bind_eq_error {e : Fault} (h : (x >>= f).run.run s = (.error e, s')) :
    x.run.run s = (.error e, s') ∨
      ∃ a s₁, x.run.run s = (.ok a, s₁) ∧ (f a).run.run s₁ = (.error e, s') := by
  cases hx : x.run.run s with
  | mk r s₁ =>
    cases r with
    | error e' =>
      rw [run_bind_error hx] at h
      cases h
      exact .inl rfl
    | ok a =>
      rw [run_bind_ok hx] at h
      exact .inr ⟨a, s₁, rfl, h⟩

theorem run_bind_eq_ok {b : β} (h : (x >>= f).run.run s = (.ok b, s')) :
    ∃ a s₁, x.run.run s = (.ok a, s₁) ∧ (f a).run.run s₁ = (.ok b, s') := by
  cases hx : x.run.run s with
  | mk r s₁ =>
    cases r with
    | error e =>
      rw [run_bind_error hx] at h
      cases h
    | ok a =>
      rw [run_bind_ok hx] at h
      exact ⟨a, s₁, rfl, h⟩

theorem fst_ok_of_bind {b : β} (h : ((x >>= f).run.run s).1 = .ok b) :
    ∃ a, (x.run.run s).1 = .ok a := by
  have hrun : (x >>= f).run.run s = (.ok b, ((x >>= f).run.run s).2) := Prod.ext h rfl
  obtain ⟨a, s₁, ha, -⟩ := run_bind_eq_ok hrun
  exact ⟨a, by rw [ha]⟩

end Bind

theorem run_ofInput (g : Store → Except InputFault α × Store) (s : Store) :
    (ofInput g).run.run s = ((g s).1.mapError .input, (g s).2) := rfl

theorem run_ofInput_error {g : Store → Except InputFault α × Store} {e : InputFault}
    (h : g s = (.error e, s')) : (ofInput g).run.run s = (.error (.input e), s') := by
  rw [run_ofInput, h]
  rfl

theorem run_ofInput_ok {g : Store → Except InputFault α × Store} {a : α} (h : g s = (.ok a, s')) :
    (ofInput g).run.run s = (.ok a, s') := by
  rw [run_ofInput, h]
  rfl

theorem fst_ok_of_ofInput {g : Store → Except InputFault α × Store} {a : α}
    (h : ((ofInput g).run.run s).1 = .ok a) : (g s).1 = .ok a := by
  rw [run_ofInput] at h
  cases hg : (g s).1 with
  | error why =>
    rw [hg] at h
    cases h
  | ok b =>
    rw [hg] at h
    cases h
    rfl

theorem run_ofInput_map (g : Store → Except InputFault α × Store) (f : α → β) (s : Store) :
    (ofInput g >>= fun a => pure (f a)).run.run s = (((g s).1.map f).mapError .input, (g s).2) := by
  cases h : g s with
  | mk r s' =>
    cases r with
    | error e =>
      rw [run_bind_error (run_ofInput_error h)]
      rfl
    | ok a =>
      rw [run_bind_ok (run_ofInput_ok h)]
      rfl

end Candidacy.Session.Work
