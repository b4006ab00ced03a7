import Candidacy.Input.Companies

/-!
# Reading values one by one

Companies and strings are read off values in the same way: each value in turn, up to the first that
cannot be read, whose kind is then the fault. `readAll` is this way for any reading of one value.

- `readAll_eq_ok_iff`: accepted are the values that stand for what is read, and no others.
- `readAll_eq_error_iff`: the fault is that of the first value that cannot be read.
-/

namespace Candidacy

/-- What went wrong, if anything did. -/
def faultOf {ε α : Type} : Except ε α → Option ε
  | .ok _ => none
  | .error e => some e

section Results

variable {ε ε' α β : Type}

theorem faultOf_eq_none_iff {r : Except ε α} : faultOf r = none ↔ ∃ a, r = .ok a := by
  cases r <;> simp [faultOf]

theorem faultOf_eq_some_iff {r : Except ε α} {e : ε} : faultOf r = some e ↔ r = .error e := by
  cases r <;> simp [faultOf]

theorem faultOf_map (r : Except ε α) (f : α → β) : faultOf (r.map f) = faultOf r := by
  cases r <;> rfl

theorem faultOf_mapError (r : Except ε α) (f : ε → ε') :
    faultOf (r.mapError f) = (faultOf r).map f := by
  cases r <;> rfl

theorem mapError_eq_ok_iff {r : Except ε α} {f : ε → ε'} {a : α} :
    r.mapError f = .ok a ↔ r = .ok a := by
  constructor
  · intro h
    cases r with
    | ok b => cases h; rfl
    | error e => cases h
  · rintro rfl
    rfl

theorem mapError_eq_error_iff {r : Except ε α} {f : ε → ε'} {e' : ε'} :
    r.mapError f = .error e' ↔ ∃ e, r = .error e ∧ f e = e' := by
  constructor
  · intro h
    cases r with
    | ok a => cases h
    | error e => exact ⟨e, rfl, by cases h; rfl⟩
  · rintro ⟨e, rfl, rfl⟩
    rfl

end Results

def Word.toValue : Word → Value
  | .plain s => .text s
  | .operator op => .operator op

namespace Value

def company? : Value → Option Company
  | company c => some c
  | _ => Option.none

theorem company?_eq_some_iff {v : Value} {c : Company} : v.company? = some c ↔ v = company c := by
  constructor
  · intro h
    unfold company? at h
    split at h
    all_goals cases h
    rfl
  · rintro rfl
    rfl

theorem word?_eq_some_iff {v : Value} {w : Word} : v.word? = some w ↔ v = w.toValue := by
  constructor
  · intro h
    unfold word? at h
    split at h
    all_goals cases h
    all_goals rfl
  · rintro rfl
    cases w <;> rfl

variable {α : Type}

/-- What the values are read as, or the kind of the first that cannot be read. -/
def readAll (read : Value → Option α) : List Value → Except Kind (List α)
  | [] => .ok []
  | v :: vs =>
    match read v with
    | some a => (a :: ·) <$> readAll read vs
    | Option.none => .error v.kind

section Law

variable {read : Value → Option α} {toValue : α → Value}
  (hread : ∀ {v a}, read v = some a ↔ v = toValue a)
include hread

theorem readAll_cons (a : α) (vs : List Value) :
    readAll read (toValue a :: vs) = (a :: ·) <$> readAll read vs := by
  rw [readAll, hread.mpr rfl]

theorem readAll_eq_ok_iff {vs : List Value} {as : List α} :
    readAll read vs = .ok as ↔ vs = as.map toValue := by
  constructor
  · intro h
    fun_induction readAll read vs generalizing as with
    | case1 =>
      cases h
      rfl
    | case2 v vs a ha ih =>
      cases hrest : readAll read vs with
      | error kind => rw [hrest] at h; cases h
      | ok rest =>
        rw [hrest] at h
        cases h
        rw [ih hrest, List.map_cons, hread.mp ha]
    | case3 => cases h
  · rintro rfl
    induction as with
    | nil => rfl
    | cons a as ih =>
      rw [List.map_cons, readAll_cons hread, ih]
      rfl

theorem readAll_eq_error_iff {vs : List Value} {kind : Kind} :
    readAll read vs = .error kind ↔ ∃ (before : List α) (w : Value) (after : List Value),
      vs = before.map toValue ++ w :: after ∧ read w = Option.none ∧ kind = w.kind := by
  constructor
  · intro h
    fun_induction readAll read vs with
    | case1 => cases h
    | case2 v vs a ha ih =>
      cases hrest : readAll read vs with
      | ok rest => rw [hrest] at h; cases h
      | error k =>
        rw [hrest] at h
        cases h
        obtain ⟨before, w, after, rfl, hw⟩ := ih hrest
        exact ⟨a :: before, w, after, by rw [hread.mp ha]; rfl, hw⟩
    | case3 v vs hv =>
      cases h
      exact ⟨[], v, vs, rfl, hv, rfl⟩
  · rintro ⟨before, w, after, rfl, hw, rfl⟩
    induction before with
    | nil => rw [List.map_nil, List.nil_append, readAll, hw]
    | cons a before ih =>
      rw [List.map_cons, List.cons_append, readAll_cons hread, ih]
      rfl

end Law

end Value

theorem Companies.ofList_eq (vs : List Value) : ofList vs = Value.readAll Value.company? vs := by
  fun_induction ofList vs with
  | case1 => rfl
  | case2 c vs ih => rw [ih, Value.readAll_cons Value.company?_eq_some_iff]
  | case3 v vs hv =>
    have hnone : v.company? = none := by
      cases h : v.company? with
      | none => rfl
      | some c => exact (hv c (Value.company?_eq_some_iff.mp h)).elim
    rw [Value.readAll, hnone]

theorem Possessions.words_eq (vs : List Value) : words vs = Value.readAll Value.word? vs := by
  induction vs with
  | nil => rfl
  | cons v vs ih =>
    rw [words, Value.readAll, ih]
    cases v.word? with
    | none | some w => rfl

end Candidacy
