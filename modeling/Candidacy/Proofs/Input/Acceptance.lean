import Candidacy.Proofs.Input.Companies

/-!
# What is accepted and what is refused

Companies are accepted as a collection of companies, possessions as a collection of strings that is
not itself a string. Whatever else is handed over is refused with one fault: for being missing, for
not being a collection, or for the first element that does not belong.

- `Companies.Listed`, `Possessions.Listed`: what is accepted, and what it stands for.
- `Companies.Refused`, `Possessions.Refused`: what is refused, and why.
- `Separate`: two values that are not one and the same iterator, so that a walk through one leaves
  the other alone.
- `Report.reads_iff`: of separate values a run reads what it accepts.
-/

namespace Candidacy

variable {s : Store} {v : Value}

/-! ## Companies -/

namespace Companies

/-- The value is a collection of just these companies. -/
def Listed (s : Store) (v : Value) (cs : List Company) : Prop :=
  s.elements? v = some (cs.map .company)

/-- The value is no collection of companies, for this reason. -/
inductive Refused (s : Store) : Value → InputFault → Prop
  | missing : Refused s .none (.invalid .companiesMissing)
  | notIterable {v : Value} : v ≠ .none → s.elements? v = none → Refused s v (.notIterable v.kind)
  | element {v w : Value} {before : List Company} {after : List Value} :
    s.elements? v = some (before.map .company ++ w :: after) → w.company? = none →
      Refused s v (.invalid (.companyKind w.kind))

theorem checked_eq_error_iff {vs : List Value} {why : InputFault} :
    checked vs = .error why ↔ ∃ (before : List Company) (w : Value) (after : List Value),
      vs = before.map .company ++ w :: after ∧ w.company? = none ∧
        why = .invalid (.companyKind w.kind) := by
  rw [checked_eq, mapError_eq_error_iff]
  constructor
  · rintro ⟨kind, hkind, rfl⟩
    obtain ⟨before, w, after, hvs, hw, rfl⟩ :=
      (Value.readAll_eq_error_iff Value.company?_eq_some_iff).mp hkind
    exact ⟨before, w, after, hvs, hw, rfl⟩
  · rintro ⟨before, w, after, hvs, hw, rfl⟩
    exact ⟨w.kind, (Value.readAll_eq_error_iff Value.company?_eq_some_iff).mpr
      ⟨before, w, after, hvs, hw, rfl⟩, rfl⟩

theorem ofValue_of_elements {vs : List Value} (hvs : s.elements? v = some vs) :
    ofValue s v = (checked vs, s.exhaust v) := by
  unfold ofValue
  split
  · cases hvs
  · rw [walk, hvs]
    rfl

theorem ofValue_of_not_iterable (hnone : v ≠ .none) (hvs : s.elements? v = none) :
    ofValue s v = (.error (.notIterable v.kind), s) := by
  unfold ofValue
  split
  · exact absurd rfl hnone
  · rw [walk, hvs]
    rfl

/-- The companies of a collection of companies are accepted, and nothing else is. -/
theorem ofValue_eq_ok_iff {s' : Store} {cs : List Company} :
    ofValue s v = (.ok cs, s') ↔ Listed s v cs ∧ s' = s.exhaust v := by
  cases hvs : s.elements? v with
  | some vs => simp [ofValue_of_elements hvs, Listed, hvs, checked_eq_ok_iff, eq_comm (a := s')]
  | none =>
    by_cases hnone : v = .none
    · subst hnone
      simp [ofValue, Listed, hvs]
    · simp [ofValue_of_not_iterable hnone hvs, Listed, hvs]

theorem ofValue_eq_error_iff {why : InputFault} :
    (ofValue s v).1 = .error why ↔ Refused s v why := by
  constructor
  · intro h
    by_cases hnone : v = .none
    · subst hnone
      cases h
      exact .missing
    · cases hvs : s.elements? v with
      | none =>
        rw [ofValue_of_not_iterable hnone hvs] at h
        cases h
        exact .notIterable hnone hvs
      | some vs =>
        rw [ofValue_of_elements hvs, checked_eq_error_iff] at h
        obtain ⟨before, w, after, rfl, hw, rfl⟩ := h
        exact .element hvs hw
  · intro h
    cases h with
    | missing => rfl
    | notIterable hnone hvs => rw [ofValue_of_not_iterable hnone hvs]
    | element hvs hw =>
      rw [ofValue_of_elements hvs]
      exact checked_eq_error_iff.mpr ⟨_, _, _, rfl, hw, rfl⟩

end Companies

/-! ## Possessions -/

/-- A string or bytes: one thing and no collection, though there is a way through it. -/
def Value.isSingle : Value → Bool
  | .text _ | .operator _ | .bytes _ => true
  | _ => false

namespace Possessions

/-- The value is a collection of just these strings, and not a string itself. -/
def Listed (s : Store) (v : Value) (words : List Word) : Prop :=
  v.isSingle = false ∧ s.elements? v = some (words.map Word.toValue)

inductive Refused (s : Store) : Value → InputFault → Prop
  | missing : Refused s .none (.invalid .possessionsMissing)
  | single {v : Value} : v.isSingle = true → Refused s v (.invalid .possessionsText)
  | notIterable {v : Value} : v ≠ .none → s.elements? v = none → Refused s v (.notIterable v.kind)
  | element {v w : Value} {before : List Word} {after : List Value} : v.isSingle = false →
    s.elements? v = some (before.map Word.toValue ++ w :: after) → w.word? = none →
      Refused s v (.invalid (.possessionKind w.kind))

theorem checkedWords_eq_error_iff {vs : List Value} {why : InputFault} :
    Report.checkedWords vs = .error why ↔
      ∃ (before : List Word) (w : Value) (after : List Value),
        vs = before.map Word.toValue ++ w :: after ∧ w.word? = none ∧
          why = .invalid (.possessionKind w.kind) := by
  rw [Report.checkedWords_eq, mapError_eq_error_iff]
  constructor
  · rintro ⟨kind, hkind, rfl⟩
    obtain ⟨before, w, after, hvs, hw, rfl⟩ :=
      (Value.readAll_eq_error_iff Value.word?_eq_some_iff).mp hkind
    exact ⟨before, w, after, hvs, hw, rfl⟩
  · rintro ⟨before, w, after, hvs, hw, rfl⟩
    exact ⟨w.kind, (Value.readAll_eq_error_iff Value.word?_eq_some_iff).mpr
      ⟨before, w, after, hvs, hw, rfl⟩, rfl⟩

theorem taken_map_toValue (words : List Word) : taken (words.map Word.toValue) = words.length := by
  induction words with
  | nil => rfl
  | cons w words ih =>
    rw [List.map_cons, taken, Value.word?_eq_some_iff.mpr rfl, ih]
    rfl

theorem ofValue_of_isSingle (h : v.isSingle = true) :
    ofValue s v = (.error (.invalid .possessionsText), s) := by
  cases v
  case text | operator | bytes => rfl
  all_goals cases h

theorem ofValue_of_elements (h : v.isSingle = false) {vs : List Value}
    (hvs : s.elements? v = some vs) :
    ofValue s v = (Report.checkedWords vs, s.advance v (taken vs)) := by
  unfold ofValue
  split
  · cases hvs
  · cases h
  · cases h
  · cases h
  · rw [hvs]
    rfl

theorem ofValue_of_not_iterable (hnone : v ≠ .none) (hvs : s.elements? v = none) :
    ofValue s v = (.error (.notIterable v.kind), s) := by
  unfold ofValue
  split
  · exact absurd rfl hnone
  · cases hvs
  · cases hvs
  · cases hvs
  · rw [hvs]

theorem ofValue_eq_ok_iff {s' : Store} {words : List Word} :
    ofValue s v = (.ok words, s') ↔ Listed s v words ∧ s' = s.exhaust v := by
  cases hsingle : v.isSingle with
  | true => simp [ofValue_of_isSingle hsingle, Listed, hsingle]
  | false =>
    cases hvs : s.elements? v with
    | none =>
      by_cases hnone : v = .none
      · subst hnone
        simp [ofValue, Listed, hvs]
      · simp [ofValue_of_not_iterable hnone hvs, Listed, hvs]
    | some vs =>
      rw [ofValue_of_elements hsingle hvs, Listed, hvs, Prod.mk.injEq, Option.some.injEq,
        Report.checkedWords_eq_ok_iff, and_iff_right hsingle, eq_comm (a := s')]
      refine and_congr_right fun h => ?_
      rw [h, taken_map_toValue, Store.exhaust, hvs, h, Option.getD_some, List.length_map]

theorem ofValue_eq_error_iff {why : InputFault} :
    (ofValue s v).1 = .error why ↔ Refused s v why := by
  constructor
  · intro h
    by_cases hnone : v = .none
    · subst hnone
      cases h
      exact .missing
    · cases hsingle : v.isSingle with
      | true =>
        rw [ofValue_of_isSingle hsingle] at h
        cases h
        exact .single hsingle
      | false =>
        cases hvs : s.elements? v with
        | none =>
          rw [ofValue_of_not_iterable hnone hvs] at h
          cases h
          exact .notIterable hnone hvs
        | some vs =>
          rw [ofValue_of_elements hsingle hvs, checkedWords_eq_error_iff] at h
          obtain ⟨before, w, after, rfl, hw, rfl⟩ := h
          exact .element hsingle hvs hw
  · intro h
    cases h with
    | missing => rfl
    | single hsingle => rw [ofValue_of_isSingle hsingle]
    | notIterable hnone hvs => rw [ofValue_of_not_iterable hnone hvs]
    | element hsingle hvs hw =>
      rw [ofValue_of_elements hsingle hvs]
      exact checkedWords_eq_error_iff.mpr ⟨_, _, _, rfl, hw, rfl⟩

end Possessions

/-! ## Companies and possessions together -/

/-- The values are not one and the same iterator. -/
def Separate (a b : Value) : Prop := ∀ ref, a = .iterator ref → b ≠ .iterator ref

theorem Separate.symm {a b : Value} (h : Separate a b) : Separate b a :=
  fun ref hb ha => h ref ha hb

/-- A walk through one of two separate values leaves the other alone. -/
theorem Separate.elements?_exhaust {a b : Value} (h : Separate a b) (s : Store) :
    (s.exhaust a).elements? b = s.elements? b := by
  cases a
  case iterator ref =>
    cases b
    case iterator ref' =>
      have hne : ref ≠ ref' := fun e => h ref rfl (e ▸ rfl)
      simp [Store.exhaust, Store.advance, Store.elements?, Store.remaining,
        Array.getElem?_setIfInBounds_ne hne]
    all_goals rfl
  all_goals rfl

namespace Screening.Input

variable {companies possessions : Value}

theorem ofValues_of_listed {cs : List Company} (h : Companies.Listed s companies cs) :
    ofValues s companies possessions =
      ((Possessions.ofValue (s.exhaust companies) possessions).1.map fun words =>
          ⟨cs, words.map (·.text)⟩,
        (Possessions.ofValue (s.exhaust companies) possessions).2) := by
  rw [ofValues, Companies.ofValue_eq_ok_iff.mpr ⟨h, rfl⟩]

theorem ofValues_of_error {s' : Store} {why : InputFault}
    (h : Companies.ofValue s companies = (.error why, s')) :
    ofValues s companies possessions = (.error why, s') := by
  rw [ofValues, h]

theorem ofValues_of_lists {cs : List Company} {words : List Word}
    (hc : Companies.Listed s companies cs)
    (hp : Possessions.Listed (s.exhaust companies) possessions words) :
    ofValues s companies possessions =
      (.ok ⟨cs, words.map (·.text)⟩, (s.exhaust companies).exhaust possessions) := by
  rw [ofValues_of_listed hc, Possessions.ofValue_eq_ok_iff.mpr ⟨hp, rfl⟩]
  rfl

/-- Input is accepted exactly as a collection of companies and, once those have been walked through,
a collection of strings. -/
theorem faultOf_ofValues_eq_none_iff :
    faultOf (ofValues s companies possessions).1 = none ↔
      ∃ cs words, Companies.Listed s companies cs ∧
        Possessions.Listed (s.exhaust companies) possessions words := by
  constructor
  · intro h
    cases hc : Companies.ofValue s companies with
    | mk r s' =>
      cases r with
      | error why =>
        rw [ofValues_of_error hc] at h
        cases h
      | ok cs =>
        have hlisted := (Companies.ofValue_eq_ok_iff.mp hc).1
        rw [ofValues_of_listed hlisted, faultOf_map, faultOf_eq_none_iff] at h
        obtain ⟨words, hwords⟩ := h
        have hp := Possessions.ofValue_eq_ok_iff.mp (Prod.ext hwords rfl)
        exact ⟨cs, words, hlisted, hp.1⟩
  · rintro ⟨cs, words, hc, hp⟩
    rw [ofValues_of_lists hc hp]
    rfl

/-- What is wrong with the companies comes before what is wrong with the possessions. -/
theorem faultOf_ofValues_eq_some_iff {why : InputFault} :
    faultOf (ofValues s companies possessions).1 = some why ↔
      Companies.Refused s companies why ∨
        (∃ cs, Companies.Listed s companies cs) ∧
          Possessions.Refused (s.exhaust companies) possessions why := by
  cases hc : Companies.ofValue s companies with
  | mk r s' =>
    cases r with
    | error e =>
      have hnot : ¬ ∃ cs, Companies.Listed s companies cs := by
        rintro ⟨cs, h⟩
        rw [Companies.ofValue_eq_ok_iff.mpr ⟨h, rfl⟩] at hc
        cases hc
      rw [ofValues_of_error hc, ← Companies.ofValue_eq_error_iff, hc, faultOf_eq_some_iff,
        or_iff_left fun h : (∃ cs, Companies.Listed s companies cs) ∧ _ => hnot h.1]
      simp only [Except.error.injEq]
    | ok cs =>
      have hlisted := (Companies.ofValue_eq_ok_iff.mp hc).1
      have hnot : ¬ Companies.Refused s companies why := by
        rw [← Companies.ofValue_eq_error_iff, hc]
        exact fun h => by cases h
      rw [ofValues_of_listed hlisted, faultOf_map, faultOf_eq_some_iff,
        Possessions.ofValue_eq_error_iff, or_iff_right hnot, and_iff_right ⟨cs, hlisted⟩]

end Screening.Input

namespace Report

variable {companies possessions : Value} {cs : List Company} {words : List Word}

theorem fst_walk_eq_ok_iff {vs : List Value} :
    (Companies.walk s v).1 = .ok vs ↔ s.elements? v = some vs := by
  unfold Companies.walk
  cases s.elements? v with
  | none | some vs => simp

theorem fst_companiesOf_eq_ok_iff (hnone : companies ≠ .none) {vs : List Value} :
    (companiesOf s companies).1 = .ok vs ↔ s.elements? companies = some vs := by
  rw [← fst_walk_eq_ok_iff, companiesOf]
  exact hnone

theorem possessionsOf_of_isSingle (h : possessions.isSingle = true) :
    possessionsOf s possessions = (.error (.invalid .possessionsNotCollection), s) := by
  cases possessions
  case text | operator | bytes => rfl
  all_goals cases h

theorem possessionsOf_eq_walk (hnone : possessions ≠ .none) (h : possessions.isSingle = false) :
    possessionsOf s possessions = Companies.walk s possessions := by
  unfold possessionsOf
  split
  · exact absurd rfl hnone
  · cases h
  · cases h
  · cases h
  · rfl

theorem possessionsOf_eq_ok_iff :
    possessionsOf s possessions = (.ok (words.map Word.toValue), s.exhaust possessions) ↔
      Possessions.Listed s possessions words := by
  by_cases hnone : possessions = .none
  · subst hnone
    simp [possessionsOf, Possessions.Listed, Store.elements?]
  · cases hsingle : possessions.isSingle with
    | true => simp [possessionsOf_of_isSingle hsingle, Possessions.Listed, hsingle]
    | false =>
      rw [possessionsOf_eq_walk hnone hsingle, Possessions.Listed, Companies.walk]
      cases hvs : s.elements? possessions with
      | none | some vs => simp [hsingle]

/-- Of separate values a run reads a collection of companies and a collection of strings, though it
walks through them the other way round. -/
theorem reads_iff (hnone : companies ≠ .none) (hsep : Separate companies possessions) :
    Reads s companies possessions cs words ↔
      Companies.Listed s companies cs ∧ Possessions.Listed s possessions words := by
  have hgiven : possessionsOf s possessions =
      (.ok (words.map Word.toValue), s.exhaust possessions) ↔ Possessions.Listed s possessions words
    := possessionsOf_eq_ok_iff
  have hlisted : (companiesOf (s.exhaust possessions) companies).1 = .ok (cs.map .company) ↔
      Companies.Listed s companies cs := by
    rw [fst_companiesOf_eq_ok_iff hnone, hsep.symm.elements?_exhaust, Companies.Listed]
  -- the walk through the possessions comes first but leaves the companies alone
  rw [← hgiven, ← hlisted, and_comm]
  exact ⟨fun h => ⟨h.given, h.listed⟩, fun h => ⟨h.1, h.2⟩⟩

end Report

end Candidacy
