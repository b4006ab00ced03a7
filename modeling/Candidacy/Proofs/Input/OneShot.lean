import Candidacy.Proofs.Input.Acceptance
import Candidacy.Proofs.Value.Growth

/-!
# Reading from one-shot iterators

A reader makes the same of an iterator as of a list with the same elements, and leaves in the
iterator what it does not get to. Readers of other values leave the iterator alone.

- `Spares i f`: `f` leaves the iterator `i` alone, and does the same wherever the iterator is.
- `Takes f s list i lost`: of the iterator `i` in place of the list `f` makes the same, and it takes
  `lost` elements from it.
-/

namespace Candidacy

variable {ρ ρ' : Type} {s : Store} {v : Value} {i list lost : Nat}

namespace Store

/-- The iterator is left alone, and where it is makes no difference. -/
structure Spares (i : Nat) (f : Store → ρ × Store) : Prop where
  blind : ∀ s n, f (s.advance (.iterator i) n) = ((f s).1, (f s).2.advance (.iterator i) n)
  remaining : ∀ s, (f s).2.remaining i = s.remaining i

/-- The same comes of the iterator as of the list, and some elements of the iterator are gone. -/
structure Takes (f : Value → Store → ρ × Store) (s : Store) (list i lost : Nat) : Prop where
  same : f (.iterator i) s = ((f (.list list) s).1, (f (.list list) s).2.advance (.iterator i) lost)
  remaining : (f (.list list) s).2.remaining i = s.remaining i

/-! ## Composition -/

theorem spares_of_same {f : Store → ρ × Store} {r : ρ} (h : ∀ s, f s = (r, s)) : Spares i f where
  blind s n := by rw [h, h]
  remaining s := by rw [h]

/-- A walk through another value spares the iterator, whatever it makes of the elements. -/
theorem spares_of_elements (hv : v ≠ .iterator i) {f : Store → ρ × Store} (otherwise : ρ)
    (make : List Value → ρ) (count : List Value → Nat)
    (hnone : ∀ s, s.elements? v = none → f s = (otherwise, s))
    (hsome : ∀ s vs, s.elements? v = some vs → f s = (make vs, s.advance v (count vs))) :
    Spares i f where
  blind s n := by
    cases h : s.elements? v with
    | none => rw [hnone _ ((elements?_advance hv s n).trans h), hnone s h]
    | some vs =>
      rw [hsome _ vs ((elements?_advance hv s n).trans h), hsome s vs h, advance_advance hv]
  remaining s := by
    cases h : s.elements? v with
    | none => rw [hnone s h]
    | some vs =>
      rw [hsome s vs h]
      exact remaining_advance_other hv s _

theorem Spares.andThen {f : Store → ρ × Store} {k : ρ → Store → ρ' × Store} (h : Spares i f)
    (hk : ∀ r, Spares i (k r)) : Spares i fun s => k (f s).1 (f s).2 where
  blind s n := by
    rw [h.blind, (hk _).blind]
  remaining s := ((hk _).remaining _).trans (h.remaining s)

namespace Takes

variable {f : Value → Store → ρ × Store}

theorem of_same {r : ρ × Store} (h : ∀ v, f v s = r) (hr : r.2.remaining i = s.remaining i) :
    Takes f s list i 0 where
  same := by rw [h, h, advance_zero]
  remaining := by rw [h, hr]

theorem of_elements (hsame : s.remaining i = s.listItems list) (make : List Value → ρ)
    (count : List Value → Nat)
    (hiterator : f (.iterator i) s =
      (make (s.remaining i), s.advance (.iterator i) (count (s.remaining i))))
    (hlist : f (.list list) s = (make (s.listItems list), s)) :
    Takes f s list i (count (s.remaining i)) where
  same := by rw [hiterator, hlist, hsame]
  remaining := by rw [hlist]

theorem andThen {k : ρ → Store → ρ' × Store} (h : Takes f s list i lost)
    (hk : ∀ r, Spares i (k r)) : Takes (fun v s => k (f v s).1 (f v s).2) s list i lost where
  same := by
    rw [h.same, (hk _).blind]
  remaining := ((hk _).remaining _).trans h.remaining

theorem of_after {s₁ : Store} (h : Takes f s₁ list i lost) {g : Value → Store → ρ × Store}
    (hg : ∀ v, g v s = f v s₁) (hr : s₁.remaining i = s.remaining i) : Takes g s list i lost where
  same := by rw [hg, hg, h.same]
  remaining := by rw [hg, h.remaining, hr]

/-- The iterator is left with what was not taken from it. -/
theorem left (h : Takes f s list i lost) :
    (f (.iterator i) s).2.remaining i = (s.remaining i).drop lost := by
  rw [h.same, remaining_advance, if_pos rfl, h.remaining]

end Takes

end Store

open Store (Spares Takes)

/-! ## Readers of other values -/

section Other

variable (hv : v ≠ .iterator i)
include hv

theorem Companies.spares_walk : Spares i (Companies.walk · v) :=
  Store.spares_of_elements hv (.error (.notIterable v.kind)) .ok List.length
    (fun s h => by rw [walk, h])
    (fun s vs h => by rw [walk, h, Store.exhaust_of_elements h])

theorem Companies.spares_ofValue : Spares i (Companies.ofValue · v) := by
  by_cases hnone : v = .none
  · subst hnone
    exact Store.spares_of_same fun _ => rfl
  · exact Store.spares_of_elements hv (.error (.notIterable v.kind)) checked List.length
      (fun s h => ofValue_of_not_iterable hnone h)
      (fun s vs h => by rw [ofValue_of_elements h, Store.exhaust_of_elements h])

theorem Possessions.spares_ofValue : Spares i (Possessions.ofValue · v) := by
  by_cases hnone : v = .none
  · subst hnone
    exact Store.spares_of_same fun _ => rfl
  · cases hsingle : v.isSingle with
    | true => exact Store.spares_of_same fun _ => ofValue_of_isSingle hsingle
    | false =>
      exact Store.spares_of_elements hv (.error (.notIterable v.kind)) Report.checkedWords taken
        (fun s h => ofValue_of_not_iterable hnone h)
        (fun s vs h => ofValue_of_elements hsingle h)

theorem Report.spares_companiesOf : Spares i (Report.companiesOf · v) := by
  by_cases hnone : v = .none
  · subst hnone
    exact Store.spares_of_same fun _ => rfl
  · have hwalk : (companiesOf · v) = (Companies.walk · v) := by
      funext s
      rw [companiesOf]
      exact hnone
    rw [hwalk]
    exact Companies.spares_walk hv

end Other

/-! ## Readers of the iterator -/

/-- Companies that are rejected leave the possessions untouched. -/
theorem Screening.Input.takes_possessions_of_error {companies : Value}
    (hother : companies ≠ .iterator i) {why : InputFault}
    (h : (Companies.ofValue s companies).1 = .error why) :
    Takes (fun v s => Screening.Input.ofValues s companies v) s list i 0 := by
  have hleft := (Companies.spares_ofValue hother).remaining s
  cases hrun : Companies.ofValue s companies with
  | mk r s₁ =>
    rw [hrun] at h hleft
    cases h
    exact .of_same (fun v => by rw [ofValues, hrun]) hleft

section Iterator

variable (hsame : s.remaining i = s.listItems list)
include hsame

theorem Requirement.takes_ofValues {operator : Value} {op : Operator}
    (hop : Operator.ofValue s operator = .ok op) :
    Takes (fun v s => Requirement.ofValues s operator v) s list i (s.remaining i).length :=
  .of_elements hsame (fun vs => (ofOperator op vs).mapError .invalid) List.length
    (by rw [ofValues, hop]; rfl)
    (by rw [ofValues, hop]; rfl)

theorem Possessions.takes_ofValue :
    Takes (fun v s => Possessions.ofValue s v) s list i (taken (s.remaining i)) :=
  .of_elements hsame Report.checkedWords taken (ofValue_of_elements rfl rfl)
    (ofValue_of_elements rfl rfl)

theorem Possessions.takes_normalForms :
    Takes (fun v s => Possessions.normalForms s v) s list i (taken (s.remaining i)) := by
  have hforms (r : Except InputFault (List Word)) :
      Spares i fun s => (r.map fun ws => heldItems (ws.map (·.text)), s) :=
    Store.spares_of_same fun _ => rfl
  exact (takes_ofValue hsame).andThen hforms

theorem Companies.takes_ofValue :
    Takes (fun v s => Companies.ofValue s v) s list i (s.remaining i).length :=
  .of_elements hsame checked List.length (ofValue_of_elements rfl) (ofValue_of_elements rfl)

theorem Companies.takes_ofRecordCollection :
    Takes (fun v s => Companies.ofRecordCollection s v) s list i (ofRecords (s.remaining i)).2 :=
  .of_elements hsame (ofRecords · |>.1) (ofRecords · |>.2) rfl rfl

theorem Report.takes_possessionsOf :
    Takes (fun v s => Report.possessionsOf s v) s list i (s.remaining i).length :=
  .of_elements hsame .ok List.length rfl rfl

theorem Screening.Input.takes_possessions_of_ok {companies : Value}
    (hother : companies ≠ .iterator i) {cs : List Company}
    (h : (Companies.ofValue s companies).1 = .ok cs) :
    Takes (fun v s => Screening.Input.ofValues s companies v) s list i
      (Possessions.taken (s.remaining i)) := by
  have hleft := (Companies.spares_ofValue hother).remaining s
  cases hrun : Companies.ofValue s companies with
  | mk r s₁ =>
    rw [hrun] at h hleft
    cases h
    have hitems : s₁.listItems list = s.listItems list := by
      rw [(Companies.ofValue_eq_ok_iff.mp hrun).2]
      exact Store.listItems_advance s companies _ list
    have htakes := (Possessions.takes_ofValue (hleft.trans (hsame.trans hitems.symm))).andThen
      (k := fun r s => (r.map fun words => (⟨cs, words.map Word.text⟩ : Screening.Input), s))
      fun _ => Store.spares_of_same fun _ => rfl
    rw [hleft] at htakes
    exact htakes.of_after (fun v => by rw [ofValues, hrun]) hleft

/-- Companies are taken to the end, whatever comes of them and of the possessions. -/
theorem Screening.Input.takes_companies {possessions : Value} (hother : possessions ≠ .iterator i) :
    Takes (fun v s => Screening.Input.ofValues s v possessions) s list i
      (s.remaining i).length := by
  -- what follows the walk through the companies
  let next (r : Except InputFault (List Company)) (s : Store) :
      Except InputFault Screening.Input × Store :=
    match r with
    | .error why => (.error why, s)
    | .ok cs => ((Possessions.ofValue s possessions).1.map fun words => ⟨cs, words.map (·.text)⟩,
        (Possessions.ofValue s possessions).2)
  have hnext (r : Except InputFault (List Company)) : Spares i (next r) := by
    cases r with
    | error why => exact Store.spares_of_same fun _ => rfl
    | ok cs =>
      exact (Possessions.spares_ofValue hother).andThen
        (k := fun r s => (r.map fun words => (⟨cs, words.map Word.text⟩ : Screening.Input), s))
        fun _ => Store.spares_of_same fun _ => rfl
  have hrun : (fun v s => Screening.Input.ofValues s v possessions) =
      fun v s => next (Companies.ofValue s v).1 (Companies.ofValue s v).2 := by
    funext v s
    rw [ofValues]
    rcases Companies.ofValue s v with ⟨_ | _, s₁⟩ <;> rfl
  rw [hrun]
  exact (Companies.takes_ofValue hsame).andThen hnext

/-- A run takes the possessions to the end, whatever comes of them and of the companies. -/
theorem Report.takes_possessions {companies : Value} (hother : companies ≠ .iterator i)
    (timestamp : String) :
    Takes (fun v s => Report.run s companies v timestamp) s list i (s.remaining i).length := by
  -- what follows the walk through the possessions, and the walk through the companies after it
  let last (given : List Value) (r : Except InputFault (List Value)) (s : Store) :
      Except InputFault (Traced Report) × Store :=
    match r with
    | .error why => (.error why, s)
    | .ok vs =>
      (do
        let cs ← Companies.checked vs
        let words ← checkedWords given
        return draw cs words timestamp, s)
  let next (r : Except InputFault (List Value)) (s : Store) :
      Except InputFault (Traced Report) × Store :=
    match r with
    | .error why => (.error why, s)
    | .ok given => last given (companiesOf s companies).1 (companiesOf s companies).2
  have hlast (given : List Value) (r : Except InputFault (List Value)) :
      Spares i (last given r) := by
    cases r <;> exact Store.spares_of_same fun _ => rfl
  have hnext (r : Except InputFault (List Value)) : Spares i (next r) := by
    cases r with
    | error why => exact Store.spares_of_same fun _ => rfl
    | ok given => exact (spares_companiesOf hother).andThen (hlast given)
  have hrun : (fun v s => Report.run s companies v timestamp) =
      fun v s => next (possessionsOf s v).1 (possessionsOf s v).2 := by
    funext v s
    rw [run]
    rcases possessionsOf s v with ⟨_ | given, s₁⟩
    · rfl
    · dsimp only [next]
      rcases companiesOf s₁ companies with ⟨_ | _, s₂⟩ <;> rfl
  rw [hrun]
  exact (takes_possessionsOf hsame).andThen hnext

end Iterator

/-! ## How far readers get -/

namespace Possessions

variable {xs before after : List Value} {v : Value}

theorem taken_of_strings (h : ∀ w ∈ xs, w.word?.isSome = true) : taken xs = xs.length := by
  induction xs with
  | nil => rfl
  | cons x xs ih =>
    obtain ⟨hx, hxs⟩ := List.forall_mem_cons.mp h
    rw [taken, if_pos hx, ih hxs, List.length_cons]

theorem taken_of_first_other (hbefore : ∀ w ∈ before, w.word?.isSome = true)
    (hv : v.word? = none) : taken (before ++ v :: after) = before.length + 1 := by
  induction before with
  | nil =>
    rw [List.nil_append, taken, hv]
    rfl
  | cons x xs ih =>
    obtain ⟨hx, hxs⟩ := List.forall_mem_cons.mp hbefore
    rw [List.cons_append, taken, if_pos hx, ih hxs, List.length_cons]

theorem strings_of_words (words : List Word) :
    ∀ w ∈ words.map Word.toValue, w.word?.isSome = true := by
  intro w hw
  obtain ⟨word, -, rfl⟩ := List.mem_map.mp hw
  rw [Value.word?_eq_some_iff.mpr rfl]
  rfl

theorem strings_of_list {words : List Word} (h : (ofValue s (.list list)).1 = .ok words) :
    ∀ w ∈ s.listItems list, w.word?.isSome = true := by
  have hlisted := (ofValue_eq_ok_iff.mp (Prod.ext h rfl)).1
  have hitems : s.listItems list = words.map Word.toValue := Option.some.inj hlisted.2
  rw [hitems]
  exact strings_of_words words

theorem strings_of_normalForms {items : List String}
    (h : (normalForms s (.list list)).1 = .ok items) :
    ∀ w ∈ s.listItems list, w.word?.isSome = true := by
  cases hread : (ofValue s (.list list)).1 with
  | ok words => exact strings_of_list hread
  | error why =>
    rw [normalForms] at h
    dsimp only at h
    rw [hread] at h
    cases h

theorem strings_or_first_other (xs : List Value) :
    (∀ w ∈ xs, w.word?.isSome = true) ∨ ∃ before v after, xs = before ++ v :: after ∧
      (∀ w ∈ before, w.word?.isSome = true) ∧ v.word? = none := by
  cases h : Report.checkedWords xs with
  | ok words =>
    left
    rw [Report.checkedWords_eq_ok_iff.mp h]
    exact strings_of_words words
  | error why =>
    right
    obtain ⟨before, v, after, rfl, hv, -⟩ := checkedWords_eq_error_iff.mp h
    exact ⟨before.map Word.toValue, v, after, rfl, strings_of_words before, hv⟩

end Possessions

namespace Companies

variable {xs before after : List Value} {v : Value}

theorem taken_of_records (h : ∀ w ∈ xs, ∃ c, ofRecord w = .ok c) :
    (ofRecords xs).2 = xs.length := by
  induction xs with
  | nil => rfl
  | cons x xs ih =>
    obtain ⟨⟨c, hc⟩, hxs⟩ := List.forall_mem_cons.mp h
    rw [ofRecords, hc, List.length_cons, ← ih hxs]

theorem taken_of_first_refused (hbefore : ∀ w ∈ before, ∃ c, ofRecord w = .ok c)
    {why : InputFault} (hv : ofRecord v = .error why) :
    (ofRecords (before ++ v :: after)).2 = before.length + 1 := by
  induction before with
  | nil => rw [List.nil_append, ofRecords, hv, List.length_nil]
  | cons x xs ih =>
    obtain ⟨⟨c, hc⟩, hxs⟩ := List.forall_mem_cons.mp hbefore
    rw [List.cons_append, ofRecords, hc, List.length_cons, ← ih hxs]

theorem ofRecords_of_first_refused (hbefore : ∀ w ∈ before, ∃ c, ofRecord w = .ok c)
    {why : InputFault} (hv : ofRecord v = .error why) :
    (ofRecords (before ++ v :: after)).1 = .error why := by
  induction before with
  | nil => rw [List.nil_append, ofRecords, hv]
  | cons x xs ih =>
    obtain ⟨⟨c, hc⟩, hxs⟩ := List.forall_mem_cons.mp hbefore
    rw [List.cons_append, ofRecords, hc]
    dsimp only
    rw [ih hxs]
    rfl

theorem records_or_first_refused (xs : List Value) :
    (∀ w ∈ xs, ∃ c, ofRecord w = .ok c) ∨ ∃ before v after why, xs = before ++ v :: after ∧
      (∀ w ∈ before, ∃ c, ofRecord w = .ok c) ∧ ofRecord v = .error why := by
  induction xs with
  | nil => exact .inl fun _ hw => absurd hw List.not_mem_nil
  | cons x xs ih =>
    cases hx : ofRecord x with
    | error why => exact .inr ⟨[], x, xs, why, rfl, fun _ hw => absurd hw List.not_mem_nil, hx⟩
    | ok c =>
      rcases ih with hall | ⟨before, v, after, why, rfl, hbefore, hv⟩
      · exact .inl (List.forall_mem_cons.mpr ⟨⟨c, hx⟩, hall⟩)
      · exact .inr ⟨x :: before, v, after, why, rfl,
          List.forall_mem_cons.mpr ⟨⟨c, hx⟩, hbefore⟩, hv⟩

end Companies

end Candidacy
