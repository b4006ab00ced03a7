import Candidacy.Proofs.Input.OneShot
import Candidacy.Proofs.Session.Construction
import Candidacy.Proofs.Session.Questions
import Candidacy.Proofs.Session.Requirements

/-!
# What consumers leave of an iterator

An operation that is handed a one-shot iterator makes of it what it makes of a list with the same
elements. What is then left of the iterator depends on how far the operation read.

- `Consumer`: an operation with its other arguments, and `consume` what it makes of a collection.
- `Consumer.Leaves`: the elements that the consumer leaves.
- `one_shot_consumed`: every consumer makes the same of both, and leaves just these elements.
-/

namespace Candidacy.Session

open Store (Spares Takes)

variable {α β : Type} {s : Store} {v : Value} {list i lost : Nat}

/-! ## Going on after reading -/

theorem takes_bind {w : Value → Work α} {k : α → Work β}
    (h : Takes (fun v s => (w v).run.run s) s list i lost)
    (hk : ∀ a, Spares i fun s => (k a).run.run s) :
    Takes (fun v s => (w v >>= k).run.run s) s list i lost := by
  let next (r : Except Fault α) (s : Store) : Except Fault β × Store :=
    match r with
    | .error why => (.error why, s)
    | .ok a => (k a).run.run s
  have hnext (r : Except Fault α) : Spares i (next r) := by
    cases r with
    | error why => exact Store.spares_of_same fun _ => rfl
    | ok a => exact hk a
  have hrun : (fun v s => (w v >>= k).run.run s) =
      fun v s => next ((w v).run.run s).1 ((w v).run.run s).2 := by
    funext v s
    cases h : (w v).run.run s with
    | mk r s₁ =>
      cases r with
      | error why => exact Work.run_bind_error h
      | ok a => exact Work.run_bind_ok h
  rw [hrun]
  exact h.andThen hnext

theorem takes_ofInput {f : Value → Store → Except InputFault α × Store} (h : Takes f s list i lost) :
    Takes (fun v s => (Work.ofInput (f v)).run.run s) s list i lost := by
  have hfault (r : Except InputFault α) :
      Spares i fun s => ((r.mapError Fault.input : Except Fault α), s) :=
    Store.spares_of_same fun _ => rfl
  exact h.andThen hfault

theorem spares_pure (a : α) : Spares i fun s => (pure a : Work α).run.run s :=
  Store.spares_of_same fun _ => rfl

namespace Operation

theorem takes_screen {query : Query} {f : Value → Value × Value}
    (h : Takes (fun v s => Screening.Input.ofValues s (f v).1 (f v).2) s list i lost) :
    Takes (fun v s => (screen query (f v).1 (f v).2).run.run s) s list i lost := by
  refine takes_bind (takes_ofInput h) fun input => ?_
  cases query with
  | eligibility | verdicts | eligible | ineligible => exact ⟨fun _ _ => rfl, fun _ => rfl⟩

theorem takes_holds (hsame : s.remaining i = s.listItems list) (r : Requirement) :
    Takes (fun v s => (holds (.requirement r) v).run.run s) s list i
      (Possessions.taken (s.remaining i)) :=
  takes_bind (takes_ofInput (Possessions.takes_normalForms hsame)) fun _ => spares_pure _

theorem takes_canWork (hsame : s.remaining i = s.listItems list) (c : Company) :
    Takes (fun v s => (canWork (.company c) v).run.run s) s list i
      (Possessions.taken (s.remaining i)) :=
  takes_bind (takes_ofInput (Possessions.takes_ofValue hsame)) fun _ => spares_pure _

theorem takes_companiesOf (hsame : s.remaining i = s.listItems list) :
    Takes (fun v s => (companiesOf v).run.run s) s list i
      (Companies.ofRecords (s.remaining i)).2 :=
  takes_bind (takes_ofInput (Companies.takes_ofRecordCollection hsame))
    fun _ => ⟨fun _ _ => rfl, fun _ => rfl⟩

end Operation

/-! ## Consumers -/

/-- An operation on a collection, with its other arguments. -/
inductive Consumer where
  | children (operator : Value)
  | normalForms
  | holds (r : Requirement)
  | canWork (c : Company)
  | screenPossessions (query : Query) (companies : Value)
  | screenCompanies (query : Query) (possessions : Value)
  | run (companies : Value)
  | records

namespace Consumer

def consume (e : Context) : Consumer → Value → Work Answer
  | children operator, v => return .value (← Term.compositeOf operator v)
  | normalForms, v => do
    let items ← Work.ofInput (Possessions.normalForms · v)
    return .value (.frozenSet (items.map .text))
  | holds r, v => return .value (.bool (← Operation.holds (.requirement r) v))
  | canWork c, v => return .value (.bool (← Operation.canWork (.company c) v))
  | screenPossessions query companies, v => do
    let answer ← Operation.screen query companies v
    return .traced answer.value (e.trace answer.events)
  | screenCompanies query possessions, v => do
    let answer ← Operation.screen query v possessions
    return .traced answer.value (e.trace answer.events)
  | run companies, v => return e.traced (← Operation.report e.timestamp companies v)
  | records, v => return .value (← Operation.companiesOf v)

def other? : Consumer → Option Value
  | screenPossessions _ v | screenCompanies _ v | run v => some v
  | _ => none

/-- Whether the operation reads strings one by one, as it does once it has no fault in anything
else. -/
def ReadsStrings (s : Store) : Consumer → Prop
  | normalForms | holds _ | canWork _ => True
  | screenPossessions _ companies => ∃ cs, (Companies.ofValue s companies).1 = .ok cs
  | _ => False

/-- What the operation leaves of the elements of an iterator. -/
inductive Leaves (s : Store) : Consumer → List Value → List Value → Prop
  | children {operator : Value} {op : Operator} {xs : List Value} :
    Operator.ofValue s operator = .ok op → Leaves s (.children operator) xs []
  | unknownOperator {operator : Value} {why : InputFault} {xs : List Value} :
    Operator.ofValue s operator = .error why → Leaves s (.children operator) xs xs
  | strings {c : Consumer} {xs : List Value} : c.ReadsStrings s →
    (∀ w ∈ xs, w.word?.isSome = true) → Leaves s c xs []
  | firstOther {c : Consumer} {before after : List Value} {w : Value} : c.ReadsStrings s →
    (∀ w ∈ before, w.word?.isSome = true) → w.word? = none →
    Leaves s c (before ++ w :: after) after
  | refusedCompanies {query : Query} {companies : Value} {why : InputFault} {xs : List Value} :
    (Companies.ofValue s companies).1 = .error why → Leaves s (.screenPossessions query companies) xs xs
  | companies {query : Query} {possessions : Value} {xs : List Value} :
    Leaves s (.screenCompanies query possessions) xs []
  | run {companies : Value} {xs : List Value} : Leaves s (.run companies) xs []
  | records {xs : List Value} : (∀ w ∈ xs, ∃ c, Companies.ofRecord w = .ok c) →
    Leaves s .records xs []
  | firstRefused {before after : List Value} {w : Value} {why : InputFault} :
    (∀ w ∈ before, ∃ c, Companies.ofRecord w = .ok c) → Companies.ofRecord w = .error why →
    Leaves s .records (before ++ w :: after) after

/-- An iterator that is handed over in place of a list with the same elements. -/
structure Consumed (c : Consumer) (e : Context) (s : Store) (list i : Nat) : Prop where
  result : ((c.consume e (.iterator i)).run.run s).1 = ((c.consume e (.list list)).run.run s).1
  store : ∃ lost, ((c.consume e (.iterator i)).run.run s).2 =
    ((c.consume e (.list list)).run.run s).2.advance (.iterator i) lost
  leaves : c.Leaves s (s.remaining i) (((c.consume e (.iterator i)).run.run s).2.remaining i)
  exhausted : ∀ a, ((c.consume e (.iterator i)).run.run s).1 = .ok a →
    ((c.consume e (.iterator i)).run.run s).2.remaining i = []

variable {e : Context} {c : Consumer}

theorem Consumed.of_takes (h : Takes (fun v s => (c.consume e v).run.run s) s list i lost)
    (hleaves : c.Leaves s (s.remaining i) ((s.remaining i).drop lost))
    (hexhausted : ∀ a, ((c.consume e (.list list)).run.run s).1 = .ok a →
      (s.remaining i).drop lost = []) : c.Consumed e s list i := by
  have hleft := h.left
  obtain ⟨hsame, -⟩ := h
  refine ⟨by rw [hsame], ⟨lost, by rw [hsame]⟩, ?_, fun a ha => ?_⟩
  · rw [hleft]
    exact hleaves
  · rw [hsame] at ha
    rw [hleft]
    exact hexhausted a ha

theorem Consumed.of_all_taken
    (h : Takes (fun v s => (c.consume e v).run.run s) s list i (s.remaining i).length)
    (hleaves : c.Leaves s (s.remaining i) []) : c.Consumed e s list i := by
  have hdrop := List.drop_length (l := s.remaining i)
  refine .of_takes h ?_ fun _ _ => hdrop
  rw [hdrop]
  exact hleaves

/-- An operation that reads strings one by one leaves what is behind the first that is none. -/
theorem Consumed.of_strings (hc : c.ReadsStrings s)
    (h : Takes (fun v s => (c.consume e v).run.run s) s list i (Possessions.taken (s.remaining i)))
    (hstrings : ∀ a, ((c.consume e (.list list)).run.run s).1 = .ok a →
      ∀ w ∈ s.remaining i, w.word?.isSome = true) : c.Consumed e s list i := by
  rcases Possessions.strings_or_first_other (s.remaining i) with
    hall | ⟨before, w, after, hxs, hbefore, hw⟩
  · rw [Possessions.taken_of_strings hall] at h
    exact .of_all_taken h (.strings hc hall)
  · refine .of_takes h ?_ fun a ha => ?_
    · rw [hxs, Possessions.taken_of_first_other hbefore hw]
      have hdrop : (before ++ w :: after).drop (before.length + 1) = after := by simp
      rw [hdrop]
      exact .firstOther hc hbefore hw
    · have hnot := hstrings a ha w (by simp [hxs])
      rw [hw] at hnot
      cases hnot

/-! ## Every consumer -/

section Every

variable (e : Context) (hsame : s.remaining i = s.listItems list)
include hsame

theorem consumed_children (operator : Value) : (children operator).Consumed e s list i := by
  have hrun : (fun v s => (Term.compositeOf operator v).run.run s) = fun v s =>
      (((Requirement.ofValues s operator v).1.map Value.requirement).mapError .input,
        (Requirement.ofValues s operator v).2) := by
    funext v s
    exact Construction.run_composite operator v s
  cases hop : Operator.ofValue s operator with
  | ok op =>
    have hbuild : Takes (fun v s => (Term.compositeOf operator v).run.run s) s list i
        (s.remaining i).length := by
      rw [hrun]
      exact (Requirement.takes_ofValues hsame hop).andThen
        (k := fun r s => ((r.map Value.requirement).mapError Fault.input, s))
        fun _ => Store.spares_of_same fun _ => rfl
    exact .of_all_taken (takes_bind hbuild fun _ => spares_pure _) (.children hop)
  | error why =>
    have hrefused (v : Value) : ((children operator).consume e v).run.run s =
        (.error (.input why), s) := by
      refine Work.run_bind_error ?_
      rw [congrFun (congrFun hrun v) s, Requirement.ofValues, hop]
      rfl
    refine .of_takes (.of_same hrefused rfl) ?_ fun a ha => ?_
    · exact .unknownOperator hop
    · rw [hrefused] at ha
      cases ha

theorem consumed_normalForms : normalForms.Consumed e s list i := by
  refine .of_strings trivial
    (takes_bind (takes_ofInput (Possessions.takes_normalForms hsame)) fun _ => spares_pure _)
    fun a ha => ?_
  obtain ⟨items, hitems⟩ := Work.fst_ok_of_bind ha
  have hread := Work.fst_ok_of_ofInput hitems
  rw [hsame]
  exact Possessions.strings_of_normalForms hread

theorem consumed_holds (r : Requirement) : (holds r).Consumed e s list i := by
  refine .of_strings trivial
    (takes_bind (Operation.takes_holds hsame r) fun _ => spares_pure _) fun a ha => ?_
  obtain ⟨b, hb⟩ := Work.fst_ok_of_bind ha
  obtain ⟨items, hitems⟩ := Work.fst_ok_of_bind hb
  rw [hsame]
  exact Possessions.strings_of_normalForms (Work.fst_ok_of_ofInput hitems)

theorem consumed_canWork (company : Company) : (canWork company).Consumed e s list i := by
  refine .of_strings trivial
    (takes_bind (Operation.takes_canWork hsame company) fun _ => spares_pure _) fun a ha => ?_
  obtain ⟨b, hb⟩ := Work.fst_ok_of_bind ha
  obtain ⟨words, hwords⟩ := Work.fst_ok_of_bind hb
  rw [hsame]
  exact Possessions.strings_of_list (Work.fst_ok_of_ofInput hwords)

theorem consumed_screenPossessions (query : Query) {companies : Value}
    (hother : companies ≠ .iterator i) :
    (screenPossessions query companies).Consumed e s list i := by
  cases hc : (Companies.ofValue s companies).1 with
  | error why =>
    have htakes : Takes (fun v s => ((screenPossessions query companies).consume e v).run.run s)
        s list i 0 :=
      takes_bind (Operation.takes_screen (f := fun v => (companies, v))
        (Screening.Input.takes_possessions_of_error hother hc)) fun _ => spares_pure _
    refine .of_takes htakes (.refusedCompanies hc) fun a ha => ?_
    obtain ⟨t, ht⟩ := Work.fst_ok_of_bind ha
    obtain ⟨input, hinput⟩ := Work.fst_ok_of_bind ht
    have hread := Work.fst_ok_of_ofInput hinput
    rw [Screening.Input.ofValues_of_error (Prod.ext hc rfl)] at hread
    cases hread
  | ok cs =>
    refine .of_strings ⟨cs, hc⟩ (takes_bind (Operation.takes_screen (f := fun v => (companies, v))
      (Screening.Input.takes_possessions_of_ok hsame hother hc)) fun _ => spares_pure _)
      fun a ha => ?_
    obtain ⟨t, ht⟩ := Work.fst_ok_of_bind ha
    obtain ⟨input, hinput⟩ := Work.fst_ok_of_bind ht
    have hread := Work.fst_ok_of_ofInput hinput
    obtain ⟨_, words, -, -, hwords⟩ := Screening.Input.faultOf_ofValues_eq_none_iff.mp
      (faultOf_eq_none_iff.mpr ⟨input, hread⟩)
    have hitems : (s.exhaust companies).listItems list = words.map Word.toValue :=
      Option.some.inj hwords
    rw [hsame, ← Store.listItems_advance s companies _ list]
    rw [Store.exhaust] at hitems
    rw [hitems]
    exact Possessions.strings_of_words words

theorem consumed_screenCompanies (query : Query) {possessions : Value}
    (hother : possessions ≠ .iterator i) :
    (screenCompanies query possessions).Consumed e s list i :=
  .of_all_taken (takes_bind (Operation.takes_screen (f := fun v => (v, possessions))
    (Screening.Input.takes_companies hsame hother)) fun _ => spares_pure _) .companies

theorem consumed_run {companies : Value} (hother : companies ≠ .iterator i) :
    (run companies).Consumed e s list i :=
  .of_all_taken (takes_bind (takes_ofInput (Report.takes_possessions hsame hother e.timestamp))
    fun _ => spares_pure _) .run

theorem consumed_records : records.Consumed e s list i := by
  have htakes : Takes (fun v s => (records.consume e v).run.run s) s list i
      (Companies.ofRecords (s.remaining i)).2 :=
    takes_bind (Operation.takes_companiesOf hsame) fun _ => spares_pure _
  rcases Companies.records_or_first_refused (s.remaining i) with
    hall | ⟨before, w, after, why, hxs, hbefore, hw⟩
  · rw [Companies.taken_of_records hall] at htakes
    exact .of_all_taken htakes (.records hall)
  · refine .of_takes htakes ?_ fun a ha => ?_
    · rw [hxs, Companies.taken_of_first_refused hbefore hw]
      have hdrop : (before ++ w :: after).drop (before.length + 1) = after := by simp
      rw [hdrop]
      exact .firstRefused hbefore hw
    · obtain ⟨v, hv⟩ := Work.fst_ok_of_bind ha
      obtain ⟨cs, hcs⟩ := Work.fst_ok_of_bind hv
      have hread : (Companies.ofRecords (s.listItems list)).1 = .ok cs :=
        Work.fst_ok_of_ofInput hcs
      rw [← hsame, hxs, Companies.ofRecords_of_first_refused hbefore hw] at hread
      cases hread

end Every

end Consumer

/-- An iterator and a list with the same elements are consumed alike: with the other arguments
unchanged, the operation answers the same or fails with the same fault, and leaves of the iterator
what the operation leaves in such a case, which is nothing after a success. -/
theorem one_shot_consumed (c : Consumer) (e : Context) (hsame : s.remaining i = s.listItems list)
    (hother : c.other? ≠ some (.iterator i)) : c.Consumed e s list i := by
  cases c with
  | children operator => exact Consumer.consumed_children e hsame operator
  | normalForms => exact Consumer.consumed_normalForms e hsame
  | holds r => exact Consumer.consumed_holds e hsame r
  | canWork company => exact Consumer.consumed_canWork e hsame company
  | screenPossessions query companies =>
    exact Consumer.consumed_screenPossessions e hsame query fun h => hother (congrArg some h)
  | screenCompanies query possessions =>
    exact Consumer.consumed_screenCompanies e hsame query fun h => hother (congrArg some h)
  | run companies => exact Consumer.consumed_run e hsame fun h => hother (congrArg some h)
  | records => exact Consumer.consumed_records e hsame

/-- Possessions of which the second is no string, for companies that are accepted: the third is
left. -/
theorem one_shot_consumed_number :
    let possessions : List Value := [.text "bike", .int 7, .text "car"]
    let s := ((Store.empty.newList possessions).2.newIterator possessions).2
    let c : Consumer := .screenPossessions .eligible (.tuple [.company ⟨"Hill", none⟩])
    s.remaining 0 = s.listItems 0 ∧ c.other? ≠ some (.iterator 0) ∧
      c.Consumed ⟨[], none, ""⟩ s 0 0 ∧
      ((c.consume ⟨[], none, ""⟩ (.iterator 0)).run.run s).2.remaining 0 = [.text "car"] :=
  ⟨rfl, nofun, one_shot_consumed _ _ rfl nofun, rfl⟩

end Candidacy.Session
