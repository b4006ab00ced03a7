import Candidacy.Value.Store

/-!
# What stays in a store

Work on values makes new shared values and takes elements from iterators. All else that is shared
stays as it is, the lists apart that are edited on purpose.

- `Within s s'`: what can be referred to in `s` can be referred to in `s'`.
- `Keeps edited s s'`: it has the same contents there, unless it is an edited list or an iterator.
-/

namespace Candidacy.Store

/-- Every reference into `s` is one into `s'`. -/
structure Within (s s' : Store) : Prop where
  lists : s.lists.size ≤ s'.lists.size
  tables : s.tables.size ≤ s'.tables.size
  sets : s.sets.size ≤ s'.sets.size
  iterators : s.iterators.size ≤ s'.iterators.size
  pipelines : s.pipelines.size ≤ s'.pipelines.size

/-- What is shared in `s` has the same contents in `s'`, but for the edited lists, and for iterators,
of which some elements may be gone. -/
structure Keeps (edited : List Nat) (s s' : Store) : Prop extends Within s s' where
  listItems : ∀ ref < s.lists.size, ref ∉ edited → s'.listItems ref = s.listItems ref
  entries : ∀ ref < s.tables.size, s'.entries ref = s.entries ref
  setMembers : ∀ ref < s.sets.size, s'.setMembers ref = s.setMembers ref
  remaining : ∀ ref < s.iterators.size, s'.remaining ref <:+ s.remaining ref
  pipelineCompanies : ∀ ref < s.pipelines.size, s'.pipelineCompanies ref = s.pipelineCompanies ref

variable {edited edited' : List Nat} {s s₁ s₂ : Store}

theorem Within.trans (h : s.Within s₁) (h' : s₁.Within s₂) : s.Within s₂ where
  lists := Nat.le_trans h.lists h'.lists
  tables := Nat.le_trans h.tables h'.tables
  sets := Nat.le_trans h.sets h'.sets
  iterators := Nat.le_trans h.iterators h'.iterators
  pipelines := Nat.le_trans h.pipelines h'.pipelines

namespace Keeps

theorem refl (edited : List Nat) (s : Store) : Keeps edited s s where
  lists := Nat.le_refl _
  tables := Nat.le_refl _
  sets := Nat.le_refl _
  iterators := Nat.le_refl _
  pipelines := Nat.le_refl _
  listItems _ _ _ := rfl
  entries _ _ := rfl
  setMembers _ _ := rfl
  remaining _ _ := List.suffix_rfl
  pipelineCompanies _ _ := rfl

theorem trans (h : Keeps edited s s₁) (h' : Keeps edited s₁ s₂) : Keeps edited s s₂ where
  toWithin := h.toWithin.trans h'.toWithin
  listItems ref hr he :=
    (h'.listItems ref (Nat.lt_of_lt_of_le hr h.lists) he).trans (h.listItems ref hr he)
  entries ref hr := (h'.entries ref (Nat.lt_of_lt_of_le hr h.tables)).trans (h.entries ref hr)
  setMembers ref hr :=
    (h'.setMembers ref (Nat.lt_of_lt_of_le hr h.sets)).trans (h.setMembers ref hr)
  remaining ref hr :=
    (h'.remaining ref (Nat.lt_of_lt_of_le hr h.iterators)).trans (h.remaining ref hr)
  pipelineCompanies ref hr :=
    (h'.pipelineCompanies ref (Nat.lt_of_lt_of_le hr h.pipelines)).trans (h.pipelineCompanies ref hr)

theorem mono (hsub : ∀ ref ∈ edited, ref ∈ edited') (h : Keeps edited s s₁) :
    Keeps edited' s s₁ :=
  { h with listItems := fun ref hr hne => h.listItems ref hr fun he => hne (hsub ref he) }

theorem of_nil (h : Keeps [] s s₁) : Keeps edited s s₁ :=
  h.mono fun _ hr => absurd hr List.not_mem_nil

end Keeps

/-! ## New shared values -/

theorem getD_push_of_lt {α : Type} {xs : Array α} {i : Nat} (h : i < xs.size) (x d : α) :
    (xs.push x)[i]?.getD d = xs[i]?.getD d := by
  rw [Array.getElem?_push, if_neg (Nat.ne_of_lt h)]

theorem keeps_newList (s : Store) (items : List Value) : Keeps [] s (s.newList items).2 :=
  { Keeps.refl [] s with
    lists := by simp [newList]
    listItems := fun _ hr _ => getD_push_of_lt hr _ _ }

theorem listItems_newList (s : Store) (items : List Value) :
    (s.newList items).2.listItems s.lists.size = items := by
  simp [newList, listItems]

theorem keeps_newTable (s : Store) (entries : List (Value × Value)) :
    Keeps [] s (s.newTable entries).2 :=
  { Keeps.refl [] s with
    tables := by simp [newTable]
    entries := fun _ hr => getD_push_of_lt hr _ _ }

theorem entries_newTable (s : Store) (entries : List (Value × Value)) :
    (s.newTable entries).2.entries s.tables.size = entries := by
  simp [newTable, Store.entries]

theorem keeps_newSet (s : Store) (members : List Value) : Keeps [] s (s.newSet members).2 :=
  { Keeps.refl [] s with
    sets := by simp [newSet]
    setMembers := fun _ hr => getD_push_of_lt hr _ _ }

theorem keeps_newIterator (s : Store) (items : List Value) :
    Keeps [] s (s.newIterator items).2 :=
  { Keeps.refl [] s with
    iterators := by simp [newIterator]
    remaining := fun ref hr => by
      have hsame : (s.newIterator items).2.remaining ref = s.remaining ref :=
        getD_push_of_lt hr _ _
      exact hsame.symm ▸ List.suffix_rfl }

theorem keeps_newPipeline (s : Store) (companies : Value) :
    Keeps [] s (s.newPipeline companies).2 :=
  { Keeps.refl [] s with
    pipelines := by simp [newPipeline]
    pipelineCompanies := fun _ hr => getD_push_of_lt hr _ _ }

theorem pipelineCompanies_newPipeline (s : Store) (companies : Value) :
    (s.newPipeline companies).2.pipelineCompanies s.pipelines.size = companies := by
  simp [newPipeline, pipelineCompanies]

theorem keeps_newNotANumber (s : Store) : Keeps [] s s.newNotANumber.2 :=
  { Keeps.refl [] s with }

/-! ## Walks and edits -/

theorem remaining_advance (s : Store) (walked ref count : Nat) :
    (s.advance (.iterator walked) count).remaining ref =
      if walked = ref then (s.remaining ref).drop count else s.remaining ref := by
  have hget : (s.advance (.iterator walked) count).remaining ref =
      (s.iterators.setIfInBounds walked ((s.remaining walked).drop count))[ref]?.getD [] := rfl
  rw [hget]
  by_cases hsame : walked = ref
  · subst hsame
    rw [if_pos rfl]
    -- a reference to nothing stands for an iterator with nothing to give
    by_cases hr : walked < s.iterators.size
    · rw [Array.getElem?_setIfInBounds_self_of_lt hr, Option.getD_some]
    · have hout : s.iterators[walked]? = none := Array.getElem?_eq_none (Nat.not_lt.mp hr)
      rw [Array.getElem?_eq_none (by simpa using hr), remaining, hout]
      simp
  · rw [if_neg hsame, Array.getElem?_setIfInBounds_ne hsame]
    rfl

theorem listItems_advance (s : Store) (v : Value) (count ref : Nat) :
    (s.advance v count).listItems ref = s.listItems ref := by
  cases v <;> rfl

theorem advance_zero (s : Store) (v : Value) : s.advance v 0 = s := by
  cases v
  case iterator ref =>
    have hsame : s.iterators.setIfInBounds ref (s.remaining ref) = s.iterators := by
      apply Array.ext_getElem?
      intro other
      rw [Array.getElem?_setIfInBounds]
      split
      · rename_i heq
        subst heq
        split
        · rename_i hr
          simp [remaining, hr]
        · rename_i hr
          simp [hr]
      · rfl
    show { s with iterators := s.iterators.setIfInBounds ref (s.remaining ref) } = s
    rw [hsame]
  all_goals rfl

theorem exhaust_of_elements {s : Store} {v : Value} {vs : List Value}
    (h : s.elements? v = some vs) : s.exhaust v = s.advance v vs.length := by
  rw [exhaust, h, Option.getD_some]

section Other

variable {v : Value} {i : Nat}

/-- Walks through two values that are not one and the same iterator may change places. -/
theorem advance_advance (hv : v ≠ .iterator i) (s : Store) (m n : Nat) :
    (s.advance (.iterator i) m).advance v n = (s.advance v n).advance (.iterator i) m := by
  cases v
  case iterator ref =>
    have hne : i ≠ ref := fun h => hv (h ▸ rfl)
    have hleft : (s.advance (.iterator i) m).remaining ref = s.remaining ref := by
      rw [remaining_advance, if_neg hne]
    have hright : (s.advance (.iterator ref) n).remaining i = s.remaining i := by
      rw [remaining_advance, if_neg hne.symm]
    have hstep (t : Store) (other k : Nat) : t.advance (.iterator other) k =
        { t with iterators := t.iterators.setIfInBounds other ((t.remaining other).drop k) } := rfl
    rw [hstep (s.advance (.iterator i) m) ref n, hleft, hstep (s.advance (.iterator ref) n) i m,
      hright]
    exact congrArg (fun iterators => { s with iterators := iterators })
      (Array.setIfInBounds_comm _ _ hne)
  all_goals rfl

theorem elements?_advance (hv : v ≠ .iterator i) (s : Store) (n : Nat) :
    (s.advance (.iterator i) n).elements? v = s.elements? v := by
  cases v
  case iterator ref =>
    have hne : i ≠ ref := fun h => hv (h ▸ rfl)
    show some ((s.advance (.iterator i) n).remaining ref) = some (s.remaining ref)
    rw [remaining_advance, if_neg hne]
  all_goals rfl

theorem remaining_advance_other (hv : v ≠ .iterator i) (s : Store) (n : Nat) :
    (s.advance v n).remaining i = s.remaining i := by
  cases v
  case iterator ref =>
    have hne : ref ≠ i := fun h => hv (h ▸ rfl)
    rw [remaining_advance, if_neg hne]
  all_goals rfl

end Other

theorem keeps_advance (s : Store) (v : Value) (count : Nat) : Keeps [] s (s.advance v count) := by
  cases v
  case iterator walked =>
    exact { Keeps.refl [] s with
      iterators := by simp [advance]
      remaining := fun ref _ => by
        rw [remaining_advance]
        split
        · exact List.drop_suffix _ _
        · exact List.suffix_rfl }
  all_goals exact Keeps.refl [] s

theorem keeps_setList (s : Store) (ref : Nat) (items : List Value) :
    Keeps [ref] s (s.setList ref items) :=
  { Keeps.refl [ref] s with
    lists := by simp [setList]
    listItems := fun other _ hne => by
      have hne : ref ≠ other := fun h => hne (List.mem_singleton.mpr h.symm)
      show (s.lists.setIfInBounds ref items)[other]?.getD [] = _
      rw [Array.getElem?_setIfInBounds_ne hne]
      rfl }

end Candidacy.Store
