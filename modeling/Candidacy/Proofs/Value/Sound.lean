import Candidacy.Proofs.Company
import Candidacy.Proofs.Value.Growth
import Candidacy.Value.Equality

/-!
# Sound values

A value is sound in a store if every requirement and every company in it is well formed and every
reference in it leads somewhere. A store is sound if every value kept in it is. Whatever is taken
from sound values in a sound store is sound again, and stays so as the store grows.
-/

namespace Candidacy

namespace Value

/-- Nothing was built into the value and it refers to nothing. -/
def isPlain : Value → Bool
  | none | bool _ | int _ | float _ | notANumber _ | text _ | operator _ | bytes _ => true
  | verdict _ | settings _ | report _ | moment _ => true
  | _ => false

/-- Requirements and companies in the value are well formed, and references lead somewhere. -/
inductive Sound (s : Store) : Value → Prop
  | plain {v : Value} : v.isPlain = true → Sound s v
  | tuple {items : List Value} : (∀ v ∈ items, Sound s v) → Sound s (.tuple items)
  | frozenSet {items : List Value} : (∀ v ∈ items, Sound s v) → Sound s (.frozenSet items)
  | record {name requirement : Value} : Sound s name → Sound s requirement →
    Sound s (.record name requirement)
  | requirement {r : Requirement} : r.WellFormed → Sound s (.requirement r)
  | company {c : Company} : c.WellFormed → Sound s (.company c)
  | list {ref : Nat} : ref < s.lists.size → Sound s (.list ref)
  | table {ref : Nat} : ref < s.tables.size → Sound s (.table ref)
  | set {ref : Nat} : ref < s.sets.size → Sound s (.set ref)
  | iterator {ref : Nat} : ref < s.iterators.size → Sound s (.iterator ref)
  | pipeline {ref : Nat} : ref < s.pipelines.size → Sound s (.pipeline ref)

namespace Sound

variable {s s' : Store}

/-- What is sound stays so as long as references lead somewhere. -/
theorem mono (hw : s.Within s') {v : Value} (h : v.Sound s) : v.Sound s' := by
  induction h with
  | plain hv => exact .plain hv
  | tuple _ ih => exact .tuple ih
  | frozenSet _ ih => exact .frozenSet ih
  | record _ _ ihn ihr => exact .record ihn ihr
  | requirement hr => exact .requirement hr
  | company hc => exact .company hc
  | list hr => exact .list (Nat.lt_of_lt_of_le hr hw.lists)
  | table hr => exact .table (Nat.lt_of_lt_of_le hr hw.tables)
  | set hr => exact .set (Nat.lt_of_lt_of_le hr hw.sets)
  | iterator hr => exact .iterator (Nat.lt_of_lt_of_le hr hw.iterators)
  | pipeline hr => exact .pipeline (Nat.lt_of_lt_of_le hr hw.pipelines)

theorem wellFormed_requirement {r : Requirement} (h : (Value.requirement r).Sound s) :
    r.WellFormed := by
  cases h with
  | plain hv => cases hv
  | requirement hr => exact hr

theorem wellFormed_company {c : Company} (h : (Value.company c).Sound s) : c.WellFormed := by
  cases h with
  | plain hv => cases hv
  | company hc => exact hc

theorem lt_of_list {ref : Nat} (h : (Value.list ref).Sound s) : ref < s.lists.size := by
  cases h with
  | plain hv => cases hv
  | list hr => exact hr

theorem of_tuple {items : List Value} {v : Value} (h : (Value.tuple items).Sound s)
    (hv : v ∈ items) : v.Sound s := by
  cases h with
  | plain hp => cases hp
  | tuple hitems => exact hitems v hv

theorem of_frozenSet {items : List Value} {v : Value} (h : (Value.frozenSet items).Sound s)
    (hv : v ∈ items) : v.Sound s := by
  cases h with
  | plain hp => cases hp
  | frozenSet hitems => exact hitems v hv

theorem of_record {name requirement : Value} (h : (Value.record name requirement).Sound s) :
    name.Sound s ∧ requirement.Sound s := by
  cases h with
  | plain hv => cases hv
  | record hn hr => exact ⟨hn, hr⟩

end Sound

end Value

namespace Store

variable {s s' : Store}

inductive Has (s : Store) : Value → Prop
  | list {items : List Value} {v : Value} : items ∈ s.lists → v ∈ items → Has s v
  | key {es : List (Value × Value)} {e : Value × Value} : es ∈ s.tables → e ∈ es → Has s e.1
  | entry {es : List (Value × Value)} {e : Value × Value} : es ∈ s.tables → e ∈ es → Has s e.2
  | set {members : List Value} {v : Value} : members ∈ s.sets → v ∈ members → Has s v
  | iterator {items : List Value} {v : Value} : items ∈ s.iterators → v ∈ items → Has s v
  | pipeline {v : Value} : v ∈ s.pipelines → Has s v

def Sound (s : Store) : Prop := ∀ v, s.Has v → v.Sound s

theorem sound_empty : Store.empty.Sound := by
  rintro v (⟨h, -⟩ | ⟨h, -⟩ | ⟨h, -⟩ | ⟨h, -⟩ | ⟨h, -⟩ | h) <;> cases Array.not_mem_empty _ h

/-- A store is sound whose contents are old or sound. -/
theorem Sound.of_contents (h : s.Sound) (hw : s.Within s')
    (lists : ∀ items ∈ s'.lists, items ∈ s.lists ∨ ∀ v ∈ items, v.Sound s)
    (tables : ∀ es ∈ s'.tables, es ∈ s.tables ∨ ∀ e ∈ es, e.1.Sound s ∧ e.2.Sound s)
    (sets : ∀ members ∈ s'.sets, members ∈ s.sets ∨ ∀ v ∈ members, v.Sound s)
    (iterators : ∀ items ∈ s'.iterators, items ∈ s.iterators ∨ ∀ v ∈ items, v.Sound s)
    (pipelines : ∀ v ∈ s'.pipelines, v ∈ s.pipelines ∨ v.Sound s) : s'.Sound := by
  intro v hv
  apply Value.Sound.mono hw
  cases hv with
  | list hin hv => exact (lists _ hin).elim (fun hold => h v (.list hold hv)) (· v hv)
  | key hin he => exact (tables _ hin).elim (fun hold => h _ (.key hold he)) fun hes => (hes _ he).1
  | entry hin he =>
    exact (tables _ hin).elim (fun hold => h _ (.entry hold he)) fun hes => (hes _ he).2
  | set hin hv => exact (sets _ hin).elim (fun hold => h v (.set hold hv)) (· v hv)
  | iterator hin hv => exact (iterators _ hin).elim (fun hold => h v (.iterator hold hv)) (· v hv)
  | pipeline hv => exact (pipelines v hv).elim (fun hold => h v (.pipeline hold)) id

/-! ## Taking contents out -/

theorem mem_of_mem_getD {α : Type} {xs : Array (List α)} {ref : Nat} {a : α}
    (h : a ∈ xs[ref]?.getD []) : ∃ items ∈ xs, a ∈ items := by
  cases hget : xs[ref]? with
  | none =>
    rw [hget] at h
    cases h
  | some items =>
    rw [hget] at h
    exact ⟨items, Array.mem_of_getElem? hget, h⟩

namespace Sound

variable {v w : Value} {ref : Nat}

theorem listItems (h : s.Sound) (hv : v ∈ s.listItems ref) : v.Sound s := by
  obtain ⟨items, hitems, hv⟩ := mem_of_mem_getD hv
  exact h v (.list hitems hv)

theorem entries (h : s.Sound) {e : Value × Value} (he : e ∈ s.entries ref) :
    e.1.Sound s ∧ e.2.Sound s := by
  obtain ⟨es, hes, he⟩ := mem_of_mem_getD he
  exact ⟨h _ (.key hes he), h _ (.entry hes he)⟩

theorem setMembers (h : s.Sound) (hv : v ∈ s.setMembers ref) : v.Sound s := by
  obtain ⟨members, hmembers, hv⟩ := mem_of_mem_getD hv
  exact h v (.set hmembers hv)

theorem remaining (h : s.Sound) (hv : v ∈ s.remaining ref) : v.Sound s := by
  obtain ⟨items, hitems, hv⟩ := mem_of_mem_getD hv
  exact h v (.iterator hitems hv)

theorem pipelineCompanies (h : s.Sound) (ref : Nat) : (s.pipelineCompanies ref).Sound s := by
  unfold Store.pipelineCompanies
  cases hget : s.pipelines[ref]? with
  | none => exact .plain rfl
  | some v => exact h v (.pipeline (Array.mem_of_getElem? hget))

theorem valueUnder? (h : s.Sound) {name : String} (hv : s.valueUnder? ref name = some v) :
    v.Sound s := by
  obtain ⟨e, he, rfl⟩ := Option.map_eq_some_iff.mp hv
  exact (h.entries (List.mem_of_find?_eq_some he)).2

theorem of_elements (h : s.Sound) (hv : v.Sound s) {vs : List Value}
    (hvs : s.elements? v = some vs) (hw : w ∈ vs) : w.Sound s := by
  cases v
  case text | operator | bytes =>
    cases hvs
    obtain ⟨_, -, rfl⟩ := List.mem_map.mp hw
    exact .plain rfl
  case tuple items =>
    cases hvs
    exact hv.of_tuple hw
  case frozenSet items =>
    cases hvs
    exact hv.of_frozenSet hw
  case set ref =>
    cases hvs
    exact h.setMembers hw
  case list ref =>
    cases hvs
    exact h.listItems hw
  case table ref =>
    cases hvs
    obtain ⟨e, he, rfl⟩ := List.mem_map.mp hw
    exact (h.entries he).1
  case iterator ref =>
    cases hvs
    exact h.remaining hw
  case settings c =>
    cases hvs
    rcases List.mem_pair.mp hw with rfl | rfl <;>
      exact .tuple fun v hv => by rcases List.mem_pair.mp hv with rfl | rfl <;> exact .plain rfl
  all_goals cases hvs

/-! ## Putting contents in -/

theorem mem_push_or {α : Type} {P : α → Prop} {a : α} (ha : P a) (xs : Array α) :
    ∀ b ∈ xs.push a, b ∈ xs ∨ P b := by
  intro b hb
  rcases Array.mem_push.mp hb with hold | rfl
  · exact .inl hold
  · exact .inr ha

theorem mem_setIfInBounds_or {α : Type} {P : α → Prop} {a : α} (ha : P a) (xs : Array α) (i : Nat) :
    ∀ b ∈ xs.setIfInBounds i a, b ∈ xs ∨ P b := by
  intro b hb
  rcases Array.mem_or_eq_of_mem_setIfInBounds hb with hold | rfl
  · exact .inl hold
  · exact .inr ha

theorem newList (h : s.Sound) {items : List Value} (hitems : ∀ v ∈ items, v.Sound s) :
    (s.newList items).2.Sound :=
  h.of_contents (keeps_newList s items).toWithin (mem_push_or hitems _) (fun _ => .inl)
    (fun _ => .inl) (fun _ => .inl) (fun _ => .inl)

theorem newTable (h : s.Sound) {es : List (Value × Value)}
    (hes : ∀ e ∈ es, e.1.Sound s ∧ e.2.Sound s) : (s.newTable es).2.Sound :=
  h.of_contents (keeps_newTable s es).toWithin (fun _ => .inl) (mem_push_or hes _)
    (fun _ => .inl) (fun _ => .inl) (fun _ => .inl)

theorem newSet (h : s.Sound) {members : List Value} (hmembers : ∀ v ∈ members, v.Sound s) :
    (s.newSet members).2.Sound :=
  h.of_contents (keeps_newSet s members).toWithin (fun _ => .inl) (fun _ => .inl)
    (mem_push_or hmembers _) (fun _ => .inl) (fun _ => .inl)

theorem newIterator (h : s.Sound) {items : List Value} (hitems : ∀ v ∈ items, v.Sound s) :
    (s.newIterator items).2.Sound :=
  h.of_contents (keeps_newIterator s items).toWithin (fun _ => .inl) (fun _ => .inl)
    (fun _ => .inl) (mem_push_or hitems _) (fun _ => .inl)

theorem newPipeline (h : s.Sound) (hv : v.Sound s) : (s.newPipeline v).2.Sound :=
  h.of_contents (keeps_newPipeline s v).toWithin (fun _ => .inl) (fun _ => .inl)
    (fun _ => .inl) (fun _ => .inl) (mem_push_or hv _)

theorem newNotANumber (h : s.Sound) : s.newNotANumber.2.Sound :=
  h.of_contents (keeps_newNotANumber s).toWithin (fun _ => .inl) (fun _ => .inl)
    (fun _ => .inl) (fun _ => .inl) (fun _ => .inl)

theorem setList (h : s.Sound) (ref : Nat) {items : List Value}
    (hitems : ∀ v ∈ items, v.Sound s) : (s.setList ref items).Sound :=
  h.of_contents (keeps_setList s ref items).toWithin (mem_setIfInBounds_or hitems _ ref)
    (fun _ => .inl) (fun _ => .inl) (fun _ => .inl) (fun _ => .inl)

theorem advance (h : s.Sound) (v : Value) (count : Nat) : (s.advance v count).Sound := by
  cases v
  case iterator ref =>
    have hleft : ∀ v ∈ (s.remaining ref).drop count, v.Sound s :=
      fun v hv => h.remaining (List.mem_of_mem_drop hv)
    exact h.of_contents (keeps_advance s (.iterator ref) count).toWithin (fun _ => .inl)
      (fun _ => .inl) (fun _ => .inl) (mem_setIfInBounds_or hleft _ ref) (fun _ => .inl)
  all_goals exact h

end Sound

/-! ## Members and entries -/

theorem mem_addMember {members : List Value} {v w : Value} (h : w ∈ s.addMember members v) :
    w ∈ members ∨ w = v := by
  unfold addMember at h
  split at h
  · exact .inl h
  · simpa using h

theorem mem_foldl_addMember {vs members : List Value} {w : Value}
    (h : w ∈ vs.foldl s.addMember members) : w ∈ members ∨ w ∈ vs := by
  induction vs generalizing members with
  | nil => exact .inl h
  | cons v vs ih =>
    rcases ih h with hm | hvs
    · rcases mem_addMember hm with hm | rfl
      · exact .inl hm
      · exact .inr List.mem_cons_self
    · exact .inr (List.mem_cons_of_mem v hvs)

theorem mem_of_mem_members {vs : List Value} {w : Value} (h : w ∈ s.members vs) : w ∈ vs := by
  rcases mem_foldl_addMember h with hnil | hvs
  · cases hnil
  · exact hvs

theorem mem_putEntry {P : Value → Prop} {key value : Value} (hkey : P key) (hvalue : P value)
    {es : List (Value × Value)} (hes : ∀ e ∈ es, P e.1 ∧ P e.2) :
    ∀ e ∈ s.putEntry key value es, P e.1 ∧ P e.2 := by
  induction es with
  | nil =>
    intro e he
    rw [putEntry, List.mem_singleton] at he
    subst he
    exact ⟨hkey, hvalue⟩
  | cons first rest ih =>
    obtain ⟨k, v⟩ := first
    rw [List.forall_mem_cons] at hes
    rw [putEntry]
    split
    · exact List.forall_mem_cons.mpr ⟨⟨hes.1.1, hvalue⟩, hes.2⟩
    · exact List.forall_mem_cons.mpr ⟨hes.1, ih hes.2⟩

theorem mem_foldl_putEntry {P : Value → Prop} {es table : List (Value × Value)}
    (hes : ∀ e ∈ es, P e.1 ∧ P e.2) (htable : ∀ e ∈ table, P e.1 ∧ P e.2) :
    ∀ e ∈ es.foldl (fun t (k, v) => s.putEntry k v t) table, P e.1 ∧ P e.2 := by
  induction es generalizing table with
  | nil => exact htable
  | cons first rest ih =>
    rw [List.forall_mem_cons] at hes
    exact ih hes.2 (mem_putEntry hes.1.1 hes.1.2 htable)

end Store

end Candidacy
