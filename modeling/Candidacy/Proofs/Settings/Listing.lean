import Candidacy.Settings.Schema
import Mathlib.Data.List.Forall2

/-!
# Faults in the order of their places

The places in a configuration are numbered like the headings of a text: what belongs to the place
numbered `p` is numbered `p ++ [0]`, `p ++ [1]` and so on. A place comes before another if its number
does, so that all that belongs to a place comes before the next one.

- `Listing`: the faults at places, one for each place at fault, in the order of the places.
- `Checked.Meets`: a check lists the faults, and gives what there is to read if there are none.
-/

namespace Candidacy.Settings

/-- What is wrong at the places of a configuration. -/
abbrev AtPlace := List Nat → SettingsFault → Prop

/-- The faults are those at the places where something is wrong, one for each, in order. -/
def Listing (At : AtPlace) (faults : List SettingsFault) : Prop :=
  ∃ places : List (List Nat), places.Pairwise (· < ·) ∧ (∀ p, p ∈ places ↔ ∃ f, At p f) ∧
    List.Forall₂ At places faults

/-- What is wrong at the places that belong to place `n`. -/
def Within (n : Nat) (At : AtPlace) : AtPlace := fun p f => ∃ q, p = n :: q ∧ At q f

/-- Nothing is wrong but at places that belong to a place before `n`. -/
def Before (n : Nat) (At : AtPlace) : Prop := ∀ p f, At p f → ∃ m q, p = m :: q ∧ m < n

theorem before_within {m n : Nat} (h : m < n) (At : AtPlace) : Before n (Within m At) := by
  rintro p f ⟨q, rfl, -⟩
  exact ⟨m, q, rfl, h⟩

theorem Before.or {m n : Nat} {At : AtPlace} (h : Before m At) (hmn : m < n) (At' : AtPlace) :
    Before n fun p f => At p f ∨ Within m At' p f := by
  rintro p f (hf | hf)
  · obtain ⟨k, q, hp, hk⟩ := h p f hf
    exact ⟨k, q, hp, Nat.lt_trans hk hmn⟩
  · exact before_within hmn At' p f hf

namespace Listing

variable {At At' : AtPlace} {fs gs : List SettingsFault}

theorem congr (h : ∀ p f, At p f ↔ At' p f) (hl : Listing At fs) : Listing At' fs := by
  have heq : At = At' := funext₂ fun p f => propext (h p f)
  exact heq ▸ hl

theorem nil (h : ∀ p f, ¬ At p f) : Listing At [] :=
  ⟨[], .nil, fun p => ⟨nofun, fun ⟨f, hf⟩ => (h p f hf).elim⟩, .nil⟩

/-- Nothing is listed if and only if nothing is wrong anywhere. -/
theorem eq_nil_iff (hl : Listing At fs) : fs = [] ↔ ∀ p f, ¬ At p f := by
  obtain ⟨places, -, hmem, hall⟩ := hl
  constructor
  · rintro rfl p f hf
    cases hall
    exact List.not_mem_nil ((hmem p).mpr ⟨f, hf⟩)
  · intro hnone
    cases hall with
    | nil => rfl
    | cons hf _ => exact (hnone _ _ hf).elim

/-- Faults at some places, and then faults at later ones. -/
theorem append (hf : Listing At fs) (hg : Listing At' gs)
    (hlt : ∀ p q f g, At p f → At' q g → p < q) :
    Listing (fun p f => At p f ∨ At' p f) (fs ++ gs) := by
  obtain ⟨ps, hps, hmemp, hallp⟩ := hf
  obtain ⟨qs, hqs, hmemq, hallq⟩ := hg
  refine ⟨ps ++ qs, List.pairwise_append.mpr ⟨hps, hqs, ?_⟩, ?_, ?_⟩
  · intro p hp q hq
    obtain ⟨f, hf⟩ := (hmemp p).mp hp
    obtain ⟨g, hg⟩ := (hmemq q).mp hq
    exact hlt p q f g hf hg
  · intro p
    rw [List.mem_append, hmemp, hmemq, exists_or]
  · exact List.rel_append (hallp.imp fun _ _ => .inl) (hallq.imp fun _ _ => .inr)

theorem within (n : Nat) (hl : Listing At fs) : Listing (Within n At) fs := by
  obtain ⟨places, hplaces, hmem, hall⟩ := hl
  refine ⟨places.map (n :: ·), ?_, ?_, ?_⟩
  · rw [List.pairwise_map]
    exact hplaces.imp fun h => List.cons_lt_cons_iff.mpr (.inr ⟨rfl, h⟩)
  · intro p
    simp only [List.mem_map, hmem]
    constructor
    · rintro ⟨q, ⟨f, hf⟩, rfl⟩
      exact ⟨f, q, rfl, hf⟩
    · rintro ⟨f, q, rfl, hf⟩
      exact ⟨q, ⟨f, hf⟩, rfl⟩
  · rw [List.forall₂_map_left_iff]
    exact hall.imp fun _ _ hf => ⟨_, rfl, hf⟩

/-- Faults at some places, and then faults at the places that belong to a later one. -/
theorem next {n : Nat} (hf : Listing At fs) (hbefore : Before n At) (hg : Listing At' gs) :
    Listing (fun p f => At p f ∨ Within n At' p f) (fs ++ gs) := by
  refine hf.append (hg.within n) ?_
  rintro p _ f g hp ⟨q, rfl, -⟩
  obtain ⟨m, q', rfl, hm⟩ := hbefore p f hp
  exact List.cons_lt_cons_iff.mpr (.inl hm)

theorem single {Wrong : SettingsFault → Prop} {f : SettingsFault} (h : ∀ g, Wrong g ↔ g = f)
    (p : List Nat) : Listing (fun q g => q = p ∧ Wrong g) [f] := by
  have hf : Wrong f := (h f).mpr rfl
  refine ⟨[p], List.pairwise_singleton _ _, fun q => ?_, .cons ⟨rfl, hf⟩ .nil⟩
  rw [List.mem_singleton]
  exact ⟨fun hq => ⟨f, hq, hf⟩, fun ⟨_, hq, _⟩ => hq⟩

theorem under (step : Step) (hl : Listing At fs) :
    Listing (fun p f => ∃ g, At p g ∧ f = { g with place := step :: g.place })
      (SettingsFault.under step fs) := by
  obtain ⟨places, hplaces, hmem, hall⟩ := hl
  refine ⟨places, hplaces, fun p => ?_, ?_⟩
  · rw [hmem]
    constructor
    · rintro ⟨f, hf⟩
      exact ⟨_, f, hf, rfl⟩
    · rintro ⟨_, f, hf, -⟩
      exact ⟨f, hf⟩
  · rw [SettingsFault.under, List.forall₂_map_right_iff]
    exact hall.imp fun _ f hf => ⟨f, hf, rfl⟩

end Listing

/-! ## Things in a row -/

/-- What is wrong with things in a row, which are numbered from `first` on. -/
def InRow {α : Type} (Wrong : Nat → α → SettingsFault → Prop) (first : Nat) (xs : List α) : AtPlace :=
  fun p f => ∃ i x, xs[i]? = some x ∧ p = [first + i] ∧ Wrong (first + i) x f

section InRow

variable {α : Type} {Wrong : Nat → α → SettingsFault → Prop} {first : Nat} {x : α} {xs : List α}
  {p : List Nat} {f : SettingsFault}

theorem inRow_nil : ¬ InRow Wrong first [] p f := by
  rintro ⟨i, x, hx, -⟩
  simp at hx

theorem inRow_cons :
    InRow Wrong first (x :: xs) p f ↔
      (p = [first] ∧ Wrong first x f) ∨ InRow Wrong (first + 1) xs p f := by
  have hshift (i : Nat) : first + (i + 1) = first + 1 + i := by omega
  constructor
  · rintro ⟨i, y, hy, hp, hwrong⟩
    cases i with
    | zero =>
      cases hy
      exact .inl ⟨hp, hwrong⟩
    | succ i =>
      rw [hshift] at hp hwrong
      exact .inr ⟨i, y, hy, hp, hwrong⟩
  · rintro (⟨rfl, hwrong⟩ | ⟨i, y, hy, rfl, hwrong⟩)
    · exact ⟨0, x, rfl, rfl, hwrong⟩
    · rw [← hshift] at hwrong ⊢
      exact ⟨i + 1, y, hy, rfl, hwrong⟩

theorem InRow.first_le (h : InRow Wrong first xs p f) : ∃ n, p = [n] ∧ first ≤ n := by
  obtain ⟨i, x, -, hp, -⟩ := h
  exact ⟨first + i, hp, Nat.le_add_right first i⟩

/-- The faults of the first thing, and then those of the others. -/
theorem Listing.cons {fs gs : List SettingsFault}
    (hx : Listing (fun p f => p = [first] ∧ Wrong first x f) fs)
    (hxs : Listing (InRow Wrong (first + 1) xs) gs) :
    Listing (InRow Wrong first (x :: xs)) (fs ++ gs) := by
  refine (hx.append hxs ?_).congr fun p f => inRow_cons.symm
  rintro p q f g ⟨rfl, -⟩ hq
  obtain ⟨n, rfl, hn⟩ := hq.first_le
  exact List.cons_lt_cons_iff.mpr (.inl hn)

end InRow

/-! ## Checks -/

def Itself (Flawed : Flaw → Prop) : AtPlace :=
  fun p f => p = [] ∧ ∃ flaw, Flawed flaw ∧ f = ⟨[], flaw⟩

theorem listing_here {Flawed : Flaw → Prop} {flaw : Flaw} (h : ∀ g, Flawed g ↔ g = flaw) :
    Listing (Itself Flawed) (here flaw) := by
  refine .single (fun g => ?_) []
  simp only [h, exists_eq_left]

end Candidacy.Settings

namespace Candidacy.Checked

open Settings

variable {α : Type}

/-- A check lists what is wrong, and gives what there is to read just if nothing is. -/
structure Meets (c : Checked α) (Reads : α → Prop) (At : AtPlace) : Prop where
  listing : Listing At c.faults
  reads : ∀ a, Reads a ↔ c.faults = [] ∧ c.value = a

namespace Meets

variable {c : Checked α} {a b : α} {Reads Reads' : α → Prop} {At At' : AtPlace}

theorem congr (hreads : ∀ a, Reads a ↔ Reads' a) (hat : ∀ p f, At p f ↔ At' p f)
    (h : c.Meets Reads At) : c.Meets Reads' At' :=
  ⟨h.listing.congr hat, fun a => (hreads a).symm.trans (h.reads a)⟩

theorem of_reads (hreads : ∀ b, Reads b ↔ b = a) (hat : ∀ p f, ¬ At p f) :
    Meets ⟨a, []⟩ Reads At :=
  ⟨.nil hat, fun b => by simp [hreads, eq_comm]⟩

theorem of_flaw {Flawed : Flaw → Prop} {flaw : Flaw} (hreads : ∀ b, ¬ Reads b)
    (hflaw : ∀ g, Flawed g ↔ g = flaw) : Meets ⟨a, here flaw⟩ Reads (Itself Flawed) :=
  ⟨listing_here hflaw, fun b => by simp [hreads, here]⟩

theorem refused {flaw : Flaw} (hreads : ∀ b, ¬ Reads b)
    (hat : ∀ p f, At p f ↔ p = [] ∧ f = ⟨[], flaw⟩) : Meets ⟨a, here flaw⟩ Reads At := by
  have hflaw : Meets ⟨a, here flaw⟩ Reads (Itself (· = flaw)) := .of_flaw hreads fun g => Iff.rfl
  refine hflaw.congr (fun b => Iff.rfl) fun p f => ?_
  simp only [hat, Itself, exists_eq_left]

/-- What is read and what is wrong exclude each other, and one of both is told. -/
theorem of_cases {Flawed : Flaw → Prop} (hread : ∀ a b, Reads a → Reads b → a = b)
    (hflaw : ∀ g g', Flawed g → Flawed g' → g = g') (hnot : ∀ a g, Reads a → ¬ Flawed g)
    (h : (∃ a, Reads a ∧ c = ⟨a, []⟩) ∨ ∃ a g, Flawed g ∧ c = ⟨a, here g⟩) :
    c.Meets Reads (Itself Flawed) := by
  rcases h with ⟨a, ha, rfl⟩ | ⟨a, g, hg, rfl⟩
  · refine .of_reads (fun b => ⟨fun hb => hread b a hb ha, fun h => h ▸ ha⟩) ?_
    rintro p f ⟨-, g, hg, -⟩
    exact hnot a g ha hg
  · refine .of_flaw (fun b hb => hnot b g hb hg) fun g' => ⟨fun hg' => hflaw g' g hg' hg, ?_⟩
    exact fun h => h ▸ hg

theorem within (n : Nat) (h : c.Meets Reads At) : c.Meets Reads (Within n At) :=
  ⟨h.listing.within n, h.reads⟩

theorem next {β γ : Type} {d : Checked β} {ReadsNext : β → Prop} {n : Nat} (h : c.Meets Reads At)
    (hbefore : Before n At) (hd : d.Meets ReadsNext At') (g : α → β → γ) :
    Meets ⟨g c.value d.value, c.faults ++ d.faults⟩
      (fun x => ∃ a b, Reads a ∧ ReadsNext b ∧ x = g a b)
      (fun p f => At p f ∨ Within n At' p f) := by
  refine ⟨h.listing.next hbefore hd.listing, fun x => ?_⟩
  simp only [List.append_eq_nil_iff]
  constructor
  · rintro ⟨a, b, ha, hb, rfl⟩
    obtain ⟨hnil, rfl⟩ := (h.reads a).mp ha
    obtain ⟨hnil', rfl⟩ := (hd.reads b).mp hb
    exact ⟨⟨hnil, hnil'⟩, rfl⟩
  · rintro ⟨⟨hnil, hnil'⟩, rfl⟩
    exact ⟨_, _, (h.reads _).mpr ⟨hnil, rfl⟩, (hd.reads _).mpr ⟨hnil', rfl⟩, rfl⟩

end Meets

end Candidacy.Checked

namespace Candidacy.Settings

/-! ## Fields -/

variable {α : Type}

/-- What a field says: what is read from its value, or what stands for a field that is missing. -/
inductive FieldReads (Reads : Value → α → Prop) (missing : α) : Option Value → α → Prop
  | missing : FieldReads Reads missing none missing
  | given {v : Value} {a : α} : Reads v a → FieldReads Reads missing (some v) a

theorem fieldReads_iff {Reads : Value → α → Prop} {missing a : α} {v? : Option Value} :
    FieldReads Reads missing v? a ↔ (v? = none ∧ a = missing) ∨ ∃ v, v? = some v ∧ Reads v a := by
  constructor
  · rintro (_ | h)
    · exact .inl ⟨rfl, rfl⟩
    · exact .inr ⟨_, rfl, h⟩
  · rintro (⟨rfl, rfl⟩ | ⟨v, rfl, h⟩)
    · exact .missing
    · exact .given h

def FieldAt (name : String) (At : Value → AtPlace) (v? : Option Value) : AtPlace :=
  fun p f => ∃ g, (∃ v, v? = some v ∧ At v p g) ∧ f = { g with place := .name name :: g.place }

theorem meets_checkField {check : Value → Checked α} {Reads : Value → α → Prop}
    {At : Value → AtPlace} (h : ∀ v, (check v).Meets (Reads v) (At v)) (s : Store) (ref : Nat)
    (name : String) (missing : α) :
    (checkField s ref name missing check).Meets
      (FieldReads Reads missing (s.valueUnder? ref name))
      (FieldAt name At (s.valueUnder? ref name)) := by
  unfold checkField
  cases s.valueUnder? ref name with
  | none =>
    refine .of_reads (fun b => ?_) ?_
    · simp [fieldReads_iff]
    · rintro p f ⟨g, ⟨v, hv, -⟩, -⟩
      cases hv
  | some v =>
    refine ⟨((h v).listing.under (.name name)).congr fun p f => ?_, fun a => ?_⟩
    · refine exists_congr fun g => and_congr_left fun _ => ⟨fun hg => ⟨v, rfl, hg⟩, ?_⟩
      rintro ⟨_, ⟨⟩, hg⟩
      exact hg
    · simp only [fieldReads_iff, reduceCtorEq, false_and, Option.some.injEq, exists_eq_left',
        false_or, (h v).reads, SettingsFault.under, List.map_eq_nil_iff]

end Candidacy.Settings
