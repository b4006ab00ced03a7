import Candidacy.ByName
import Candidacy.Proofs.Distinct

/-!
# Tables filled one by one

`enterAll` fills a table from a list, each member under its own name. The names of the table are the
distinct names of the list in the order of first appearance, and under each stands what the last
member of that name gives.

- `Last key name xs b`: `b` is the last member of `xs` under `name`.
- `names_enterAll`: the names of a filled table.
- `mem_enterAll`: the entries of a filled table.
-/

namespace Candidacy.ByName

variable {α β : Type}

/-! ## Single entries -/

theorem get?_cons (m : String) (b : α) (t : ByName α) (n : String) :
    get? ((m, b) :: t) n = if n = m then some b else t.get? n := by
  simp only [get?, List.lookup_cons]
  by_cases h : n = m
  · simp [h]
  · simp [h, beq_eq_false_iff_ne.mpr h]

theorem get?_put (name : String) (a : α) (t : ByName α) (n : String) :
    (put name a t).get? n = if n = name then some a else t.get? n := by
  induction t with
  | nil => rw [put, get?_cons]
  | cons e t ih =>
    obtain ⟨m, b⟩ := e
    by_cases hm : m = name
    · rw [put, if_pos hm, get?_cons, get?_cons, hm]
      split <;> rfl
    · rw [put, if_neg hm, get?_cons, get?_cons, ih]
      by_cases h : n = m
      · rw [if_pos h, if_pos h, if_neg fun e => hm (h.symm.trans e)]
      · rw [if_neg h, if_neg h]

theorem get?_eq_some_iff {t : ByName α} (h : t.names.Nodup) {n : String} {a : α} :
    t.get? n = some a ↔ (n, a) ∈ t := by
  induction t with
  | nil => simp [get?]
  | cons e t ih =>
    obtain ⟨m, b⟩ := e
    rw [names, List.map_cons, List.nodup_cons] at h
    rw [get?_cons, List.mem_cons, Prod.mk.injEq]
    by_cases hn : n = m
    · have hnot : (n, a) ∉ t := fun hm => h.1 (List.mem_map.mpr ⟨_, hm, hn⟩)
      rw [if_pos hn, Option.some.injEq, or_iff_left hnot, and_iff_right hn, eq_comm]
    · rw [if_neg hn, ih h.2, or_iff_right fun e => hn e.1]

/-! ## The last of a name -/

/-- `b` is the last member of `xs` under `name`. -/
def Last (key : β → String) (name : String) (xs : List β) (b : β) : Prop :=
  ∃ before after, xs = before ++ b :: after ∧ key b = name ∧ ∀ d ∈ after, key d ≠ name

namespace Last

variable {key : β → String} {name : String} {xs : List β} {b x : β}

theorem key_eq (h : Last key name xs b) : key b = name := by
  obtain ⟨_, _, _, hk, _⟩ := h
  exact hk

theorem mem (h : Last key name xs b) : b ∈ xs := by
  obtain ⟨before, after, rfl, _⟩ := h
  exact List.mem_append_right _ List.mem_cons_self

theorem not_nil : ¬ Last key name [] b := by
  rintro ⟨before, after, h, _⟩
  exact List.append_ne_nil_of_right_ne_nil _ (List.cons_ne_nil _ _) h.symm

/-- One more member at the end is the last of its name, and of no other. -/
theorem append_singleton_iff :
    Last key name (xs ++ [x]) b ↔ if key x = name then b = x else Last key name xs b := by
  constructor
  · rintro ⟨before, after, heq, hk, hafter⟩
    rcases List.eq_nil_or_concat' after with rfl | ⟨after', y, rfl⟩
    · obtain ⟨-, hx⟩ := List.append_inj' heq rfl
      rw [List.singleton_inj] at hx
      rw [hx, if_pos hk]
    · rw [← List.cons_append, ← List.append_assoc] at heq
      obtain ⟨hxs, hx⟩ := List.append_inj' heq rfl
      rw [List.singleton_inj] at hx
      rw [hx, if_neg (hafter y (by simp))]
      exact ⟨before, after', hxs, hk, fun d hd => hafter d (List.mem_append_left _ hd)⟩
  · intro h
    split at h
    · rename_i hk
      exact ⟨xs, [], by rw [h], h ▸ hk, fun d hd => by cases hd⟩
    · rename_i hk
      obtain ⟨before, after, rfl, hb, hafter⟩ := h
      refine ⟨before, after ++ [x], by simp, hb, fun d hd => ?_⟩
      rcases List.mem_append.mp hd with hd | hd
      · exact hafter d hd
      · rwa [List.mem_singleton.mp hd]

theorem exists_of_mem (h : name ∈ xs.map key) : ∃ b, Last key name xs b := by
  induction xs using List.reverseRecOn with
  | nil => cases h
  | append_singleton xs x ih =>
    by_cases hk : key x = name
    · exact ⟨x, append_singleton_iff.mpr (by rw [if_pos hk])⟩
    · rw [List.map_append, List.mem_append, List.map_singleton, List.mem_singleton,
        or_iff_left (Ne.symm hk)] at h
      obtain ⟨b, hb⟩ := ih h
      exact ⟨b, append_singleton_iff.mpr (by rwa [if_neg hk])⟩

theorem exists_of_member (h : x ∈ xs) : ∃ b, Last key (key x) xs b :=
  exists_of_mem (List.mem_map_of_mem h)

theorem unique {b' : β} (h : Last key name xs b) (h' : Last key name xs b') : b = b' := by
  induction xs using List.reverseRecOn with
  | nil => exact absurd h not_nil
  | append_singleton xs x ih =>
    rw [append_singleton_iff] at h h'
    split at h
    · rename_i hk
      rw [if_pos hk] at h'
      rw [h, h']
    · rename_i hk
      rw [if_neg hk] at h'
      exact ih h h'

end Last

/-! ## Whole lists -/

/-- The table with every member of a list entered under its own name. -/
def enterAll (key : β → String) (value : β → α) (t : ByName α) (xs : List β) : ByName α :=
  xs.foldl (fun t b => put (key b) (value b) t) t

theorem enterAll_append_singleton (key : β → String) (value : β → α) (t : ByName α) (xs : List β)
    (x : β) :
    enterAll key value t (xs ++ [x]) = put (key x) (value x) (enterAll key value t xs) := by
  simp [enterAll]

theorem ofList_eq (key : α → String) (xs : List α) : ofList key xs = enterAll key id [] xs := rfl

theorem names_enterAll (key : β → String) (value : β → α) (xs : List β) :
    (enterAll key value [] xs).names = (xs.map key).eraseDups := by
  induction xs using List.reverseRecOn with
  | nil => rfl
  | append_singleton xs x ih =>
    rw [enterAll_append_singleton, names_put, ih, List.map_append, List.map_singleton,
      eraseDups_append_singleton]
    simp only [List.mem_eraseDups]

theorem nodup_names_enterAll (key : β → String) (value : β → α) (xs : List β) :
    (enterAll key value [] xs).names.Nodup := by
  rw [names_enterAll]
  exact nodup_eraseDups _

/-- Under a name stands what the last member of that name gives. -/
theorem get?_enterAll {key : β → String} {value : β → α} {xs : List β} {n : String} {a : α} :
    (enterAll key value [] xs).get? n = some a ↔ ∃ b, Last key n xs b ∧ value b = a := by
  induction xs using List.reverseRecOn with
  | nil => simp [enterAll, get?, Last.not_nil]
  | append_singleton xs x ih =>
    rw [enterAll_append_singleton, get?_put]
    simp only [Last.append_singleton_iff, eq_comm (a := n)]
    by_cases hk : key x = n
    · simp [hk]
    · simp [hk, ih]

theorem mem_enterAll {key : β → String} {value : β → α} {xs : List β} {n : String} {a : α} :
    (n, a) ∈ enterAll key value [] xs ↔ ∃ b, Last key n xs b ∧ value b = a := by
  rw [← get?_eq_some_iff (nodup_names_enterAll key value xs), get?_enterAll]

/-! ## Maps that keep names -/

theorem map_put (f : α → β) (name : String) (a : α) (t : ByName α) :
    (put name a t).map (fun (n, b) => (n, f b)) =
      put name (f a) (t.map fun (n, b) => (n, f b)) := by
  induction t with
  | nil => rfl
  | cons e t ih =>
    obtain ⟨n, b⟩ := e
    by_cases h : n = name
    · simp only [put, if_pos h, List.map_cons]
    · simp only [put, if_neg h, List.map_cons, ih]

theorem ofList_map {key : α → String} {key' : β → String} {f : α → β}
    (hkey : ∀ a, key' (f a) = key a) (xs : List α) :
    ofList key' (xs.map f) = (ofList key xs).map fun (n, a) => (n, f a) := by
  induction xs using List.reverseRecOn with
  | nil => rfl
  | append_singleton xs x ih =>
    rw [List.map_append, List.map_singleton, ofList_eq, ofList_eq, enterAll_append_singleton,
      enterAll_append_singleton, ← ofList_eq, ← ofList_eq, ih, hkey, id, id, map_put]

theorem values_ofList_map {key : α → String} {key' : β → String} {f : α → β}
    (hkey : ∀ a, key' (f a) = key a) (xs : List α) :
    (ofList key' (xs.map f)).values = (ofList key xs).values.map f := by
  rw [ofList_map hkey, values, values, List.map_map, List.map_map]
  rfl

end Candidacy.ByName
