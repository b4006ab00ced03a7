import Candidacy.Proofs.Requirement.WellFormed
import Mathlib.Logic.Relation

/-!
# Rearranging requirements

The parts of a composite may be put in another order, repeated, or stand in the place of a part that
joins them by the same operator, and a single requirement may be put into a composite of its own.
Whatever is done of this, at whatever depth and how often, a requirement asks for the same.

- `Requirement.Rearranges`: one such step.
- `Requirement.AsksSame`: what two requirements have in common that differ in how they are put.
- `Requirement.Rearranged.asksSame`: any number of steps leads to a requirement that asks the same.
-/

namespace Candidacy

namespace Requirement

/-- One step of rearranging: the parts of a composite in another order, one of them once more, those
of a part with the same operator in its place, a composite of the one requirement, or any of these in
a part. -/
inductive Rearranges : Requirement → Requirement → Prop
  | reorder {op : Operator} {ps qs : List Requirement} : ps.Perm qs →
    Rearranges (.composite op ps) (.composite op qs)
  | again {op : Operator} {ps qs : List Requirement} {r : Requirement} : r ∈ ps ++ qs →
    Rearranges (.composite op (ps ++ qs)) (.composite op (ps ++ r :: qs))
  | splice {op : Operator} {ps rs qs : List Requirement} :
    Rearranges (.composite op (ps ++ .composite op rs :: qs)) (.composite op (ps ++ rs ++ qs))
  | wrap {r : Requirement} (op : Operator) : Rearranges r (.composite op [r])
  | inside {op : Operator} {ps qs : List Requirement} {r u : Requirement} : Rearranges r u →
    Rearranges (.composite op (ps ++ r :: qs)) (.composite op (ps ++ u :: qs))

abbrev Rearranged : Requirement → Requirement → Prop := Relation.ReflTransGen Rearranges

/-- The same items held meet both requirements, both name the same items, and the second is well
formed if the first is. -/
structure AsksSame (t u : Requirement) : Prop where
  holds_eq : ∀ held, t.holds held = u.holds held
  mem_leaves_iff : ∀ x, x ∈ t.leaves ↔ x ∈ u.leaves
  wellFormed : t.WellFormed → u.WellFormed

namespace AsksSame

variable {t u v r : Requirement} {op : Operator} {ps qs rs : List Requirement}

theorem refl (t : Requirement) : t.AsksSame t := ⟨fun _ => rfl, fun _ => .rfl, id⟩

theorem trans (h : t.AsksSame u) (h' : u.AsksSame v) : t.AsksSame v where
  holds_eq held := (h.holds_eq held).trans (h'.holds_eq held)
  mem_leaves_iff x := (h.mem_leaves_iff x).trans (h'.mem_leaves_iff x)
  wellFormed hwf := h'.wellFormed (h.wellFormed hwf)

theorem items_eq (h : t.AsksSame u) : t.items = u.items := Text.sortedSet_congr h.mem_leaves_iff

/-- A composite depends on the set of its parts only. -/
theorem of_parts (h : ∀ r, r ∈ ps ↔ r ∈ qs) :
    (composite op ps).AsksSame (composite op qs) where
  holds_eq held := by
    rw [Bool.eq_iff_iff]
    cases op with
    | all => simp only [holds_all, List.all_eq_true, h]
    | any => simp only [holds_any, List.any_eq_true, h]
  mem_leaves_iff x := by simp only [mem_leaves_composite, h]
  wellFormed hwf := by
    obtain ⟨r, hr⟩ := List.exists_mem_of_ne_nil _ hwf.parts_ne_nil
    exact .composite (List.ne_nil_of_mem ((h r).mp hr)) fun r hr => hwf.part ((h r).mpr hr)

theorem splice : (composite op (ps ++ composite op rs :: qs)).AsksSame
    (composite op (ps ++ rs ++ qs)) where
  holds_eq held := by
    cases op with
    | all => simp only [holds_all, List.all_append, List.all_cons, Bool.and_assoc]
    | any => simp only [holds_any, List.any_append, List.any_cons, Bool.or_assoc]
  mem_leaves_iff x := by
    simp only [leaves_composite, List.flatMap_append, List.flatMap_cons, List.append_assoc]
  wellFormed hwf := by
    have hinner : (composite op rs).WellFormed := hwf.part (by simp)
    refine .composite (by simp [hinner.parts_ne_nil]) fun r hr => ?_
    rcases List.mem_append.mp hr with hr | hr
    · rcases List.mem_append.mp hr with hr | hr
      · exact hwf.part (List.mem_append_left _ hr)
      · exact hinner.part hr
    · exact hwf.part (List.mem_append_right _ (List.mem_cons_of_mem _ hr))

theorem wrap (op : Operator) (r : Requirement) : r.AsksSame (composite op [r]) where
  holds_eq held := (holds_singleton held op r).symm
  mem_leaves_iff x := by rw [leaves_composite, List.flatMap_singleton]
  wellFormed hwf := .composite (List.cons_ne_nil _ _) fun _ hr => List.mem_singleton.mp hr ▸ hwf

theorem inside (h : r.AsksSame u) :
    (composite op (ps ++ r :: qs)).AsksSame (composite op (ps ++ u :: qs)) where
  holds_eq held := holds_composite_congr (by
    rw [List.map_append, List.map_append, List.map_cons, List.map_cons, h.holds_eq])
  mem_leaves_iff x := by
    simp only [leaves_composite, List.flatMap_append, List.flatMap_cons, List.mem_append,
      h.mem_leaves_iff]
  wellFormed hwf := by
    refine .composite (by simp) fun p hp => ?_
    rcases List.mem_append.mp hp with hp | hp
    · exact hwf.part (List.mem_append_left _ hp)
    · rcases List.mem_cons.mp hp with rfl | hp
      · exact h.wellFormed (hwf.part (by simp))
      · exact hwf.part (List.mem_append_right _ (List.mem_cons_of_mem _ hp))

end AsksSame

theorem Rearranges.asksSame {t u : Requirement} (h : t.Rearranges u) : t.AsksSame u := by
  induction h with
  | reorder hperm => exact .of_parts fun _ => hperm.mem_iff
  | again hr =>
    refine .of_parts fun p => ?_
    rw [List.mem_append, List.mem_append, List.mem_cons]
    rw [List.mem_append] at hr
    constructor
    · exact fun hp => hp.imp_right .inr
    · rintro (hp | rfl | hp)
      · exact .inl hp
      · exact hr
      · exact .inr hp
  | splice => exact .splice
  | wrap op => exact .wrap op _
  | inside _ ih => exact .inside ih

/-- Rearranging leads to a requirement that asks the same: by induction over the steps. -/
theorem Rearranged.asksSame {t u : Requirement} (h : t.Rearranged u) : t.AsksSame u := by
  induction h with
  | refl => exact .refl t
  | tail _ hstep ih => exact ih.trans hstep.asksSame

end Requirement

end Candidacy
