import Candidacy.Number.Decimal
import Mathlib.Data.List.Basic

/-!
# Lines

A text without line feeds is a line. Lines that are put one below the other can be told apart again.

- `OneLine`: a text without line feeds.
- `eq_of_intercalate_eq`: texts of lines are the same only if the lines are.
- `toString_injective`: so are the digits of numbers.
-/

namespace Candidacy.Text

def OneLine (s : String) : Prop := '\n' ∉ s.toList

instance (s : String) : Decidable (OneLine s) := inferInstanceAs (Decidable ('\n' ∉ s.toList))

theorem OneLine.append {s t : String} (hs : OneLine s) (ht : OneLine t) : OneLine (s ++ t) := by
  rw [OneLine, String.toList_append, List.mem_append]
  exact not_or.mpr ⟨hs, ht⟩

theorem mem_of_mem_intercalate {α : Type} {sep : List α} {xss : List (List α)} {x : α}
    (h : x ∈ sep.intercalate xss) : x ∈ sep ∨ ∃ xs ∈ xss, x ∈ xs := by
  induction xss with
  | nil => cases h
  | cons xs xss ih =>
    cases xss with
    | nil =>
      rw [List.intercalate_singleton] at h
      exact .inr ⟨xs, List.mem_cons_self, h⟩
    | cons ys yss =>
      rw [List.intercalate_cons_cons, List.mem_append, List.mem_append] at h
      rcases h with (h | h) | h
      · exact .inr ⟨xs, List.mem_cons_self, h⟩
      · exact .inl h
      · exact (ih h).imp_right fun ⟨zs, hzs, hx⟩ => ⟨zs, List.mem_cons_of_mem _ hzs, hx⟩

theorem OneLine.intercalate {sep : String} {ss : List String} (hsep : OneLine sep)
    (hss : ∀ s ∈ ss, OneLine s) : OneLine (sep.intercalate ss) := by
  rw [OneLine, String.toList_intercalate]
  intro h
  rcases mem_of_mem_intercalate h with h | ⟨_, hmem, h⟩
  · exact hsep h
  · obtain ⟨s, hs, rfl⟩ := List.mem_map.mp hmem
    exact hss s hs h

theorem eq_of_intercalate_eq {ls ms : List String} (hls : ∀ l ∈ ls, OneLine l)
    (hms : ∀ l ∈ ms, OneLine l) (hls' : ls ≠ []) (hms' : ms ≠ [])
    (h : "\n".intercalate ls = "\n".intercalate ms) : ls = ms := by
  have hsplit {ss : List String} (hss : ∀ l ∈ ss, OneLine l) (hne : ss ≠ []) :
      ("\n".intercalate ss).toList.splitOn '\n' = ss.map String.toList := by
    have hbreaks : ∀ cs ∈ ss.map String.toList, '\n' ∉ cs := by
      intro cs hcs
      obtain ⟨s, hs, rfl⟩ := List.mem_map.mp hcs
      exact hss s hs
    rw [String.toList_intercalate]
    exact List.splitOn_intercalate '\n' hbreaks (by simpa using hne)
  have hlists : ls.map String.toList = ms.map String.toList := by
    rw [← hsplit hls hls', h, hsplit hms hms']
  exact List.map_injective_iff.mpr (fun _ _ => String.toList_injective) hlists

/-! ## Numbers -/

theorem toString_injective {m n : Nat} (h : toString m = toString n) : m = n := by
  rw [Nat.toString_eq_repr, Nat.toString_eq_repr, ← String.toList_inj, Nat.toList_repr,
    Nat.toList_repr] at h
  rw [← @Nat.ofDigitChars_ten_toDigits m, h, Nat.ofDigitChars_ten_toDigits]

theorem not_mem_toDigits (n : Nat) : '\n' ∉ Nat.toDigits 10 n := by
  intro h
  have hdigit := Nat.isDigit_of_mem_toDigits (by decide) (by decide) h
  cases hdigit

theorem oneLine_toString (n : Nat) : OneLine (toString n) := by
  rw [OneLine, Nat.toString_eq_repr, Nat.toList_repr]
  exact not_mem_toDigits n

theorem not_mem_positional (d : Decimal) : '\n' ∉ d.positional := by
  have hzeros (k : Nat) : '\n' ∉ List.replicate k '0' := fun h => by
    cases List.eq_of_mem_replicate h
  have happend {cs ds : List Char} (hcs : '\n' ∉ cs) (hds : '\n' ∉ ds) : '\n' ∉ cs ++ ds :=
    fun h => (List.mem_append.mp h).elim hcs hds
  have hdigits := happend (hzeros ((-d.exponent).toNat + 1 -
      (decimal d.coefficient ++ List.replicate d.exponent.toNat '0').length))
    (happend (not_mem_toDigits d.coefficient) (hzeros d.exponent.toNat))
  unfold Decimal.positional
  refine happend (mt List.mem_of_mem_take hdigits) fun h => ?_
  rcases List.mem_cons.mp h with h | h
  · cases h
  · split at h
    · exact absurd h (by decide)
    · exact hdigits (List.mem_of_mem_drop h)

end Candidacy.Text
