import Candidacy.Number.Binary64
import Mathlib.Data.Int.Log
import Mathlib.Data.Rat.Floor
import Mathlib.Tactic.FieldSimp
import Mathlib.Tactic.Linarith
import Mathlib.Tactic.Ring

/-!
# Rounding to binary64

The number nearest to a quotient is found in two steps: an exponent that leaves 53 binary digits, as
far as there are exponents, and the integer nearest to the quotient on that scale.

- `NearestTo x k`: `k` is an integer nearest to `x`, an even one if there are two.
- `exponentFor_eq`: the exponent by the binary logarithm of the quotient.
- `magnitude_ofRatio_mono`: a greater quotient has no smaller nearest number.
- `abs_magnitude_ofRatio_sub_le`: how far from a quotient its nearest number may be.
-/

namespace Candidacy

/-! ## The nearest integer -/

/-- `k` is at most a half away from `x`, and even if it is exactly a half. -/
structure NearestTo (x : ℚ) (k : ℕ) : Prop where
  le_add_half : (k : ℚ) ≤ x + 1 / 2
  le_half_add : x ≤ k + 1 / 2
  even_of_tie : (k : ℚ) = x + 1 / 2 ∨ x = k + 1 / 2 → k % 2 = 0

theorem nearestTo_natCast (k : ℕ) : NearestTo k k := by
  refine ⟨by linarith, by linarith, ?_⟩
  rintro (h | h)
  · linarith
  · linarith

/-- Nearest integers are in the order of the numbers. Two out of order would both be ties between
neighbours, and neighbours are not both even. -/
theorem NearestTo.mono {x y : ℚ} {k l : ℕ} (hk : NearestTo x k) (hl : NearestTo y l) (h : x ≤ y) :
    k ≤ l := by
  by_contra hlt
  have hle : (l : ℚ) + 1 ≤ k := by exact_mod_cast Nat.lt_of_not_le hlt
  have hk1 := hk.le_add_half
  have hl1 := hl.le_half_add
  have hkeven := hk.even_of_tie (.inl (by linarith))
  have hleven := hl.even_of_tie (.inr (by linarith))
  have hsucc : (k : ℚ) = l + 1 := by linarith
  have hkl : k = l + 1 := by exact_mod_cast hsucc
  omega

theorem NearestTo.abs_sub_le {x : ℚ} {k : ℕ} (h : NearestTo x k) : |(k : ℚ) - x| ≤ 1 / 2 := by
  rw [abs_le]
  have hle := h.le_add_half
  have hge := h.le_half_add
  constructor <;> linarith

/-- The rule of `divEven` without division: twice the distance is at most the denominator. -/
theorem divEven_spec (num : ℕ) {den : ℕ} (hden : 0 < den) :
    2 * (divEven num den * den) ≤ 2 * num + den ∧
    2 * num ≤ 2 * (divEven num den * den) + den ∧
    (2 * (divEven num den * den) = 2 * num + den ∨ 2 * num = 2 * (divEven num den * den) + den →
      divEven num den % 2 = 0) := by
  have hnum := Nat.div_add_mod' num den
  have hr := Nat.mod_lt num hden
  unfold divEven
  simp only
  generalize num / den = q at *
  generalize num % den = r at *
  have hsucc : (q + 1) * den = q * den + den := Nat.succ_mul q den
  split
  · omega
  · split
    · omega
    · rcases Nat.mod_two_eq_zero_or_one q with h | h
      · rw [h, Nat.add_zero]
        omega
      · rw [h]
        omega

theorem nearestTo_divEven (num : ℕ) {den : ℕ} (hden : 0 < den) :
    NearestTo (num / den) (divEven num den) := by
  have hd : (0 : ℚ) < den := by exact_mod_cast hden
  obtain ⟨hlow, hup, htie⟩ := divEven_spec num hden
  generalize divEven num den = k at *
  have hx : (num : ℚ) / den * den = num := div_mul_cancel₀ _ hd.ne'
  have hlow' : 2 * ((k : ℚ) * den) ≤ 2 * num + den := by exact_mod_cast hlow
  have hup' : 2 * (num : ℚ) ≤ 2 * (k * den) + den := by exact_mod_cast hup
  refine ⟨?_, ?_, fun h => htie ?_⟩
  · refine le_of_mul_le_mul_right ?_ hd
    linarith
  · refine le_of_mul_le_mul_right ?_ hd
    linarith
  · refine h.imp (fun h => ?_) (fun h => ?_)
    · have h' : 2 * ((k : ℚ) * den) = 2 * num + den := by rw [h]; linarith
      exact_mod_cast h'
    · have h' : 2 * (num : ℚ) = 2 * (k * den) + den := by rw [← hx, h]; ring
      exact_mod_cast h'

namespace Binary64

/-! ## The exponent -/

theorem scaled_den_pos (num : ℕ) {den : ℕ} (hden : 0 < den) (e : ℤ) :
    0 < (scaled num den e).2 := Nat.mul_pos hden (Nat.pow_pos two_pos)

theorem scaled_ratio (num den : ℕ) (e : ℤ) :
    ((scaled num den e).1 : ℚ) / (scaled num den e).2 = num / den * 2 ^ (-e) := by
  have hpow : (2 : ℚ) ^ (-e) = 2 ^ (-e).toNat / 2 ^ e.toNat := by
    rw [← zpow_natCast, ← zpow_natCast, ← zpow_sub₀ two_ne_zero]
    congr 1
    omega
  simp only [scaled, Nat.pow_eq]
  push_cast
  rw [hpow, mul_div_mul_comm]

theorem scaled_lt_iff (num : ℕ) {den : ℕ} (hden : 0 < den) (e : ℤ) (b : ℕ) :
    (scaled num den e).1 < (scaled num den e).2 * b ↔ (num : ℚ) / den < b * 2 ^ e := by
  have hd : (0 : ℚ) < (scaled num den e).2 := by exact_mod_cast scaled_den_pos num hden e
  have hpow : (0 : ℚ) < 2 ^ e := zpow_pos two_pos e
  rw [← div_lt_iff₀ hpow, div_eq_mul_inv, ← zpow_neg, ← scaled_ratio, div_lt_iff₀ hd, mul_comm]
  norm_cast

theorem ratio_bounds {num den : ℕ} (hnum : 0 < num) (hden : 0 < den) :
    (2 : ℚ) ^ ((num.log2 : ℤ) - den.log2 - 1) ≤ num / den ∧
      (num / den : ℚ) < 2 ^ ((num.log2 : ℤ) - den.log2 + 1) := by
  have hd : (0 : ℚ) < den := by exact_mod_cast hden
  have hpow (k : ℤ) : (0 : ℚ) < 2 ^ k := zpow_pos two_pos k
  have hn1 : (2 : ℚ) ^ (num.log2 : ℤ) ≤ num := by exact_mod_cast Nat.log2_self_le hnum.ne'
  have hn2 : (num : ℚ) < 2 ^ ((num.log2 : ℤ) + 1) := by exact_mod_cast Nat.lt_log2_self
  have hd1 : (2 : ℚ) ^ (den.log2 : ℤ) ≤ den := by exact_mod_cast Nat.log2_self_le hden.ne'
  have hd2 : (den : ℚ) ≤ 2 ^ ((den.log2 : ℤ) + 1) := by exact_mod_cast Nat.lt_log2_self.le
  constructor
  · rw [le_div_iff₀ hd]
    calc (2 : ℚ) ^ ((num.log2 : ℤ) - den.log2 - 1) * den
        ≤ 2 ^ ((num.log2 : ℤ) - den.log2 - 1) * 2 ^ ((den.log2 : ℤ) + 1) :=
          mul_le_mul_of_nonneg_left hd2 (hpow _).le
      _ = 2 ^ (num.log2 : ℤ) := by rw [← zpow_add₀ two_ne_zero]; congr 1; ring
      _ ≤ num := hn1
  · rw [div_lt_iff₀ hd]
    calc (num : ℚ) < 2 ^ ((num.log2 : ℤ) + 1) := hn2
      _ = 2 ^ ((num.log2 : ℤ) - den.log2 + 1) * 2 ^ (den.log2 : ℤ) := by
          rw [← zpow_add₀ two_ne_zero]; congr 1; ring
      _ ≤ 2 ^ ((num.log2 : ℤ) - den.log2 + 1) * den :=
          mul_le_mul_of_nonneg_left hd1 (hpow _).le

theorem ratio_pos {num den : ℕ} (hnum : 0 < num) (hden : 0 < den) : (0 : ℚ) < num / den :=
  div_pos (Nat.cast_pos.mpr hnum) (Nat.cast_pos.mpr hden)

/-- The exponent leaves 53 binary digits, unless there is none so small. -/
theorem exponentFor_eq {num den : ℕ} (hnum : 0 < num) (hden : 0 < den) :
    exponentFor num den = max minExponent (Int.log 2 (num / den : ℚ) - 52) := by
  have hq := ratio_pos hnum hden
  obtain ⟨hlow, hup⟩ := ratio_bounds hnum hden
  rw [← Nat.cast_ofNat, Int.zpow_le_iff_le_log one_lt_two hq] at hlow
  rw [← Nat.cast_ofNat, Int.lt_zpow_iff_log_lt one_lt_two hq] at hup
  have htest := scaled_lt_iff num hden ((num.log2 : ℤ) - den.log2 - 52) (Nat.pow 2 52)
  have hunit : ((Nat.pow 2 52 : ℕ) : ℚ) * 2 ^ ((num.log2 : ℤ) - den.log2 - 52) =
      ((2 : ℕ) : ℚ) ^ ((num.log2 : ℤ) - den.log2) := by
    have h52 : ((Nat.pow 2 52 : ℕ) : ℚ) = 2 ^ (52 : ℤ) := by norm_num
    rw [h52, ← zpow_add₀ two_ne_zero]
    congr 1
    ring
  rw [hunit, Int.lt_zpow_iff_log_lt one_lt_two hq] at htest
  unfold exponentFor
  simp only
  split
  · rename_i h
    have hlog := htest.mp h
    congr 1
    omega
  · rename_i h
    have hlog := mt htest.mpr h
    congr 1
    omega

/-! ## The nearest number -/

def magnitude : Binary64 → ℚ
  | infinite _ => 0
  | finite _ m e => m * 2 ^ e

/-- The integer nearest to a quotient on the scale of its exponent. -/
def significandFor (num den : ℕ) : ℕ :=
  divEven (scaled num den (exponentFor num den)).1 (scaled num den (exponentFor num den)).2

theorem nearestTo_significandFor (num : ℕ) {den : ℕ} (hden : 0 < den) :
    NearestTo (num / den * 2 ^ (-exponentFor num den)) (significandFor num den) := by
  rw [← scaled_ratio]
  exact nearestTo_divEven _ (scaled_den_pos num hden _)

/-- A significand that rounds up to one more digit is written with the next exponent: the number is
the same. -/
theorem magnitude_ofRatio {num den : ℕ} (hnum : 0 < num)
    (hfinite : exponentFor num den < maxExponent) (negative : Bool) :
    (ofRatio negative num den).magnitude = significandFor num den * 2 ^ exponentFor num den := by
  rw [ofRatio, if_neg hnum.ne', significandFor]
  -- the parts are generalised before the case split, which would evaluate them otherwise
  generalize exponentFor num den = e at *
  conv => lhs; arg 1; zeta
  generalize scaled num den e = p
  obtain ⟨n, d⟩ := p
  dsimp only
  generalize divEven n d = m
  by_cases hfull : m = Nat.pow 2 53
  · have hcarry : ((Nat.pow 2 53 : ℕ) : ℚ) * 2 ^ e = (Nat.pow 2 52 : ℕ) * 2 ^ (e + 1) := by
      rw [zpow_add_one₀ two_ne_zero]
      norm_num
      ring
    have hnext : ¬ maxExponent < e + 1 := by omega
    simp only [hfull, if_true, if_neg hnext, magnitude, hcarry]
  · have hnext : ¬ maxExponent < e := by omega
    simp only [hfull, if_false, if_neg hnext, magnitude]

theorem magnitude_ofRatio_zero (den : ℕ) (negative : Bool) :
    (ofRatio negative 0 den).magnitude = 0 := by
  rw [ofRatio, if_pos rfl, zero, magnitude, Nat.cast_zero, zero_mul]

theorem magnitude_nonneg (x : Binary64) : 0 ≤ x.magnitude := by
  cases x with
  | infinite => exact le_refl _
  | finite s m e => exact mul_nonneg (Nat.cast_nonneg m) (zpow_pos two_pos e).le

/-! ## The order of the nearest numbers -/

section Order

variable {num den num' den' : ℕ} (hnum : 0 < num) (hden : 0 < den) (hnum' : 0 < num')
  (hden' : 0 < den')
include hnum hden

theorem significandFor_le : significandFor num den ≤ 2 ^ 53 := by
  refine (nearestTo_significandFor num hden).mono (nearestTo_natCast _) ?_
  have hlog := Int.lt_zpow_succ_log_self one_lt_two (num / den : ℚ)
  have hexp : Int.log 2 (num / den : ℚ) + 1 ≤ 53 + exponentFor num den := by
    rw [exponentFor_eq hnum hden]
    omega
  rw [zpow_neg, ← div_eq_mul_inv, div_le_iff₀ (zpow_pos two_pos _)]
  calc (num / den : ℚ) ≤ 2 ^ (Int.log 2 (num / den : ℚ) + 1) := hlog.le
    _ ≤ 2 ^ (53 + exponentFor num den) := zpow_le_zpow_right₀ one_le_two hexp
    _ = ((2 ^ 53 : ℕ) : ℚ) * 2 ^ exponentFor num den := by
      rw [zpow_add₀ two_ne_zero]
      norm_num

theorem le_significandFor (hexp : minExponent < exponentFor num den) :
    2 ^ 52 ≤ significandFor num den := by
  refine (nearestTo_natCast _).mono (nearestTo_significandFor num hden) ?_
  have hlog := Int.zpow_log_le_self one_lt_two (ratio_pos hnum hden)
  rw [exponentFor_eq hnum hden, lt_max_iff, or_iff_right (lt_irrefl _)] at hexp
  rw [zpow_neg, ← div_eq_mul_inv, le_div_iff₀ (zpow_pos two_pos _), exponentFor_eq hnum hden,
    max_eq_right hexp.le]
  have hunit : ((2 ^ 52 : ℕ) : ℚ) = 2 ^ (52 : ℤ) := by norm_num
  rw [hunit, ← zpow_add₀ two_ne_zero, add_sub_cancel]
  exact hlog

include hnum' hden'

theorem exponentFor_mono (hle : (num / den : ℚ) ≤ num' / den') :
    exponentFor num den ≤ exponentFor num' den' := by
  rw [exponentFor_eq hnum hden, exponentFor_eq hnum' hden']
  have hlog := Int.log_mono_right (b := 2) (ratio_pos hnum hden) hle
  exact max_le_max_left _ (sub_le_sub_right hlog _)

/-- Numbers with one exponent are in the order of their significands. With a greater exponent the
significand is at least `2 ^ 52`, and with the smaller one at most `2 ^ 53`. -/
theorem rounded_mono (hle : (num / den : ℚ) ≤ num' / den') :
    (significandFor num den * 2 ^ exponentFor num den : ℚ) ≤
      significandFor num' den' * 2 ^ exponentFor num' den' := by
  have hpow (e : ℤ) : (0 : ℚ) < 2 ^ e := zpow_pos two_pos e
  rcases (exponentFor_mono hnum hden hnum' hden' hle).eq_or_lt with heq | hlt
  · have hnearest := nearestTo_significandFor num hden
    rw [heq] at hnearest ⊢
    have hsig := hnearest.mono (nearestTo_significandFor num' hden')
      (mul_le_mul_of_nonneg_right hle (hpow _).le)
    exact mul_le_mul_of_nonneg_right (Nat.cast_le.mpr hsig) (hpow _).le
  · have hmin : minExponent < exponentFor num' den' := by
      rw [exponentFor_eq hnum hden] at hlt
      omega
    have hsig : (significandFor num den : ℚ) ≤ 2 ^ (53 : ℤ) := by
      exact_mod_cast significandFor_le hnum hden
    have hsig' : (2 : ℚ) ^ (52 : ℤ) ≤ significandFor num' den' := by
      exact_mod_cast le_significandFor hnum' hden' hmin
    calc (significandFor num den * 2 ^ exponentFor num den : ℚ)
        ≤ 2 ^ (53 : ℤ) * 2 ^ exponentFor num den :=
          mul_le_mul_of_nonneg_right hsig (hpow _).le
      _ = 2 ^ (52 : ℤ) * 2 ^ (exponentFor num den + 1) := by
          rw [← zpow_add₀ two_ne_zero, ← zpow_add₀ two_ne_zero]; congr 1; ring
      _ ≤ 2 ^ (52 : ℤ) * 2 ^ exponentFor num' den' :=
          mul_le_mul_of_nonneg_left (zpow_le_zpow_right₀ one_le_two hlt) (hpow _).le
      _ ≤ significandFor num' den' * 2 ^ exponentFor num' den' :=
          mul_le_mul_of_nonneg_right hsig' (hpow _).le

end Order

theorem exponentFor_lt_maxExponent {num den : ℕ} (hnum : 0 < num) (hden : 0 < den)
    (hlt : (num / den : ℚ) < 2 ^ (1023 : ℤ)) : exponentFor num den < maxExponent := by
  rw [← Nat.cast_ofNat, Int.lt_zpow_iff_log_lt one_lt_two (ratio_pos hnum hden)] at hlt
  have hmin : minExponent < maxExponent := by decide
  have hmax : maxExponent = 971 := rfl
  rw [exponentFor_eq hnum hden]
  omega

/-- The numbers nearest to quotients below `2 ^ 1023`, where none is infinite, are in the order of
the quotients. -/
theorem magnitude_ofRatio_mono {num den num' den' : ℕ} (hden : 0 < den) (hden' : 0 < den')
    (hle : (num / den : ℚ) ≤ num' / den') (hlt : (num' / den' : ℚ) < 2 ^ (1023 : ℤ))
    (negative : Bool) :
    (ofRatio negative num den).magnitude ≤ (ofRatio negative num' den').magnitude := by
  rcases Nat.eq_zero_or_pos num with rfl | hnum
  · rw [magnitude_ofRatio_zero]
    exact magnitude_nonneg _
  · have hnum' : 0 < num' := by
      refine Nat.pos_of_ne_zero ?_
      rintro rfl
      have hpos := (ratio_pos hnum hden).trans_le hle
      simp at hpos
    rw [magnitude_ofRatio hnum (exponentFor_lt_maxExponent hnum hden (hle.trans_lt hlt)),
      magnitude_ofRatio hnum' (exponentFor_lt_maxExponent hnum' hden' hlt)]
    exact rounded_mono hnum hden hnum' hden' hle

/-! ## The distance of the nearest number -/

/-- The number nearest to a quotient below `2 ^ k` is at most `2 ^ (k - 54)` away from it, half the
distance of its neighbours. -/
theorem abs_magnitude_ofRatio_sub_le {num den : ℕ} (hden : 0 < den) {k : ℤ} (hmin : -1021 ≤ k)
    (hmax : k ≤ 1023) (hlt : (num / den : ℚ) < 2 ^ k) (negative : Bool) :
    |(ofRatio negative num den).magnitude - num / den| ≤ 2 ^ (k - 54) := by
  have hpow (e : ℤ) : (0 : ℚ) < 2 ^ e := zpow_pos two_pos e
  rcases Nat.eq_zero_or_pos num with rfl | hnum
  · rw [magnitude_ofRatio_zero, Nat.cast_zero, zero_div, sub_zero, abs_zero]
    exact (hpow _).le
  · have hfinite := exponentFor_lt_maxExponent hnum hden
      (hlt.trans_le (zpow_le_zpow_right₀ one_le_two hmax))
    have hexponent : exponentFor num den - 1 ≤ k - 54 := by
      rw [← Nat.cast_ofNat, Int.lt_zpow_iff_log_lt one_lt_two (ratio_pos hnum hden)] at hlt
      have hmin' : minExponent = -1074 := rfl
      rw [exponentFor_eq hnum hden]
      omega
    have hnear := (nearestTo_significandFor num hden).abs_sub_le
    rw [magnitude_ofRatio hnum hfinite]
    generalize exponentFor num den = e at *
    have hscale : (significandFor num den * 2 ^ e - num / den : ℚ) =
        (significandFor num den - num / den * 2 ^ (-e)) * 2 ^ e := by
      rw [sub_mul, mul_assoc, ← zpow_add₀ two_ne_zero, neg_add_cancel, zpow_zero, mul_one]
    calc |(significandFor num den * 2 ^ e - num / den : ℚ)|
        = |(significandFor num den - num / den * 2 ^ (-e) : ℚ)| * 2 ^ e := by
          rw [hscale, abs_mul, abs_of_pos (hpow e)]
      _ ≤ 1 / 2 * 2 ^ e := mul_le_mul_of_nonneg_right hnear (hpow e).le
      _ = 2 ^ (e - 1) := by rw [zpow_sub_one₀ two_ne_zero, mul_comm, one_div]
      _ ≤ 2 ^ (k - 54) := zpow_le_zpow_right₀ one_le_two hexponent

end Binary64

end Candidacy
