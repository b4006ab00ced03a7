import Candidacy.SuccessRate
import Candidacy.Proofs.Number.Binary64
import Candidacy.Proofs.Number.Decimal

/-!
# Rounded success rates

A rate is rounded twice, and each time numbers keep their order: one more success among as many
never gives a smaller rate. Rounding twice could miss the nearest tenth only where the first rounding
reaches over a half. It does not: a percentage that is no half of a tenth is further away from one
than a binary64 number from what it is rounded from.

- `tenths_ofCounts_mono`: the order of rates.
- `RoundsTo`: what a rate has to do with the counts.
- `roundsTo_ofCounts`: the rates of totals below `2 ^ 32` are rounded correctly.
- `text_eq`: how a rate is written.
-/

namespace Candidacy.SuccessRate

open Binary64

theorem nearestTo_nearestTenth (x : Binary64) : NearestTo (10 * x.magnitude) (nearestTenth x) := by
  cases x with
  | infinite s =>
    have h := nearestTo_natCast 0
    simpa [magnitude, nearestTenth, ratio?] using h
  | finite s m e =>
    have h := nearestTo_divEven (10 * (scaled m 1 (-e)).1) (scaled_den_pos m Nat.one_pos (-e))
    rw [Nat.cast_mul, mul_div_assoc, scaled_ratio, neg_neg, Nat.cast_one, div_one] at h
    exact h

theorem nearestTenth_mono {x y : Binary64} (h : x.magnitude ≤ y.magnitude) :
    nearestTenth x ≤ nearestTenth y :=
  (nearestTo_nearestTenth x).mono (nearestTo_nearestTenth y)
    (mul_le_mul_of_nonneg_left h (by norm_num))

theorem percentage_le_hundred {e t : ℕ} (h : e ≤ t) (hpos : 0 < t) :
    ((100 * e : ℕ) / t : ℚ) ≤ 100 := by
  have hall : ((100 * e : ℕ) : ℚ) ≤ 100 * t := by exact_mod_cast Nat.mul_le_mul_left 100 h
  exact (div_le_iff₀ (Nat.cast_pos.mpr hpos)).mpr hall

/-- More of the same total is no smaller rate. -/
theorem tenths_ofCounts_mono {eligible eligible' total : ℕ} (h : eligible ≤ eligible')
    (h' : eligible' ≤ total) :
    (ofCounts eligible total).tenths ≤ (ofCounts eligible' total).tenths := by
  unfold ofCounts
  split
  · exact le_refl _
  · rename_i hne
    have hpos : 0 < total := Nat.pos_of_ne_zero hne
    have htotal : (0 : ℚ) < total := Nat.cast_pos.mpr hpos
    have hle : ((100 * eligible : ℕ) : ℚ) / total ≤ (100 * eligible' : ℕ) / total :=
      (div_le_div_iff_of_pos_right htotal).mpr (Nat.cast_le.mpr (Nat.mul_le_mul_left 100 h))
    have hlt : ((100 * eligible' : ℕ) : ℚ) / total < 2 ^ (1023 : ℤ) := by
      calc ((100 * eligible' : ℕ) : ℚ) / total ≤ 100 := percentage_le_hundred h' hpos
        _ < 2 ^ (7 : ℤ) := by norm_num
        _ ≤ 2 ^ (1023 : ℤ) := zpow_le_zpow_right₀ one_le_two (by norm_num)
    exact nearestTenth_mono (magnitude_ofRatio_mono hpos hpos hle hlt false)

/-! ## The nearest tenth -/

/-- The first rounding moves a rate by less than `2 ^ -43` tenths, the second by half a tenth. -/
theorem abs_tenths_sub_le {e t : ℕ} (h : e ≤ t) (hpos : 0 < t) :
    |((ofCounts e t).tenths - 10 * ((100 * e : ℕ) / t) : ℚ)| ≤ 1 / 2 + 10 * 2 ^ (-47 : ℤ) := by
  have hlt : ((100 * e : ℕ) / t : ℚ) < 2 ^ (7 : ℤ) :=
    (percentage_le_hundred h hpos).trans_lt (by norm_num)
  have hfirst := abs_magnitude_ofRatio_sub_le hpos (by norm_num) (by norm_num) hlt false
  have hsecond := (nearestTo_nearestTenth (ofRatio false (100 * e) t)).abs_sub_le
  rw [ofCounts, if_neg hpos.ne']
  rw [show (7 - 54 : ℤ) = -47 by norm_num] at hfirst
  rw [abs_le] at *
  constructor <;> linarith

/-- Twice the distance of a rate from the percentage, on the scale of tenths and of the total, is an
integer, and the first rounding adds less than one to it as long as the total is small. -/
theorem tenths_close {e t : ℕ} (h : e ≤ t) (hpos : 0 < t) (hsmall : t < 2 ^ 32) :
    2 * |((ofCounts e t).tenths * t - 1000 * e : ℤ)| ≤ t := by
  have ht : (0 : ℚ) < t := Nat.cast_pos.mpr hpos
  have hsum := abs_tenths_sub_le h hpos
  generalize (ofCounts e t).tenths = n at *
  have hscale : (n * t - 1000 * e : ℚ) = (n - 10 * ((100 * e : ℕ) / t)) * t := by
    push_cast
    field_simp
    ring
  have hrest : (20 * 2 ^ (-47 : ℤ) * t : ℚ) < 1 := by
    have hsmall' : (t : ℚ) < 2 ^ 32 := by exact_mod_cast hsmall
    calc (20 * 2 ^ (-47 : ℤ) * t : ℚ) ≤ 20 * 2 ^ (-47 : ℤ) * 2 ^ 32 :=
          mul_le_mul_of_nonneg_left hsmall'.le (by norm_num)
      _ < 1 := by norm_num
  have hdistance : 2 * |(n * t - 1000 * e : ℚ)| < t + 1 :=
    calc 2 * |(n * t - 1000 * e : ℚ)|
        = 2 * (|(n - 10 * ((100 * e : ℕ) / t) : ℚ)| * t) := by
          rw [hscale, abs_mul, abs_of_pos ht]
      _ ≤ 2 * ((1 / 2 + 10 * 2 ^ (-47 : ℤ)) * t) :=
          mul_le_mul_of_nonneg_left (mul_le_mul_of_nonneg_right hsum ht.le) zero_le_two
      _ = t + 20 * 2 ^ (-47 : ℤ) * t := by ring
      _ < t + 1 := by linarith
  have hint : 2 * |(n * t - 1000 * e : ℤ)| < t + 1 := by exact_mod_cast hdistance
  exact Int.lt_add_one_iff.mp hint

/-- Of the numbers a whole number of steps apart, one within half a step of zero is nearest to it. -/
theorem abs_le_abs_of_close {n e t : ℕ} (h : 2 * |(n * t - 1000 * e : ℤ)| ≤ t) (m : ℤ) :
    |(n * t - 1000 * e : ℤ)| ≤ |m * t - 1000 * e| := by
  by_cases hm : m = n
  · rw [hm]
  · have hstep : (m * t - 1000 * e : ℤ) - (n * t - 1000 * e) = (m - n) * t := by ring
    have hapart : (t : ℤ) ≤ |(m * t - 1000 * e : ℤ) - (n * t - 1000 * e)| := by
      rw [hstep, abs_mul, Nat.abs_cast]
      exact le_mul_of_one_le_left t.cast_nonneg (Int.one_le_abs (sub_ne_zero.mpr hm))
    have htriangle := abs_sub (m * t - 1000 * e : ℤ) (n * t - 1000 * e)
    omega

/-- The rate is the percentage of `e` among `t`, rounded to a tenth: no other number of tenths is
nearer. It is zero for none and a hundred for all. -/
structure RoundsTo (rate : SuccessRate) (e t : ℕ) : Prop where
  le_hundred : rate.tenths ≤ 1000
  of_no_total : t = 0 → rate.tenths = 0
  close : 0 < t → 2 * |(rate.tenths * t - 1000 * e : ℤ)| ≤ t
  nearest : 0 < t → ∀ m : ℤ, |(rate.tenths * t - 1000 * e : ℤ)| ≤ |m * t - 1000 * e|
  of_none : e = 0 → rate.tenths = 0
  of_all : 0 < t → e = t → rate.tenths = 1000

theorem roundsTo_ofCounts {e t : ℕ} (h : e ≤ t) (hsmall : t < 2 ^ 32) :
    (ofCounts e t).RoundsTo e t := by
  rcases Nat.eq_zero_or_pos t with rfl | hpos
  · obtain rfl : e = 0 := Nat.le_zero.mp h
    have hzero : (ofCounts 0 0).tenths = 0 := rfl
    constructor <;> simp [hzero]
  · have hclose := tenths_close h hpos hsmall
    have hnearest := abs_le_abs_of_close hclose
    generalize ofCounts e t = rate at *
    obtain ⟨hlow, hup⟩ : -(t : ℤ) ≤ 2 * (rate.tenths * t - 1000 * e) ∧
        2 * (rate.tenths * t - 1000 * e) ≤ (t : ℤ) := by
      rw [← abs_le, abs_mul]
      exact hclose
    -- a rate beyond `k` tenths is a whole total too great, and one below it too small
    have hbeyond {k : ℕ} (hk : k < rate.tenths) : (k * t + t : ℤ) ≤ rate.tenths * t := by
      exact_mod_cast (Nat.succ_mul k t).symm.le.trans (Nat.mul_le_mul_right t hk)
    have hbelow {k : ℕ} (hk : rate.tenths < k) : (rate.tenths * t + t : ℤ) ≤ k * t := by
      exact_mod_cast (Nat.succ_mul _ t).symm.le.trans (Nat.mul_le_mul_right t hk)
    have hle : rate.tenths ≤ 1000 := by
      by_contra hlt
      have hfar := hbeyond (Nat.lt_of_not_le hlt)
      omega
    refine ⟨hle, fun ht => absurd ht hpos.ne', fun _ => hclose, fun _ => hnearest, ?_, ?_⟩
    · rintro rfl
      by_contra hne
      have hfar := hbeyond (Nat.pos_of_ne_zero hne)
      omega
    · rintro - rfl
      by_contra hne
      have hfar := hbelow (lt_of_le_of_ne hle hne)
      omega

theorem toDigits_split {n : ℕ} (hn : 10 ≤ n) :
    Nat.toDigits 10 n = Nat.toDigits 10 (n / 10) ++ Nat.toDigits 10 (n % 10) := by
  rw [Nat.toDigits_of_base_le (by decide) hn, Nat.toDigits_of_lt_base (Nat.mod_lt n (by decide))]

theorem zeroPadded_toDigits (n : ℕ) : Decimal.zeroPadded 1 (Nat.toDigits 10 n) =
    Nat.toDigits 10 (n / 10) ++ Nat.toDigits 10 (n % 10) := by
  by_cases hn : 10 ≤ n
  · have hlong : 1 < (Nat.toDigits 10 n).length := by
      have hfirst : 0 < (Nat.toDigits 10 (n / 10)).length := Nat.length_toDigits_pos
      have hlast : 0 < (Nat.toDigits 10 (n % 10)).length := Nat.length_toDigits_pos
      rw [toDigits_split hn, List.length_append]
      omega
    rw [Decimal.zeroPadded_of_lt hlong, toDigits_split hn]
  · rw [Nat.div_eq_of_lt (by omega), Nat.mod_eq_of_lt (by omega),
      Nat.toDigits_of_lt_base (by omega)]
    rfl

theorem text_eq (rate : SuccessRate) :
    rate.text = toString (rate.tenths / 10) ++ "." ++ toString (rate.tenths % 10) := by
  have hlast : (Nat.toDigits 10 (rate.tenths % 10)).length = 1 := by
    rw [Nat.toDigits_of_lt_base (Nat.mod_lt _ (by decide))]
    rfl
  have hpositional := Decimal.positional_of_append (d := rate.decimal) (show -1 < 0 by decide)
    (zeroPadded_toDigits rate.tenths) hlast
  rw [← String.toList_inj, text, String.toList_ofList, hpositional]
  simp [Nat.toString_eq_repr]

end Candidacy.SuccessRate
