import Candidacy.Proofs.Report.Lines
import Candidacy.Proofs.SuccessRate

/-!
# The success rate of a report

What a report says of its success rate, as a number and in its text, is the percentage of its
companies that the candidate may work for, to the nearest tenth.

- `lines_rate`: where the text has the rate.
- `rate_correctly_rounded`: the rate of drawn reports.
-/

namespace Candidacy.Report

variable {r r' : Report}

theorem Drawn.rate_eq (h : r.Drawn) : r.rate = .ofCounts r.eligibleCount r.outcomes.length := by
  obtain ⟨cs, words, timestamp, -, rfl⟩ := drawn_iff.mp h
  rfl

theorem Drawn.eligibleCount_le (h : r.Drawn) : r.eligibleCount ≤ r.outcomes.length := by
  obtain ⟨cs, words, timestamp, -, rfl⟩ := drawn_iff.mp h
  rw [eligibleCount_draw]
  exact List.length_filter_le _ _

theorem lines_rate (r : Report) :
    r.lines[r.outcomes.length + 10]? = some ("Success Rate: " ++ r.rate.text ++ "%") := by
  simp only [lines, List.append_assoc, List.cons_append, List.nil_append, List.getElem?_cons_succ]
  rw [List.getElem?_append_right (by simp)]
  simp

/-- The rate of a report is the percentage of its companies that the candidate may work for, rounded to
a tenth, and that is what the text of the report shows. Among as many companies, more of them never
give a smaller rate. -/
theorem rate_correctly_rounded (h : r.Drawn) (hsmall : r.outcomes.length < 2 ^ 32) :
    r.rate.RoundsTo r.eligibleCount r.outcomes.length ∧
      r.rate.decimal.negative = false ∧ r.rate.decimal.ratio = (r.rate.tenths, 10) ∧
      (∀ r' : Report, r'.Drawn → r'.outcomes.length = r.outcomes.length →
        r.eligibleCount ≤ r'.eligibleCount → r.rate.tenths ≤ r'.rate.tenths) ∧
      r.lines[r.outcomes.length + 10]? = some ("Success Rate: " ++
        (toString (r.rate.tenths / 10) ++ "." ++ toString (r.rate.tenths % 10)) ++ "%") := by
  have hrounds : r.rate.RoundsTo r.eligibleCount r.outcomes.length := by
    rw [h.rate_eq]
    exact SuccessRate.roundsTo_ofCounts h.eligibleCount_le hsmall
  have hratio : r.rate.decimal.ratio = (r.rate.tenths, 10) :=
    Prod.ext (Nat.mul_one r.rate.tenths) rfl
  have hline := lines_rate r
  rw [SuccessRate.text_eq] at hline
  refine ⟨hrounds, rfl, hratio, fun r' h' hlength hle => ?_, hline⟩
  rw [h.rate_eq, h'.rate_eq, hlength]
  exact SuccessRate.tenths_ofCounts_mono hle (hlength ▸ h'.eligibleCount_le)

/-- Two companies of three with different names make 66.7 percent: a name that stands twice counts
once, as the last company of the name answers. -/
theorem rate_correctly_rounded_two_thirds :
    let r := (draw [⟨"A", some (.item "boat")⟩, ⟨"B", none⟩, ⟨"A", some (.item "bike")⟩,
      ⟨"C", some (.item "boat")⟩] [.plain " Bike"] "2024-02-29T00:00:00+00:00").value
    r.Drawn ∧ r.outcomes.length = 3 ∧ r.eligibleCount = 2 ∧ r.rate.tenths = 667 ∧
      r.lines[13]? = some "Success Rate: 66.7%" := by
  intro r
  have h : r.Drawn := drawn_iff.mpr ⟨_, _, _, by decide +kernel, rfl⟩
  have hlength : r.outcomes.length = 3 := by decide +kernel
  have hcount : r.eligibleCount = 2 := by decide +kernel
  obtain ⟨hrounds, -, -, -, hline⟩ := rate_correctly_rounded h (by omega)
  have hclose := hrounds.close (by omega)
  have htenths : r.rate.tenths = 667 := by
    rw [hlength, hcount] at hclose
    have hnear : |(r.rate.tenths * 3 - 2000 : ℤ)| ≤ 1 := by
      push_cast at hclose
      omega
    obtain ⟨hlow, hup⟩ := abs_le.mp hnear
    omega
  rw [hlength, htenths] at hline
  exact ⟨h, hlength, hcount, htenths, hline⟩

end Candidacy.Report
