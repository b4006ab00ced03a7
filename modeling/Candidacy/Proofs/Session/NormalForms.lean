import Candidacy.Proofs.Session.Journal
import Candidacy.Proofs.Text.Padding

/-!
# Normal forms are canonical

White space around a text and the case of its letters do not matter for its normal form, whichever of
the two is done away with first. A normal form is its own normal form, and so possessions may be put
into normal form any number of times: a company that normalizes what it is given answers a service,
which has normalized it before, as it answers whoever asks directly.

- `Canonical`: what holds of the normal form of a text.
- `Settled`: what holds of the normal forms of a collection of possessions.
- `normalForms_canonical`: all texts and all accepted collections are so.
-/

namespace Candidacy

open Text

def NoCapital (cs : List Char) : Prop := ∀ c ∈ cs, ¬ ('A' ≤ c ∧ c ≤ 'Z')

/-- The normal form of a text is the same for all that differ from it in white space at the ends or
in the case of letters, and as short and small as the text can be made so. -/
structure Canonical (s : String) : Prop where
  padded : ∀ v w : String, Blank v.toList → Blank w.toList →
    normalizeItem (v ++ s ++ w) = normalizeItem s
  again : normalizeItem (normalizeItem s) = normalizeItem s
  lower : normalizeItem (lower s) = normalizeItem s
  lower_first : normalizeItem s = trim (Text.lower s)
  empty_iff : normalizeItem s = "" ↔ Blank s.toList
  trimmed : Trimmed (normalizeItem s).toList
  no_capital : NoCapital (normalizeItem s).toList

theorem trim_padded {v w : String} (hv : Blank v.toList) (hw : Blank w.toList) (s : String) :
    trim (v ++ s ++ w) = trim s := by
  rw [← String.toList_inj, toList_trim, toList_trim, String.toList_append, String.toList_append,
    trimChars_blank_around hv hw]

theorem noCapital_of_small {cs : List Char} (h : ∀ c ∈ cs, IsSmall c) : NoCapital cs :=
  fun c hc hcapital => (h c hc).not_capital hcapital

theorem canonical (s : String) : Canonical s := by
  have hnormal := normalizeItem_eq_self_iff.mp (normalizeItem_normalizeItem s)
  constructor
  case padded =>
    intro v w hv hw
    rw [normalizeItem, trim_padded hv hw, ← normalizeItem]
  case again => exact normalizeItem_normalizeItem s
  case lower => rw [normalizeItem, trim_lower, lower_lower, ← normalizeItem]
  case lower_first => rw [trim_lower, ← normalizeItem]
  case empty_iff => rw [normalizeItem_eq_empty_iff, trim_eq_empty_iff]
  case trimmed => exact hnormal.1
  case no_capital => exact noCapital_of_small hnormal.2

/-! ## Asking with normal forms -/

namespace Company

def answers (c : Company) (held : List String) : Bool := c.requirement.all (·.holds held)

theorem canWork_eq_answers (c : Company) (ps : List String) :
    c.canWork ps = c.answers (heldItems ps) := by
  unfold canWork answers
  cases c.requirement with
  | none | some r => rfl

/-- Putting the items held into normal form once more changes no answer. -/
theorem canWork_held (c : Company) (ps : List String) :
    c.canWork (heldItems ps) = c.answers (heldItems ps) := by
  rw [canWork_heldItems, canWork_eq_answers]

end Company

namespace Session

/-- Normal forms of possessions are their own normal forms: a company to which they are given in the
place of the possessions gives the same answer, and the same as if it took them as they are. -/
structure Settled (s : Store) (possessions : Value) (items : List String) : Prop where
  again : ∀ t, Possessions.normalForms t (.frozenSet (items.map .text)) = (.ok items, t)
  company : ∀ c t, (Operation.canWork (.company c) (.frozenSet (items.map .text))).run.run t =
    (((Operation.canWork (.company c) possessions).run.run s).1, t)
  company_direct : ∀ c t, (Operation.canWork (.company c) (.frozenSet (items.map .text))).run.run t =
    (.ok (c.answers items), t)

/-- The questions about companies as answered by companies that take the items held as they are. -/
structure AskedOnce (cs : List Company) (ps : List String) : Prop where
  eligible : Screening.eligible cs ps = cs.filter (·.answers (heldItems ps))
  ineligible : Screening.ineligible cs ps = cs.filter fun c => !c.answers (heldItems ps)
  eligibility : Screening.eligibility cs ps = Screening.tally (·.answers (heldItems ps)) [] cs
  verdicts : Screening.verdicts cs ps =
    Screening.tally (fun c => ⟨c.answers (heldItems ps), c.requirementDescription⟩) [] cs

theorem askedOnce (cs : List Company) (ps : List String) : AskedOnce cs ps := by
  constructor
  case eligible => simp only [Screening.eligible, Company.canWork_held]
  case ineligible => simp only [Screening.ineligible, Company.canWork_held]
  case eligibility => simp only [Screening.eligibility, Company.canWork_held]
  case verdicts => simp only [Screening.verdicts, Company.canWork_held]

variable {s s' : Store} {possessions : Value} {items : List String}

theorem normalForms_eq_ok (h : Possessions.normalForms s possessions = (.ok items, s')) :
    ∃ words, Possessions.ofValue s possessions = (.ok words, s') ∧
      items = heldItems (words.map (·.text)) := by
  unfold Possessions.normalForms at h
  cases hread : Possessions.ofValue s possessions with
  | mk r s₁ =>
    rw [hread] at h
    cases r with
    | error why => cases h
    | ok words =>
      cases h
      exact ⟨words, rfl, rfl⟩

theorem settled_of_normalForms (h : Possessions.normalForms s possessions = (.ok items, s')) :
    Settled s possessions items := by
  obtain ⟨words, hwords, rfl⟩ := normalForms_eq_ok h
  have hdirect (c : Company) (t : Store) :
      (Operation.canWork (.company c)
        (.frozenSet ((heldItems (words.map (·.text))).map .text))).run.run t =
        (.ok (c.answers (heldItems (words.map (·.text)))), t) := by
    have hasked : (Journal.canWork (heldItems (words.map (·.text))) c).run.run (t, []) =
        (.ok (c.canWork (heldItems (words.map (·.text)))), (t, [])) := Journal.run_canWork _ c
    rw [Company.canWork_held] at hasked
    injection hasked with hanswer hstate
    exact Prod.ext hanswer (congrArg Prod.fst hstate)
  constructor
  case again =>
    intro t
    have hlisted := Journal.listed_frozenSet (s := t) (heldItems (words.map (·.text)))
    have hread := Possessions.ofValue_eq_ok_iff.mpr ⟨hlisted, rfl⟩
    have htexts : ((heldItems (words.map (·.text))).map Word.plain).map (·.text) =
        heldItems (words.map (·.text)) := by
      rw [List.map_map]
      exact List.map_id _
    rw [Possessions.normalForms, hread]
    show (Except.ok (heldItems (((heldItems _).map Word.plain).map (·.text))), t) = _
    rw [htexts, heldItems_heldItems]
  case company =>
    intro c t
    rw [hdirect, Operation.run_canWork, hwords]
    show _ = ((Except.ok (c.canWork (words.map (·.text))) : Except Fault Bool), t)
    rw [Company.canWork_eq_answers]
  case company_direct => exact hdirect

/-- The normal form of every text is canonical, the normal forms of accepted possessions are settled,
and a service might as well spare its companies the second normalization. -/
theorem normalForms_canonical :
    (∀ s, Canonical s) ∧
    (∀ s possessions items s', Possessions.normalForms s possessions = (.ok items, s') →
      Settled s possessions items) ∧
    ∀ cs ps, AskedOnce cs ps :=
  ⟨canonical, fun _ _ _ _ => settled_of_normalForms, askedOnce⟩

/-- A capital sigma at the end of a word is a final one whether or not white space follows. -/
theorem normalForms_canonical_sigma :
    normalizeItem ("\u2003" ++ "ΟΔΟΣ" ++ "\t ") = normalizeItem "ΟΔΟΣ" ∧
      normalizeItem "ΟΔΟΣ" = "οδος" :=
  ⟨(normalForms_canonical.1 "ΟΔΟΣ").padded "\u2003" "\t " (List.all_eq_true.mp (by decide +kernel))
    (List.all_eq_true.mp (by decide +kernel)), by decide +kernel⟩

end Session

end Candidacy
