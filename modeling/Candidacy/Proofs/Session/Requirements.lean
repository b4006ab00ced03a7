import Candidacy.Session.Operation
import Candidacy.Proofs.Requirement.Alternatives
import Candidacy.Proofs.Requirement.Describe
import Candidacy.Proofs.Session.Work

/-!
# Requirements in sessions

What a session can ask of a requirement depends on it only through the item lists it holds of and
the items it names. Both can be read off its alternatives (`satisfied_iff_alternative`), and of
requirements on items without brackets off the description (`descriptions_unambiguous`).
-/

namespace Candidacy.Session

theorem Operation.holds_congr {t u : Requirement} (h : ∀ held, t.holds held = u.holds held)
    (possessions : Value) :
    Operation.holds (.requirement t) possessions =
      Operation.holds (.requirement u) possessions := by
  unfold Operation.holds
  simp only [h]

/-- Two requirements on items without brackets have one description just if they are alike: the same
tree, but for the operators of composites of one part. Then the same possessions meet both, and both
have the same items. -/
theorem descriptions_unambiguous {t u : Requirement} (ht : t.WellFormed) (hu : u.WellFormed)
    (ht' : t.NoBrackets) (hu' : u.NoBrackets) :
    (t.describe = u.describe ↔ t.Alike u) ∧
      (t.describe = u.describe →
        (∀ possessions, Operation.holds (.requirement t) possessions =
          Operation.holds (.requirement u) possessions) ∧
        t.items = u.items) := by
  have halike (h : t.describe = u.describe) : t.Alike u :=
    Requirement.Readable.alike_of_describe_eq ⟨ht, ht'⟩ ⟨hu, hu'⟩ h
  refine ⟨⟨halike, Requirement.Alike.describe_eq⟩, fun h => ⟨fun possessions => ?_, ?_⟩⟩
  · exact Operation.holds_congr (fun held => (halike h).holds_eq held ht) possessions
  · exact congrArg Text.sortedSet (halike h).leaves_eq

/-- A composite of one part does not show its operator, and an item may have a small "and" in it. -/
theorem descriptions_unambiguous_one_part :
    let t : Requirement := .composite .any [.composite .all [.item "salt and pepper"], .item "wok"]
    let u : Requirement := .composite .any [.composite .any [.item "salt and pepper"], .item "wok"]
    (t.WellFormed ∧ u.WellFormed ∧ t.NoBrackets ∧ u.NoBrackets ∧ t.describe = u.describe) ∧
      t.Alike u ∧
      (∀ possessions, Operation.holds (.requirement t) possessions =
        Operation.holds (.requirement u) possessions) ∧
      t.items = u.items := by
  intro t u
  have ht : t.WellFormed := by decide +kernel
  have hu : u.WellFormed := by decide +kernel
  have ht' : t.NoBrackets := by unfold Requirement.NoBrackets; decide +kernel
  have hu' : u.NoBrackets := by unfold Requirement.NoBrackets; decide +kernel
  have hdescribe : t.describe = u.describe := by decide +kernel
  obtain ⟨hiff, hsame⟩ := descriptions_unambiguous ht hu ht' hu'
  exact ⟨⟨ht, hu, ht', hu', hdescribe⟩, hiff.mp hdescribe, hsame hdescribe⟩

/-! ## Alternatives -/

theorem Operation.run_holds (r : Requirement) (possessions : Value) (s : Store) :
    (Operation.holds (.requirement r) possessions).run.run s =
      (((Possessions.normalForms s possessions).1.map r.holds).mapError .input,
        (Possessions.normalForms s possessions).2) :=
  Work.run_ofInput_map (Possessions.normalForms · possessions) r.holds s

/-- Of accepted possessions a requirement holds if and only if the normal forms contain one of its
alternatives. There always is an alternative, none is empty, and together they make up the items. -/
theorem satisfied_iff_alternative {t : Requirement} (ht : t.WellFormed) {s s₁ : Store}
    {possessions : Value} {normal : List String}
    (h : Possessions.normalForms s possessions = (.ok normal, s₁)) :
    (∃ b, (Operation.holds (.requirement t) possessions).run.run s = (.ok b, s₁) ∧
      (b = true ↔ ∃ a ∈ t.alternatives, a ⊆ normal.toFinset)) ∧
    t.alternatives.Nonempty ∧ (∀ a ∈ t.alternatives, a.Nonempty) ∧
    t.alternatives.biUnion id = t.items.toFinset := by
  refine ⟨⟨t.holds normal, ?_, Requirement.holds_iff_alternative⟩, ht.alternatives_nonempty,
    fun a ha => ht.alternative_nonempty ha, ?_⟩
  · rw [Operation.run_holds, h]
    rfl
  · ext x
    rw [Finset.mem_biUnion, List.mem_toFinset, ht.mem_items_iff]
    rfl

/-- A home and an insurance, the home in one of two ways: two alternatives, and a house is enough
for the second together with the insurance. -/
theorem satisfied_iff_alternative_home :
    let t : Requirement :=
      .composite .all [.composite .any [.item "flat", .item "house"], .item "insurance"]
    let possessions : Value := .tuple [.text " House", .text "INSURANCE", .text "house"]
    (t.WellFormed ∧
      Possessions.normalForms .empty possessions = (.ok ["house", "insurance"], .empty)) ∧
    (∃ b, (Operation.holds (.requirement t) possessions).run.run .empty = (.ok b, .empty) ∧
      (b = true ↔ ∃ a ∈ t.alternatives, a ⊆ ["house", "insurance"].toFinset)) ∧
    t.alternatives.Nonempty ∧ (∀ a ∈ t.alternatives, a.Nonempty) ∧
    t.alternatives.biUnion id = t.items.toFinset := by
  intro t possessions
  have ht : t.WellFormed := by decide +kernel
  have hnormal : Possessions.normalForms .empty possessions =
      (.ok ["house", "insurance"], .empty) := by
    have hheld : heldItems [" House", "INSURANCE", "house"] = ["house", "insurance"] := by
      decide +kernel
    exact congrArg (fun items => (Except.ok items, Store.empty)) hheld
  exact ⟨⟨ht, hnormal⟩, satisfied_iff_alternative ht hnormal⟩

end Candidacy.Session
