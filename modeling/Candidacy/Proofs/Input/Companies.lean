import Candidacy.Proofs.Input.Reading

/-!
# What is accepted as companies and possessions

Values are accepted as companies exactly if each is one, and as possessions exactly if each is a
string. A run reads both, possessions first: `Report.Reads` says what it reads from the values it is
given, and `run_eq_ok_iff` that it succeeds if and only if there is something to read, with the
report drawn up from just that.
-/

namespace Candidacy

theorem Companies.checked_eq (vs : List Value) :
    checked vs = (Value.readAll Value.company? vs).mapError fun kind => .invalid (.companyKind kind) :=
  congrArg _ (ofList_eq vs)

theorem Companies.checked_eq_ok_iff {vs : List Value} {cs : List Company} :
    checked vs = .ok cs ↔ vs = cs.map .company := by
  rw [checked_eq, mapError_eq_ok_iff, Value.readAll_eq_ok_iff Value.company?_eq_some_iff]

namespace Report

theorem checkedWords_eq (vs : List Value) :
    checkedWords vs =
      (Value.readAll Value.word? vs).mapError fun kind => .invalid (.possessionKind kind) :=
  congrArg _ (Possessions.words_eq vs)

theorem checkedWords_eq_ok_iff {vs : List Value} {ws : List Word} :
    checkedWords vs = .ok ws ↔ vs = ws.map Word.toValue := by
  rw [checkedWords_eq, mapError_eq_ok_iff, Value.readAll_eq_ok_iff Value.word?_eq_some_iff]

/-- What a run reads from the values it is given: the possessions, and then, from the store as it is
after the walk through them, the companies. -/
structure Reads (s : Store) (companies possessions : Value) (cs : List Company)
    (words : List Word) : Prop where
  given : possessionsOf s possessions = (.ok (words.map Word.toValue), s.exhaust possessions)
  listed : (companiesOf (s.exhaust possessions) companies).1 = .ok (cs.map .company)

theorem reads_tuples (s : Store) (cs : List Company) (words : List Word) :
    Reads s (.tuple (cs.map .company)) (.tuple (words.map Word.toValue)) cs words := ⟨rfl, rfl⟩

theorem possessionsOf_eq_ok {s s' : Store} {possessions : Value} {vs : List Value}
    (h : possessionsOf s possessions = (.ok vs, s')) : s' = s.exhaust possessions := by
  unfold possessionsOf at h
  split at h
  any_goals cases h
  unfold Companies.walk at h
  split at h
  · cases h
  · cases h
    rfl

theorem run_of_reads {s : Store} {companies possessions : Value} {cs : List Company}
    {words : List Word} (h : Reads s companies possessions cs words) (timestamp : String) :
    (run s companies possessions timestamp).1 = .ok (draw cs words timestamp) := by
  obtain ⟨hp, hc⟩ := h
  unfold run
  rw [hp]
  cases hcs : companiesOf (s.exhaust possessions) companies with
  | mk r s₂ =>
    rw [hcs] at hc
    cases hc
    simp only [hcs, Companies.checked_eq_ok_iff.mpr rfl, checkedWords_eq_ok_iff.mpr rfl]
    rfl

theorem reads_of_run {s : Store} {companies possessions : Value} {timestamp : String}
    {t : Traced Report} (h : (run s companies possessions timestamp).1 = .ok t) :
    ∃ cs words, Reads s companies possessions cs words ∧ t = draw cs words timestamp := by
  unfold run at h
  split at h
  · cases h
  · rename_i given s₁ hp
    obtain rfl := possessionsOf_eq_ok hp
    split at h
    · cases h
    · rename_i vs s₂ hc
      cases hcs : Companies.checked vs with
      | error e => rw [hcs] at h; cases h
      | ok cs =>
        cases hws : checkedWords given with
        | error e => rw [hcs, hws] at h; cases h
        | ok words =>
          rw [hcs, hws] at h
          cases h
          rw [Companies.checked_eq_ok_iff] at hcs
          rw [checkedWords_eq_ok_iff] at hws
          exact ⟨cs, words, ⟨hws ▸ hp, by rw [hc, hcs]⟩, rfl⟩

/-- A run succeeds if and only if there are companies and possessions to read. -/
theorem run_eq_ok_iff {s : Store} {companies possessions : Value} {timestamp : String}
    {t : Traced Report} :
    (run s companies possessions timestamp).1 = .ok t ↔
      ∃ cs words, Reads s companies possessions cs words ∧ t = draw cs words timestamp := by
  refine ⟨reads_of_run, ?_⟩
  rintro ⟨cs, words, h, rfl⟩
  exact run_of_reads h timestamp

end Report

end Candidacy
