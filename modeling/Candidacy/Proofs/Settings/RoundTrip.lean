import Candidacy.Proofs.Settings.Defaults

/-!
# Settings as a configuration again

Settings say as a configuration what they were read from, less the blank possessions: checking that
configuration gives the same settings. Possessions that were not set are left out of it, so that they
are told from an empty list of possessions, though a container goes by the standard ones in both
cases.

- `Given`: the texts that a value lists as possessions.
- `WrittenAt`: the tables in which settings are written down.
- `WrittenAt.describes`: they keep to the schema and describe the settings.
- `read_again`: settings are read again from what they say as a configuration.
-/

namespace Candidacy.Settings

variable {s : Store} {v : Value} {ref : Nat} {c : Settings}

/-! ## What is kept of a configuration -/

def Given (s : Store) (v : Value) (ts : List String) : Prop :=
  ∃ ref, v = .table ref ∧ Lists s ref ts

theorem Given.unique {ts us : List String} (hts : Given s v ts) (hus : Given s v us) : ts = us := by
  obtain ⟨ref, rfl, hts⟩ := hts
  obtain ⟨_, ⟨⟩, hus⟩ := hus
  exact hts.unique hus

theorem possessions_of_ofValue (h : ofValue s v = .ok c) :
    (∃ ts, Given s v ts ∧ c.possessions = some (dropBlank ts)) ∨
      (∀ ts, ¬ Given s v ts) ∧ c.possessions = none := by
  cases v with
  | none =>
    cases h
    refine .inr ⟨?_, rfl⟩
    rintro ts ⟨_, hv, -⟩
    cases hv
  | table ref =>
    rcases (ofValue_table_eq_ok_iff.mp h).possessions with ⟨ts, hts, hps⟩ | ⟨hnot, hps⟩
    · exact .inl ⟨ts, ⟨ref, rfl, hts⟩, hps⟩
    · refine .inr ⟨?_, hps⟩
      rintro ts ⟨_, ⟨⟩, hts⟩
      exact hnot ts hts
  | _ => cases h

theorem dropBlank_dropBlank (ts : List String) : dropBlank (dropBlank ts) = dropBlank ts := by
  simp [dropBlank, List.filter_filter]

/-- Nothing is left in accepted settings for the check to drop. -/
theorem dropBlank_possessions (h : ofValue s v = .ok c) {ps : List String}
    (hps : c.possessions = some ps) : dropBlank ps = ps := by
  rcases possessions_of_ofValue h with ⟨ts, -, hkept⟩ | ⟨-, hnone⟩
  · obtain rfl : dropBlank ts = ps := Option.some.inj (hkept.symm.trans hps)
    exact dropBlank_dropBlank ts
  · cases hnone.symm.trans hps

/-! ## What settings say as a configuration -/

def loggingEntries (c : Settings) : List (Value × Value) :=
  [(.text "level", .text c.level), (.text "json_logs", .bool c.jsonLogs)]

/-- The tables that settings are written down in, with the entries in their order. -/
inductive WrittenAt (s : Store) (ref : Nat) (c : Settings) : Prop
  | unset {logging : Nat} : c.possessions = none →
      s.entries ref = [(.text "logging", .table logging)] →
      s.entries logging = c.loggingEntries → WrittenAt s ref c
  | given {candidate logging items : Nat} {ps : List String} : c.possessions = some ps →
      s.entries ref = [(.text "candidate", .table candidate), (.text "logging", .table logging)] →
      s.entries candidate = [(.text "possessions", .list items)] →
      s.listItems items = ps.map .text →
      s.entries logging = c.loggingEntries → WrittenAt s ref c

theorem writtenAt_toValue (c : Settings) (s : Store) :
    ∃ ref, (c.toValue s).1 = .table ref ∧ WrittenAt (c.toValue s).2 ref c := by
  obtain ⟨possessions, level, jsonLogs⟩ := c
  let s₁ := (s.newTable (loggingEntries ⟨possessions, level, jsonLogs⟩)).2
  have hlogging : s.tables.size < s₁.tables.size := by simp [s₁, Store.newTable]
  have hentries : s₁.entries s.tables.size = loggingEntries ⟨possessions, level, jsonLogs⟩ :=
    Store.entries_newTable ..
  cases possessions with
  | none =>
    refine ⟨s₁.tables.size, rfl, .unset rfl (Store.entries_newTable ..) ?_⟩
    rw [← hentries]
    exact (Store.keeps_newTable s₁ _).entries _ hlogging
  | some ps =>
    let s₂ := (s₁.newList (ps.map .text)).2
    let fields : List (Value × Value) := [(.text "possessions", .list s₁.lists.size)]
    let s₃ := (s₂.newTable fields).2
    let top : List (Value × Value) :=
      [(.text "candidate", .table s₂.tables.size), (.text "logging", .table s.tables.size)]
    have hkeeps₂ := Store.keeps_newTable s₂ fields
    have hkeeps₃ := Store.keeps_newTable s₃ top
    have hcandidate : (s₃.newTable top).2.entries s₂.tables.size = fields := by
      have hold : s₂.tables.size < s₃.tables.size := by simp [s₃, Store.newTable]
      exact (hkeeps₃.entries _ hold).trans (Store.entries_newTable ..)
    have hitems : (s₃.newTable top).2.listItems s₁.lists.size = ps.map .text := by
      have hold : s₁.lists.size < s₂.lists.size := by simp [s₂, Store.newList]
      exact ((hkeeps₂.trans hkeeps₃).listItems _ hold List.not_mem_nil).trans
        (Store.listItems_newList ..)
    have hkept : (s₃.newTable top).2.entries s.tables.size = s₁.entries s.tables.size :=
      ((Store.keeps_newList s₁ (ps.map .text)).trans (hkeeps₂.trans hkeeps₃)).entries _ hlogging
    exact ⟨s₃.tables.size, rfl,
      .given rfl (Store.entries_newTable ..) hcandidate hitems (hkept.trans hentries)⟩

theorem valueUnder?_of_entries {entries : List (Value × Value)} (h : s.entries ref = entries)
    (name : String) :
    s.valueUnder? ref name = (entries.find? fun e => e.1.text? == some name).map (·.2) := by
  rw [Store.valueUnder?, h]

theorem readsLogging_of_entries {logging : Nat} (h : s.entries logging = c.loggingEntries) :
    ReadsLogging s (.table logging) (c.level, c.jsonLogs) := by
  refine .table ?_ ?_ ?_
  · rw [valueUnder?_of_entries h]
    exact .given (.text c.level)
  · rw [valueUnder?_of_entries h]
    exact .given (.bool c.jsonLogs)
  · rw [h]
    simp [KeysAmong, loggingEntries, Value.text?, Value.word?, Word.text]

/-- What is written down keeps to the schema, and describes the settings if the check has nothing to
drop. -/
theorem WrittenAt.describes (h : WrittenAt s ref c)
    (hps : ∀ ps, c.possessions = some ps → dropBlank ps = ps) : Describes s ref c := by
  cases h with
  | @unset logging hnone htop hlogging =>
    constructor
    case candidate =>
      rw [valueUnder?_of_entries htop, hnone]
      exact .missing
    case logging =>
      rw [valueUnder?_of_entries htop]
      exact .given (readsLogging_of_entries hlogging)
    case keys =>
      rw [htop]
      simp [KeysAmong, Value.text?, Value.word?, Word.text]
  | @given candidate logging items ps hsome htop hcandidate hitems hlogging =>
    constructor
    case candidate =>
      rw [valueUnder?_of_entries htop, hsome]
      refine .given (.table ?_ ?_)
      · rw [valueUnder?_of_entries hcandidate, ← hps ps hsome]
        refine .given (.listed (.list items) ?_)
        rw [hitems]
        exact List.forall₂_map_left_iff.mpr (List.forall₂_same.mpr fun t _ => .text t)
      · rw [hcandidate]
        simp [KeysAmong, Value.text?, Value.word?, Word.text]
    case logging =>
      rw [valueUnder?_of_entries htop]
      exact .given (readsLogging_of_entries hlogging)
    case keys =>
      rw [htop]
      simp [KeysAmong, Value.text?, Value.word?, Word.text]

theorem ofValue_toValue (hps : ∀ ps, c.possessions = some ps → dropBlank ps = ps) (s : Store) :
    ofValue (c.toValue s).2 (c.toValue s).1 = .ok c := by
  obtain ⟨ref, hmade, hwritten⟩ := writtenAt_toValue c s
  rw [hmade]
  exact ofValue_table_eq_ok_iff.mpr (hwritten.describes hps)

theorem candidatePossessions_of_eq_nil (h : c.possessions = none ∨ c.possessions = some []) :
    c.candidatePossessions = standardPossessions := by
  rcases h with h | h <;> rw [candidatePossessions, h]

/-- Settings are read again from what they say as a configuration, and a container goes by it. -/
theorem read_again (h : ofValue s v = .ok c) (s' : Store) :
    let made := c.toValue s'
    (∀ ts, Given s v ts → c.possessions = some (ts.filter fun t => Text.trim t != "")) ∧
      ((∀ ts, ¬ Given s v ts) → c.possessions = none) ∧
      ofValue made.2 made.1 = .ok c ∧
      (∀ ps, c.possessions = some ps → ps ≠ [] →
        (defaultPossessions made.2 made.1).1 = .ok (ps.map .text)) ∧
      (c.possessions = none ∨ c.possessions = some [] →
        (defaultPossessions made.2 made.1).1 = .ok (standardPossessions.map .text)) := by
  intro made
  have hfound : (defaultPossessions made.2 made.1).1 = .ok (c.candidatePossessions.map .text) :=
    defaultPossessions_toValue c s'
  refine ⟨fun ts hts => ?_, fun hnot => ?_,
    ofValue_toValue (fun ps hps => dropBlank_possessions h hps) s', fun ps hps hne => ?_,
    fun hnil => ?_⟩
  · rcases possessions_of_ofValue h with ⟨us, hus, hkept⟩ | ⟨hnone, -⟩
    · rw [hkept, hts.unique hus]
      rfl
    · exact (hnone ts hts).elim
  · rcases possessions_of_ofValue h with ⟨ts, hts, -⟩ | ⟨-, hnone⟩
    · exact (hnot ts hts).elim
    · exact hnone
  · rw [hfound, candidatePossessions_of_ne_nil hps hne]
  · rw [hfound, candidatePossessions_of_eq_nil hnil]

/-- Two configurations: one lists a blank possession between two others, the second of them as bytes, and
spells the flag out; one lists nothing but a blank. -/
def blankStore : Store :=
  { Store.empty with
    tables := #[
      [(.text "logging", .table 1), (.text "candidate", .table 2)],
      [(.text "json_logs", .text "OFF")],
      [(.text "possessions", .tuple [.text " bike ", .text "\t\u00a0", .bytes [99, 97, 114]])],
      [(.text "candidate", .table 4)],
      [(.text "possessions", .tuple [.text "\u3000"])]] }

/-- What is not blank of the first list is kept as it is. Of the second an empty list is kept, for which a
container goes by the standard possessions. -/
theorem read_again_blank :
    let c : Settings := ⟨some [" bike ", "car"], "INFO", false⟩
    let c' : Settings := ⟨some [], "INFO", true⟩
    let made := c.toValue .empty
    let made' := c'.toValue .empty
    ofValue blankStore (.table 0) = .ok c ∧ ofValue made.2 made.1 = .ok c ∧
      (defaultPossessions made.2 made.1).1 = .ok [.text " bike ", .text "car"] ∧
      ofValue blankStore (.table 3) = .ok c' ∧ ofValue made'.2 made'.1 = .ok c' ∧
      (defaultPossessions made'.2 made'.1).1 = .ok [.text "bike", .text "driving license"] := by
  intro c c' made made'
  have hc : ofValue blankStore (.table 0) = .ok c := by decide +kernel
  have hc' : ofValue blankStore (.table 3) = .ok c' := by decide +kernel
  obtain ⟨-, -, hagain, hlisted, -⟩ := read_again hc .empty
  obtain ⟨-, -, hagain', -, hstandard⟩ := read_again hc' .empty
  exact ⟨hc, hagain, hlisted _ rfl (List.cons_ne_nil _ _), hc', hagain', hstandard (.inr rfl)⟩

end Candidacy.Settings
