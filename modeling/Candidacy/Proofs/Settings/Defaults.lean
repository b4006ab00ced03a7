import Candidacy.Proofs.Session.Work
import Candidacy.Proofs.Settings.Configuration
import Candidacy.Proofs.Text.Padding
import Candidacy.Proofs.Value.Growth
import Candidacy.Settings.Defaults
import Candidacy.Settings.File

/-!
# The possessions of a configuration

A configuration may list possessions. Its settings keep those that are not blank, and a container made
with the settings goes by them unless there are none.

- `Lists`: the texts that a configuration table lists as possessions, blank ones among them.
- `Describes.possessions`: the settings keep them in order, less the blank ones.
- `defaultPossessions_toValue`: a container finds in the settings what is kept, or the standard
  possessions if nothing is.
-/

namespace Candidacy.Settings

variable {s : Store} {ref : Nat}

/-- The table lists these texts as possessions. -/
def Lists (s : Store) (ref : Nat) (ts : List String) : Prop :=
  ∃ inner v vs, s.valueUnder? ref "candidate" = some (.table inner) ∧
    s.valueUnder? inner "possessions" = some v ∧ ListLike s v vs ∧ List.Forall₂ ReadsText vs ts

theorem Lists.unique {ts us : List String} (hts : Lists s ref ts) (hus : Lists s ref us) :
    ts = us := by
  obtain ⟨_, _, vs, hinner, hv, hvs, hts⟩ := hts
  obtain ⟨_, _, _, hinner', hv', hws, hus⟩ := hus
  cases hinner.symm.trans hinner'
  cases hv.symm.trans hv'
  cases hvs.unique hws
  rw [(meets_checkTexts 0 vs).reads] at hts hus
  exact hts.2.symm.trans hus.2

/-- What is kept of possessions: those that are listed and not blank, or nothing if none are
listed. -/
theorem Describes.possessions {c : Settings} (h : Describes s ref c) :
    (∃ ts, Lists s ref ts ∧ c.possessions = some (dropBlank ts)) ∨
      (∀ ts, ¬ Lists s ref ts) ∧ c.possessions = none := by
  rcases fieldReads_iff.mp h.candidate with ⟨hsection, hps⟩ | ⟨v, hsection, hread⟩
  · refine .inr ⟨?_, hps⟩
    rintro ts ⟨_, _, _, hinner, -⟩
    cases hsection.symm.trans hinner
  · generalize c.possessions = ps at hread
    obtain @⟨inner, _, hfield, -⟩ := hread
    rcases fieldReads_iff.mp hfield with ⟨hunder, rfl⟩ | ⟨v, hunder, hread⟩
    · refine .inr ⟨?_, rfl⟩
      rintro ts ⟨_, _, _, hinner, hv, -⟩
      cases hsection.symm.trans hinner
      cases hunder.symm.trans hv
    · cases hread with
      | nothing =>
        refine .inr ⟨?_, rfl⟩
        rintro ts ⟨_, _, _, hinner, hv, hlist, -⟩
        cases hsection.symm.trans hinner
        cases hunder.symm.trans hv
        cases hlist
      | @listed _ vs ts hlist hts => exact .inl ⟨ts, ⟨inner, v, vs, hsection, hunder, hlist, hts⟩, rfl⟩

/-! ## Blank possessions -/

theorem mem_dropBlank {t : String} {ts : List String} :
    t ∈ dropBlank ts ↔ t ∈ ts ∧ ¬ Text.Blank t.toList := by
  rw [dropBlank, List.mem_filter, bne_iff_ne, ne_eq, Text.trim_eq_empty_iff]

theorem dropBlank_eq_nil_iff {ts : List String} :
    dropBlank ts = [] ↔ ∀ t ∈ ts, Text.Blank t.toList := by
  simp only [List.eq_nil_iff_forall_not_mem, mem_dropBlank, not_and, not_not]

theorem candidatePossessions_of_ne_nil {c : Settings} {ps : List String}
    (hps : c.possessions = some ps) (hne : ps ≠ []) : c.candidatePossessions = ps := by
  rw [candidatePossessions, hps]
  cases ps with
  | nil => exact (hne rfl).elim
  | cons => rfl

/-! ## Containers -/

theorem valueUnder?_newTable (s : Store) (entries : List (Value × Value)) (name : String) :
    (s.newTable entries).2.valueUnder? s.tables.size name =
      (entries.find? fun e => e.1.text? == some name).map (·.2) := by
  rw [Store.valueUnder?, Store.entries_newTable]

theorem valueUnder?_of_newTable (entries : List (Value × Value)) (h : ref < s.tables.size)
    (name : String) : (s.newTable entries).2.valueUnder? ref name = s.valueUnder? ref name := by
  rw [Store.valueUnder?, (Store.keeps_newTable s entries).entries ref h, ← Store.valueUnder?]

section Lookup

open Session

theorem run_get : (get : Lookup Store).run.run s = (.ok s, s) := rfl

theorem run_tableEntries :
    (Lookup.tableEntries (.table ref)).run.run s = (.ok (s.entries ref), s) := rfl

theorem run_takeAll {v : Value} {vs : List Value} (missing : Fault) (h : s.elements? v = some vs) :
    (Lookup.takeAll v missing).run.run s = (.ok vs, s.exhaust v) := by
  rw [Lookup.takeAll, Work.run_bind_ok run_get, h]
  rfl

theorem run_configured_of_none (hne : s.entries ref ≠ [])
    (h : s.valueUnder? ref "candidate" = none) :
    (Lookup.configured (.table ref)).run.run s = (.ok .none, s) := by
  have htrue : (!s.truthy (.table ref)) = false := by simpa [Store.truthy] using hne
  have hfind := Option.map_eq_none_iff.mp h
  rw [Lookup.configured, Work.run_bind_ok run_get, htrue, if_neg Bool.false_ne_true]
  dsimp only
  rw [Work.run_bind_ok run_tableEntries, hfind]
  rfl

theorem run_configured_of_section {inner : Nat} {v : Value} (hne : s.entries ref ≠ [])
    (h : s.valueUnder? ref "candidate" = some (.table inner))
    (hv : s.valueUnder? inner "possessions" = some v) :
    (Lookup.configured (.table ref)).run.run s = (.ok v, s) := by
  have htrue : (!s.truthy (.table ref)) = false := by simpa [Store.truthy] using hne
  obtain ⟨⟨k, _⟩, hfind, rfl⟩ := Option.map_eq_some_iff.mp h
  rw [Lookup.configured, Work.run_bind_ok run_get, htrue, if_neg Bool.false_ne_true]
  dsimp only
  rw [Work.run_bind_ok run_tableEntries, hfind]
  dsimp only
  rw [Work.run_bind_ok run_get, hv]
  rfl

theorem run_configured_toValue_none (level : String) (jsonLogs : Bool) (s : Store) :
    let made := toValue ⟨none, level, jsonLogs⟩ s
    (Lookup.configured made.1).run.run made.2 = (.ok .none, made.2) := by
  let s₁ := (s.newTable [(.text "level", .text level), (.text "json_logs", .bool jsonLogs)]).2
  let sections : List (Value × Value) := [(.text "logging", .table s.tables.size)]
  have htop : (s₁.newTable sections).2.entries s₁.tables.size = sections := Store.entries_newTable ..
  have hcandidate := valueUnder?_newTable s₁ sections "candidate"
  exact run_configured_of_none (htop ▸ List.cons_ne_nil _ _) hcandidate

theorem run_configured_toValue_some (ps : List String) (level : String) (jsonLogs : Bool)
    (s : Store) :
    let made := toValue ⟨some ps, level, jsonLogs⟩ s
    ∃ ref, (Lookup.configured made.1).run.run made.2 = (.ok (.list ref), made.2) ∧
      made.2.listItems ref = ps.map .text := by
  let s₁ := (s.newTable [(.text "level", .text level), (.text "json_logs", .bool jsonLogs)]).2
  let s₂ := (s₁.newList (ps.map .text)).2
  let s₃ := (s₂.newTable [(.text "possessions", .list s₁.lists.size)]).2
  let sections : List (Value × Value) :=
    [(.text "candidate", .table s₂.tables.size), (.text "logging", .table s.tables.size)]
  have htop : (s₃.newTable sections).2.entries s₃.tables.size = sections := Store.entries_newTable ..
  have hcandidate := valueUnder?_newTable s₃ sections "candidate"
  have hlist : (s₃.newTable sections).2.valueUnder? s₂.tables.size "possessions" =
      some (.list s₁.lists.size) := by
    have hold : s₂.tables.size < s₃.tables.size := by simp [s₃, Store.newTable]
    rw [valueUnder?_of_newTable sections hold, valueUnder?_newTable]
    rfl
  exact ⟨s₁.lists.size, run_configured_of_section (htop ▸ List.cons_ne_nil _ _) hcandidate hlist,
    Store.listItems_newList s₁ (ps.map .text)⟩

/-- What was kept of the possessions is what a container assumes, unless that is nothing. -/
theorem defaultPossessions_toValue (c : Settings) (s : Store) :
    let made := c.toValue s
    (defaultPossessions made.2 made.1).1 = .ok (c.candidatePossessions.map .text) := by
  obtain ⟨possessions, level, jsonLogs⟩ := c
  dsimp only
  show ((Lookup.defaultPossessions _).run.run _).1 = _
  cases possessions with
  | none =>
    rw [Lookup.defaultPossessions, Work.run_bind_ok (run_configured_toValue_none level jsonLogs s)]
    rfl
  | some ps =>
    obtain ⟨ref, hfound, hitems⟩ := run_configured_toValue_some ps level jsonLogs s
    rw [Lookup.defaultPossessions, Work.run_bind_ok hfound, Work.run_bind_ok run_get]
    generalize (toValue ⟨some ps, level, jsonLogs⟩ s).2 = s' at hitems
    have htruthy : s'.truthy (.list ref) = !ps.isEmpty := by simp [Store.truthy, hitems]
    have helements : s'.elements? (.list ref) = some (ps.map .text) := congrArg some hitems
    rw [htruthy]
    cases ps with
    | nil => rfl
    | cons t ts => exact congrArg Prod.fst (run_takeAll (.input (.notIterable .list)) helements)

end Lookup

end Candidacy.Settings
