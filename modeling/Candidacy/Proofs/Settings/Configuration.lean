import Candidacy.Proofs.Settings.Scalars

/-!
# What a configuration is checked for

A configuration is accepted just if it keeps to the schema, and then makes the settings that it
describes. Otherwise all that is wrong with it is listed: one fault for each place at fault, section by
section and field by field, with unknown keys last.

- `ListLike`: the collections that may stand for a list.
- `Describes`: a configuration table that keeps to the schema, and the settings it makes.
- `TableAt`: what is wrong with a table, and at which place.
- `configuration_checked`: the outcome of the check, for every value.
-/

namespace Candidacy.Settings

variable {s : Store} {known : List String} {v : Value} {p : List Nat} {f g : SettingsFault}

/-! ## Keys -/

inductive KeyFault (s : Store) (known : List String) (key : Value) : SettingsFault → Prop
  | unknown {t : String} : key.text? = some t → t ∉ known →
      KeyFault s known key ⟨[.name t], .unknownName⟩
  | notText : key.text? = none → KeyFault s known key ⟨[keyStep s key], .keyNotText⟩

def KeyAt (s : Store) (known : List String) (entries : List (Value × Value)) : AtPlace :=
  InRow (fun _ e => KeyFault s known e.1) 0 entries

def KeysAmong (known : List String) (entries : List (Value × Value)) : Prop :=
  ∀ e ∈ entries, ∃ name ∈ known, e.1.text? = some name

theorem KeyFault.unique {key : Value} (hf : KeyFault s known key f) (hg : KeyFault s known key g) :
    f = g := by
  cases hf with
  | unknown ht =>
    cases hg with
    | unknown hu => rw [Option.some.inj (ht.symm.trans hu)]
    | notText hnone => cases ht.symm.trans hnone
  | notText hnone =>
    cases hg with
    | unknown hu => cases hu.symm.trans hnone
    | notText => rfl

theorem unknownKeys_cons (e : Value × Value) (entries : List (Value × Value)) :
    unknownKeys s known (e :: entries) = unknownKeys s known [e] ++ unknownKeys s known entries :=
  List.filterMap_append (l := [e])

theorem keyFault_iff_ne_known {key : Value} :
    (∀ f, ¬ KeyFault s known key f) ↔ ∃ name ∈ known, key.text? = some name := by
  constructor
  · intro hnone
    cases htext : key.text? with
    | none => exact (hnone _ (.notText htext)).elim
    | some t =>
      refine ⟨t, ?_, rfl⟩
      by_contra hunknown
      exact hnone _ (.unknown htext hunknown)
  · rintro ⟨name, hname, htext⟩ f hf
    cases hf with
    | unknown ht hunknown => exact hunknown (Option.some.inj (htext.symm.trans ht) ▸ hname)
    | notText hnone => cases htext.symm.trans hnone

theorem listing_key (n : Nat) (e : Value × Value) :
    Listing (fun p f => p = [n] ∧ KeyFault s known e.1 f) (unknownKeys s known [e]) := by
  by_cases hknown : ∃ name ∈ known, e.1.text? = some name
  · have hnil : unknownKeys s known [e] = [] := by
      obtain ⟨name, hname, htext⟩ := hknown
      simp [unknownKeys, htext, hname]
    rw [hnil]
    exact .nil fun p f hf => keyFault_iff_ne_known.mpr hknown f hf.2
  · have hsingle : ∃ f, KeyFault s known e.1 f ∧ unknownKeys s known [e] = [f] := by
      cases htext : e.1.text? with
      | none => exact ⟨_, .notText htext, by simp [unknownKeys, htext]⟩
      | some t =>
        have hunknown : t ∉ known := fun ht => hknown ⟨t, ht, htext⟩
        exact ⟨_, .unknown htext hunknown, by simp [unknownKeys, htext, hunknown]⟩
    obtain ⟨f, hf, hfaults⟩ := hsingle
    rw [hfaults]
    exact .single (fun g => ⟨fun hg => hg.unique hf, fun h => h ▸ hf⟩) [n]

theorem listing_unknownKeys (first : Nat) (entries : List (Value × Value)) :
    Listing (InRow (fun _ e => KeyFault s known e.1) first entries)
      (unknownKeys s known entries) := by
  induction entries generalizing first with
  | nil => exact .nil fun _ _ => inRow_nil
  | cons e entries ih =>
    rw [unknownKeys_cons]
    exact .cons (listing_key first e) (ih (first + 1))

theorem keysAmong_iff {entries : List (Value × Value)} :
    KeysAmong known entries ↔ ∀ p f, ¬ KeyAt s known entries p f := by
  constructor
  · rintro hkeys p f ⟨i, e, he, -, hf⟩
    exact keyFault_iff_ne_known.mpr (hkeys e (List.mem_of_getElem? he)) f hf
  · intro hnone e he
    obtain ⟨i, hi⟩ := List.mem_iff_getElem?.mp he
    exact keyFault_iff_ne_known.mp fun f hf => hnone _ f ⟨i, e, hi, rfl, hf⟩

theorem meets_unknownKeys (s : Store) (known : List String) (entries : List (Value × Value)) :
    Checked.Meets ⟨(), unknownKeys s known entries⟩ (fun _ => KeysAmong known entries)
      (KeyAt s known entries) := by
  have hlisting : Listing (KeyAt s known entries) (unknownKeys s known entries) :=
    listing_unknownKeys 0 entries
  refine ⟨hlisting, fun _ => ?_⟩
  rw [keysAmong_iff, ← hlisting.eq_nil_iff]
  exact (and_iff_left rfl).symm

/-! ## Possessions -/

/-- The value is a collection that may stand for a list, with its members. -/
inductive ListLike (s : Store) : Value → List Value → Prop
  | list (ref : Nat) : ListLike s (.list ref) (s.listItems ref)
  | tuple (items : List Value) : ListLike s (.tuple items) items
  | set (ref : Nat) : ListLike s (.set ref) (s.setMembers ref)
  | frozenSet (items : List Value) : ListLike s (.frozenSet items) items
  | iterator (ref : Nat) : ListLike s (.iterator ref) (s.remaining ref)

/-- The members of the value are looked at one by one. Those of checked settings are no texts. -/
inductive Walkable (s : Store) : Value → List Value → Prop
  | list {v : Value} {vs : List Value} : ListLike s v vs → Walkable s v vs
  | settings (c : Settings) : Walkable s (.settings c) (Store.sections c)

def MemberFault (i : Nat) (v : Value) (f : SettingsFault) : Prop :=
  ∃ flaw, TextFlaw v flaw ∧ f = ⟨[.index i], flaw⟩

/-- The possessions that the value sets, if it sets any: the texts listed that are not blank. -/
inductive ReadsPossessions (s : Store) : Value → Option (List String) → Prop
  | nothing : ReadsPossessions s .none none
  | listed {v : Value} {vs : List Value} {ts : List String} : ListLike s v vs →
      List.Forall₂ ReadsText vs ts → ReadsPossessions s v (some (dropBlank ts))

inductive PossessionsAt (s : Store) (v : Value) : AtPlace
  | notList : v ≠ .none → (∀ vs, ¬ Walkable s v vs) → PossessionsAt s v [] ⟨[], .notList⟩
  | member {vs : List Value} {i : Nat} {w : Value} {f : SettingsFault} : Walkable s v vs →
      vs[i]? = some w → MemberFault i w f → PossessionsAt s v [i] f

theorem members?_eq_some_iff {vs : List Value} : members? s v = some vs ↔ Walkable s v vs := by
  constructor
  · intro h
    cases v <;> cases h
    case settings.refl => exact .settings _
    all_goals
      refine .list ?_
      constructor
  · intro h
    cases h with
    | settings => rfl
    | list h =>
      cases h <;> rfl

theorem meets_checkTexts (first : Nat) (vs : List Value) :
    (checkTexts first vs).Meets (List.Forall₂ ReadsText vs) (InRow MemberFault first vs) := by
  induction vs generalizing first with
  | nil => exact .of_reads (fun ts => List.forall₂_nil_left_iff) fun _ _ => inRow_nil
  | cons v vs ih =>
    have hv := meets_checkText v
    refine ⟨.cons ?_ (ih (first + 1)).listing, fun ts => ?_⟩
    · refine ((hv.listing.under (.index first)).within first).congr fun p f => ?_
      constructor
      · rintro ⟨q, rfl, g, ⟨rfl, flaw, hflaw, rfl⟩, rfl⟩
        exact ⟨rfl, flaw, hflaw, rfl⟩
      · rintro ⟨rfl, flaw, hflaw, rfl⟩
        exact ⟨[], rfl, _, ⟨rfl, flaw, hflaw, rfl⟩, rfl⟩
    · simp only [List.forall₂_cons_left_iff, hv.reads, (ih (first + 1)).reads, checkTexts,
        SettingsFault.under, List.append_eq_nil_iff, List.map_eq_nil_iff]
      constructor
      · rintro ⟨_, _, ⟨ht, rfl⟩, ⟨hts, rfl⟩, rfl⟩
        exact ⟨⟨ht, hts⟩, rfl⟩
      · rintro ⟨⟨ht, hts⟩, rfl⟩
        exact ⟨_, _, ⟨ht, rfl⟩, ⟨hts, rfl⟩, rfl⟩

theorem ListLike.unique {vs ws : List Value} (h : ListLike s v vs) (h' : ListLike s v ws) :
    vs = ws := by
  cases h <;> cases h' <;> rfl

theorem Walkable.unique {vs ws : List Value} (h : Walkable s v vs) (h' : Walkable s v ws) :
    vs = ws := by
  rw [← members?_eq_some_iff] at h h'
  exact Option.some.inj (h.symm.trans h')

theorem MemberFault.unique {i : Nat} (hf : MemberFault i v f) (hg : MemberFault i v g) : f = g := by
  obtain ⟨flaw, hflaw, rfl⟩ := hf
  obtain ⟨flaw', hflaw', rfl⟩ := hg
  rw [hflaw.unique hflaw']

theorem readsText_of_walkable {vs : List Value} {ts : List String} (h : Walkable s v vs)
    (hts : List.Forall₂ ReadsText vs ts) : ListLike s v vs := by
  cases h with
  | list h => exact h
  | settings c =>
    cases hts with
    | cons ht _ => cases ht

theorem possessionsAt_iff_of_walkable {vs : List Value} (h : Walkable s v vs) :
    PossessionsAt s v p f ↔ InRow MemberFault 0 vs p f := by
  constructor
  · intro hf
    cases hf with
    | notList _ hnot => exact (hnot vs h).elim
    | @member ws i w _ hws hw hf =>
      rw [hws.unique h] at hw
      refine ⟨i, w, hw, ?_, ?_⟩
      · rw [Nat.zero_add]
      · rwa [Nat.zero_add]
  · rintro ⟨i, w, hw, rfl, hf⟩
    rw [Nat.zero_add] at hf ⊢
    exact .member h hw hf

theorem meets_nothing (s : Store) :
    Checked.Meets ⟨none, []⟩ (ReadsPossessions s .none) (PossessionsAt s .none) := by
  refine .of_reads (fun ps => ⟨?_, ?_⟩) fun p f hf => ?_
  · rintro (_ | ⟨⟨⟩, -⟩)
    rfl
  · rintro rfl
    exact .nothing
  · cases hf with
    | notList h => exact h rfl
    | member h => cases members?_eq_some_iff.mpr h

theorem meets_notList (hnone : v ≠ .none) (hnot : ∀ vs, ¬ Walkable s v vs) :
    Checked.Meets ⟨none, here .notList⟩ (ReadsPossessions s v) (PossessionsAt s v) := by
  refine .refused (fun ps => ?_) fun p f => ⟨fun hf => ?_, ?_⟩
  · rintro (_ | ⟨h, -⟩)
    · exact hnone rfl
    · exact hnot _ (.list h)
  · cases hf with
    | notList => exact ⟨rfl, rfl⟩
    | member h => exact (hnot _ h).elim
  · rintro ⟨rfl, rfl⟩
    exact .notList hnone hnot

theorem meets_listed {vs : List Value} (h : Walkable s v vs) (hnone : v ≠ .none) :
    Checked.Meets ⟨some (dropBlank (checkTexts 0 vs).value), (checkTexts 0 vs).faults⟩
      (ReadsPossessions s v) (PossessionsAt s v) := by
  have htexts := meets_checkTexts 0 vs
  refine ⟨htexts.listing.congr fun p f => (possessionsAt_iff_of_walkable h).symm, fun ps => ?_⟩
  constructor
  · rintro (_ | ⟨hws, hts⟩)
    · exact (hnone rfl).elim
    · rw [(Walkable.list hws).unique h, htexts.reads] at hts
      exact ⟨hts.1, congrArg (some <| dropBlank ·) hts.2⟩
  · rintro ⟨hnil, rfl⟩
    have hts := (htexts.reads _).mpr ⟨hnil, rfl⟩
    exact .listed (readsText_of_walkable h hts) hts

theorem meets_checkPossessions (s : Store) (v : Value) :
    (checkPossessions s v).Meets (ReadsPossessions s v) (PossessionsAt s v) := by
  unfold checkPossessions
  split
  · exact meets_nothing s
  · rename_i hnone
    split
    · rename_i hmembers
      refine meets_notList hnone fun vs h => ?_
      cases hmembers.symm.trans (members?_eq_some_iff.mpr h)
    · rename_i vs hmembers
      exact meets_listed (members?_eq_some_iff.mp hmembers) hnone

/-! ## Sections -/

inductive ReadsCandidate (s : Store) : Value → Option (List String) → Prop
  | table {ref : Nat} {ps : Option (List String)} :
      FieldReads (ReadsPossessions s) none (s.valueUnder? ref "possessions") ps →
      KeysAmong ["possessions"] (s.entries ref) → ReadsCandidate s (.table ref) ps

inductive CandidateAt (s : Store) : Value → AtPlace
  | notSection {v : Value} : (∀ ref, v ≠ .table ref) →
      CandidateAt s v [] ⟨[], .notSection "CandidateConfig"⟩
  | possessions {ref : Nat} {v : Value} {p : List Nat} {f : SettingsFault} :
      s.valueUnder? ref "possessions" = some v → PossessionsAt s v p f →
      CandidateAt s (.table ref) (0 :: p) ⟨.name "possessions" :: f.place, f.flaw⟩
  | key {ref : Nat} {p : List Nat} {f : SettingsFault} :
      KeyAt s ["possessions"] (s.entries ref) p f → CandidateAt s (.table ref) (1 :: p) f

inductive ReadsLogging (s : Store) : Value → String × Bool → Prop
  | table {ref : Nat} {level : String} {jsonLogs : Bool} :
      FieldReads ReadsText default.level (s.valueUnder? ref "level") level →
      FieldReads ReadsFlag default.jsonLogs (s.valueUnder? ref "json_logs") jsonLogs →
      KeysAmong ["level", "json_logs"] (s.entries ref) →
      ReadsLogging s (.table ref) (level, jsonLogs)

inductive LoggingAt (s : Store) : Value → AtPlace
  | notSection {v : Value} : (∀ ref, v ≠ .table ref) →
      LoggingAt s v [] ⟨[], .notSection "LoggingConfig"⟩
  | level {ref : Nat} {v : Value} {flaw : Flaw} :
      s.valueUnder? ref "level" = some v → TextFlaw v flaw →
      LoggingAt s (.table ref) [0] ⟨[.name "level"], flaw⟩
  | jsonLogs {ref : Nat} {v : Value} {flaw : Flaw} :
      s.valueUnder? ref "json_logs" = some v → FlagFlaw v flaw →
      LoggingAt s (.table ref) [1] ⟨[.name "json_logs"], flaw⟩
  | key {ref : Nat} {p : List Nat} {f : SettingsFault} :
      KeyAt s ["level", "json_logs"] (s.entries ref) p f → LoggingAt s (.table ref) (2 :: p) f

theorem candidateAt_table_iff {ref : Nat} :
    CandidateAt s (.table ref) p f ↔
      Within 0 (FieldAt "possessions" (PossessionsAt s) (s.valueUnder? ref "possessions")) p f ∨
        Within 1 (KeyAt s ["possessions"] (s.entries ref)) p f := by
  constructor
  · intro h
    cases h with
    | notSection h => exact (h ref rfl).elim
    | @possessions _ v p f hv hf => exact .inl ⟨p, rfl, f, ⟨v, hv, hf⟩, rfl⟩
    | @key _ p _ hf => exact .inr ⟨p, rfl, hf⟩
  · rintro (⟨p, rfl, f, ⟨v, hv, hf⟩, rfl⟩ | ⟨p, rfl, hf⟩)
    · exact .possessions hv hf
    · exact .key hf

theorem meets_checkCandidate (s : Store) (v : Value) :
    (checkCandidate s v).Meets (ReadsCandidate s v) (CandidateAt s v) := by
  unfold checkCandidate
  split
  · rename_i ref
    have hfield := meets_checkField (meets_checkPossessions s) s ref "possessions" none
    have hkeys := meets_unknownKeys s ["possessions"] (s.entries ref)
    refine ((hfield.within 0).next (before_within Nat.zero_lt_one _) hkeys fun ps _ => ps).congr
      (fun ps => ?_) fun p f => candidateAt_table_iff.symm
    constructor
    · rintro ⟨_, -, hps, hkeys, rfl⟩
      exact .table hps hkeys
    · rintro ⟨hps, hkeys⟩
      exact ⟨ps, (), hps, hkeys, rfl⟩
  · rename_i hnot
    refine .refused (fun ps => ?_) fun p f => ⟨fun hf => ?_, ?_⟩
    · rintro ⟨⟩
      exact hnot _ rfl
    · cases hf with
      | notSection => exact ⟨rfl, rfl⟩
      | possessions | key => exact (hnot _ rfl).elim
    · rintro ⟨rfl, rfl⟩
      exact .notSection hnot

theorem loggingAt_table_iff {ref : Nat} :
    LoggingAt s (.table ref) p f ↔
      (Within 0 (FieldAt "level" (Itself <| TextFlaw ·) (s.valueUnder? ref "level")) p f ∨
        Within 1 (FieldAt "json_logs" (Itself <| FlagFlaw ·) (s.valueUnder? ref "json_logs")) p f) ∨
        Within 2 (KeyAt s ["level", "json_logs"] (s.entries ref)) p f := by
  constructor
  · intro h
    cases h with
    | notSection h => exact (h ref rfl).elim
    | @level _ v flaw hv hf =>
      exact .inl (.inl ⟨[], rfl, ⟨[], flaw⟩, ⟨v, hv, rfl, flaw, hf, rfl⟩, rfl⟩)
    | @jsonLogs _ v flaw hv hf =>
      exact .inl (.inr ⟨[], rfl, ⟨[], flaw⟩, ⟨v, hv, rfl, flaw, hf, rfl⟩, rfl⟩)
    | @key _ p _ hf => exact .inr ⟨p, rfl, hf⟩
  · rintro ((⟨_, rfl, _, ⟨v, hv, rfl, flaw, hf, rfl⟩, rfl⟩ |
      ⟨_, rfl, _, ⟨v, hv, rfl, flaw, hf, rfl⟩, rfl⟩) | ⟨p, rfl, hf⟩)
    · exact .level hv hf
    · exact .jsonLogs hv hf
    · exact .key hf

theorem meets_checkLogging (s : Store) (v : Value) :
    (checkLogging s v).Meets (ReadsLogging s v) (LoggingAt s v) := by
  unfold checkLogging
  split
  · rename_i ref
    have hlevel := (meets_checkField meets_checkText s ref "level" default.level).within 0
    have hflag := (meets_checkField meets_checkFlag s ref "json_logs" default.jsonLogs)
    have hkeys := meets_unknownKeys s ["level", "json_logs"] (s.entries ref)
    have hlevel_first := before_within Nat.zero_lt_one
      (FieldAt "level" (Itself <| TextFlaw ·) (s.valueUnder? ref "level"))
    have hfields := hlevel.next hlevel_first hflag Prod.mk
    refine (hfields.next (hlevel_first.or Nat.one_lt_two _) hkeys fun c _ => c).congr
      (fun c => ?_) fun p f => loggingAt_table_iff.symm
    constructor
    · rintro ⟨_, -, ⟨level, jsonLogs, hlevel, hflag, rfl⟩, hkeys, rfl⟩
      exact .table hlevel hflag hkeys
    · rintro ⟨hlevel, hflag, hkeys⟩
      exact ⟨_, (), ⟨_, _, hlevel, hflag, rfl⟩, hkeys, rfl⟩
  · rename_i hnot
    refine .refused (fun ps => ?_) fun p f => ⟨fun hf => ?_, ?_⟩
    · rintro ⟨⟩
      exact hnot _ rfl
    · cases hf with
      | notSection => exact ⟨rfl, rfl⟩
      | level | jsonLogs | key => exact (hnot _ rfl).elim
    · rintro ⟨rfl, rfl⟩
      exact .notSection hnot

/-! ## Tables -/

/-- The table keeps to the schema, and these are the settings that it makes. -/
structure Describes (s : Store) (ref : Nat) (c : Settings) : Prop where
  candidate : FieldReads (ReadsCandidate s) none (s.valueUnder? ref "candidate") c.possessions
  logging : FieldReads (ReadsLogging s) (default.level, default.jsonLogs)
    (s.valueUnder? ref "logging") (c.level, c.jsonLogs)
  keys : KeysAmong ["candidate", "logging"] (s.entries ref)

inductive TableAt (s : Store) (ref : Nat) : AtPlace
  | candidate {v : Value} {p : List Nat} {f : SettingsFault} :
      s.valueUnder? ref "candidate" = some v → CandidateAt s v p f →
      TableAt s ref (0 :: p) ⟨.name "candidate" :: f.place, f.flaw⟩
  | logging {v : Value} {p : List Nat} {f : SettingsFault} :
      s.valueUnder? ref "logging" = some v → LoggingAt s v p f →
      TableAt s ref (1 :: p) ⟨.name "logging" :: f.place, f.flaw⟩
  | key {p : List Nat} {f : SettingsFault} :
      KeyAt s ["candidate", "logging"] (s.entries ref) p f → TableAt s ref (2 :: p) f

theorem tableAt_iff {ref : Nat} :
    TableAt s ref p f ↔
      (Within 0 (FieldAt "candidate" (CandidateAt s) (s.valueUnder? ref "candidate")) p f ∨
        Within 1 (FieldAt "logging" (LoggingAt s) (s.valueUnder? ref "logging")) p f) ∨
        Within 2 (KeyAt s ["candidate", "logging"] (s.entries ref)) p f := by
  constructor
  · intro h
    cases h with
    | @candidate v p f hv hf => exact .inl (.inl ⟨p, rfl, f, ⟨v, hv, hf⟩, rfl⟩)
    | @logging v p f hv hf => exact .inl (.inr ⟨p, rfl, f, ⟨v, hv, hf⟩, rfl⟩)
    | @key p _ hf => exact .inr ⟨p, rfl, hf⟩
  · rintro ((⟨p, rfl, f, ⟨v, hv, hf⟩, rfl⟩ | ⟨p, rfl, f, ⟨v, hv, hf⟩, rfl⟩) | ⟨p, rfl, hf⟩)
    · exact .candidate hv hf
    · exact .logging hv hf
    · exact .key hf

theorem meets_checkTable (s : Store) (ref : Nat) :
    (checkTable s ref).Meets (Describes s ref) (TableAt s ref) := by
  have hcandidate := (meets_checkField (meets_checkCandidate s) s ref "candidate" none).within 0
  have hlogging := meets_checkField (meets_checkLogging s) s ref "logging"
    (default.level, default.jsonLogs)
  have hkeys := meets_unknownKeys s ["candidate", "logging"] (s.entries ref)
  have hcandidate_first := before_within Nat.zero_lt_one
    (FieldAt "candidate" (CandidateAt s) (s.valueUnder? ref "candidate"))
  have hsections := hcandidate.next hcandidate_first hlogging fun ps l => Settings.mk ps l.1 l.2
  refine (hsections.next (hcandidate_first.or Nat.one_lt_two _) hkeys fun c _ => c).congr
    (fun c => ?_) fun p f => tableAt_iff.symm
  constructor
  · rintro ⟨_, -, ⟨ps, l, hps, hl, rfl⟩, hkeys, rfl⟩
    exact ⟨hps, hl, hkeys⟩
  · rintro ⟨hps, hl, hkeys⟩
    exact ⟨c, (), ⟨_, _, hps, hl, rfl⟩, hkeys, rfl⟩

/-! ## One fault for each place -/

theorem KeyAt.unique {entries : List (Value × Value)} (hf : KeyAt s known entries p f)
    (hg : KeyAt s known entries p g) : f = g := by
  obtain ⟨i, e, he, hp, hf⟩ := hf
  obtain ⟨j, e', he', hp', hg⟩ := hg
  obtain rfl : i = j := by
    rw [hp] at hp'
    injection hp' with hij
    omega
  rw [Option.some.inj (he.symm.trans he')] at hf
  exact hf.unique hg

theorem PossessionsAt.unique (hf : PossessionsAt s v p f) (hg : PossessionsAt s v p g) : f = g := by
  cases hf with
  | notList =>
    cases hg
    rfl
  | member h hw hf =>
    cases hg with
    | member h' hw' hg =>
      rw [h.unique h'] at hw
      rw [Option.some.inj (hw.symm.trans hw')] at hf
      exact hf.unique hg

theorem CandidateAt.unique (hf : CandidateAt s v p f) (hg : CandidateAt s v p g) : f = g := by
  cases hf with
  | notSection =>
    cases hg
    rfl
  | possessions hv hf =>
    cases hg with
    | possessions hv' hg =>
      obtain rfl := Option.some.inj (hv.symm.trans hv')
      rw [hf.unique hg]
  | key hf =>
    cases hg with
    | key hg => exact hf.unique hg

theorem LoggingAt.unique (hf : LoggingAt s v p f) (hg : LoggingAt s v p g) : f = g := by
  cases hf with
  | notSection =>
    cases hg
    rfl
  | level hv hf =>
    cases hg with
    | level hv' hg =>
      obtain rfl := Option.some.inj (hv.symm.trans hv')
      rw [hf.unique hg]
  | jsonLogs hv hf =>
    cases hg with
    | jsonLogs hv' hg =>
      obtain rfl := Option.some.inj (hv.symm.trans hv')
      rw [hf.unique hg]
  | key hf =>
    cases hg with
    | key hg => exact hf.unique hg

theorem TableAt.unique {ref : Nat} (hf : TableAt s ref p f) (hg : TableAt s ref p g) : f = g := by
  cases hf with
  | candidate hv hf =>
    cases hg with
    | candidate hv' hg =>
      obtain rfl := Option.some.inj (hv.symm.trans hv')
      rw [hf.unique hg]
  | logging hv hf =>
    cases hg with
    | logging hv' hg =>
      obtain rfl := Option.some.inj (hv.symm.trans hv')
      rw [hf.unique hg]
  | key hf =>
    cases hg with
    | key hg => exact hf.unique hg

/-! ## The outcome of the check -/

theorem ofValue_table_eq_ok_iff {ref : Nat} {c : Settings} :
    ofValue s (.table ref) = .ok c ↔ Describes s ref c := by
  rw [(meets_checkTable s ref).reads, ofValue]
  split
  · rename_i hnil
    simp [hnil]
  · rename_i hfaults
    simp [hfaults]

/-- The outcome of checking a value that is to be a configuration. -/
structure IsChecked (s : Store) (v : Value) : Prop where
  nothing : v = .none → ofValue s v = .ok default
  notTable : v ≠ .none → (∀ ref, v ≠ .table ref) → ofValue s v = .error .notTable
  accepted : ∀ ref c, v = .table ref → (ofValue s v = .ok c ↔ Describes s ref c)
  refused : ∀ ref, v = .table ref → (∀ c, ¬ Describes s ref c) →
    ∃ faults, faults ≠ [] ∧ ofValue s v = .error (.faults faults) ∧ Listing (TableAt s ref) faults
  faultless : ∀ ref c, v = .table ref → Describes s ref c → ∀ p f, ¬ TableAt s ref p f
  one_each : ∀ ref p f g, TableAt s ref p f → TableAt s ref p g → f = g

/-- A table is accepted just if it keeps to the schema, and otherwise all its faults are listed in
order, one for each place at fault. -/
theorem configuration_checked (s : Store) (v : Value) : IsChecked s v := by
  constructor
  case nothing =>
    rintro rfl
    rfl
  case notTable =>
    intro hnone hnot
    unfold ofValue
    split
    · exact (hnone rfl).elim
    · exact (hnot _ rfl).elim
    · rfl
  case accepted =>
    rintro ref c rfl
    exact ofValue_table_eq_ok_iff
  case refused =>
    rintro ref rfl hnot
    have hmeets := meets_checkTable s ref
    have hfaults : (checkTable s ref).faults ≠ [] := fun hnil =>
      hnot _ ((hmeets.reads _).mpr ⟨hnil, rfl⟩)
    exact ⟨_, hfaults, if_neg hfaults, hmeets.listing⟩
  case faultless =>
    rintro ref c - hc
    have hmeets := meets_checkTable s ref
    exact hmeets.listing.eq_nil_iff.mp ((hmeets.reads c).mp hc).1
  case one_each => exact fun ref p f g => TableAt.unique

/-- A table with a fault in each part: a possession that is no text, a key that is no text, a section
that is no table and an unknown name. -/
def faultyStore : Store :=
  { Store.empty with
    tables := #[
      [(.text "log", .none), (.text "logging", .int 1), (.text "candidate", .table 1)],
      [(.int 5, .none), (.text "possessions", .tuple [.text "bike", .int 3])]] }

theorem configuration_checked_faulty :
    (∀ c, ¬ Describes faultyStore 0 c) ∧
      ∃ faults, ofValue faultyStore (.table 0) = .error (.faults faults) ∧
        Listing (TableAt faultyStore 0) faults ∧
        faults = [
          ⟨[.name "candidate", .name "possessions", .index 1], .notText⟩,
          ⟨[.name "candidate", .index 5], .keyNotText⟩,
          ⟨[.name "logging"], .notSection "LoggingConfig"⟩,
          ⟨[.name "log"], .unknownName⟩] := by
  have hchecked := configuration_checked faultyStore (.table 0)
  have hnot (c : Settings) : ¬ Describes faultyStore 0 c := by
    rw [← hchecked.accepted 0 c rfl]
    exact nofun
  obtain ⟨faults, -, hfaults, hlisting⟩ := hchecked.refused 0 rfl hnot
  refine ⟨hnot, faults, hfaults, hlisting, ?_⟩
  injection hfaults with hfaults
  injection hfaults with hfaults
  rw [← hfaults]
  rfl

end Candidacy.Settings
