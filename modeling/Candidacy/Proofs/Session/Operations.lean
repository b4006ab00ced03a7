import Candidacy.Session.Step
import Candidacy.Proofs.Session.Safety

/-!
# Operations on a sound store

Every operation of a session is safe on sound values. Only appending to a list and popping from it
edit anything, and that list alone.
-/

namespace Candidacy

open Session (Work SoundValues SoundEntries)

variable {edited : List Nat} {s : Store} {α : Type}

/-! ## Default possessions -/

namespace Settings.Lookup

theorem safe_walk {walk : Store → Store} (hs : s.Sound) (hw : s.Walked (walk s)) :
    Work.Safe edited (modify walk) s fun _ _ => True :=
  ⟨hw.keeps.of_nil, hw.sound hs, fun _ _ => trivial⟩

theorem safe_takeAll {v : Value} (missing : Fault) (hs : s.Sound) (hv : v.Sound s) :
    Work.Safe edited (takeAll v missing) s SoundValues := by
  refine Work.safe_get_bind ?_
  split
  · exact Work.safe_throw hs
  · rename_i vs hvs
    refine (safe_walk hs (.exhaust s v)).bind fun _ s₁ hkeeps hs₁ _ => ?_
    exact Work.safe_pure hs₁ fun w hw => (hs.of_elements hv hvs hw).mono hkeeps.toWithin

theorem safe_entry (position : Nat) {v : Value} (hs : s.Sound) (hv : v.Sound s) :
    Work.Safe edited (entry position v) s fun s e => e.1.Sound s ∧ e.2.Sound s := by
  refine (safe_takeAll _ hs hv).bind fun vs s₁ _ hs₁ hvs => ?_
  split
  · rename_i key value
    split
    · exact Work.safe_throw hs₁
    · exact Work.safe_pure hs₁ ⟨hvs key (by simp), hvs value (by simp)⟩
  · exact Work.safe_throw hs₁

theorem safe_entries {source : Value} {position : Nat} {vs : List Value} (hs : s.Sound)
    (hvs : SoundValues s vs) :
    Work.Safe edited (entries source position vs) s SoundEntries := by
  induction vs generalizing s position with
  | nil => exact Work.safe_pure hs fun _ he => absurd he List.not_mem_nil
  | cons v vs ih =>
    obtain ⟨hv, hvs⟩ := List.forall_mem_cons.mp hvs
    refine (safe_walk hs (.advance source 1 .refl)).bind fun _ s₁ hkeeps₁ hs₁ _ => ?_
    have hv₁ := hv.mono hkeeps₁.toWithin
    refine (safe_entry position hs₁ hv₁).bind fun first s₂ hkeeps₂ hs₂ hfirst => ?_
    have hvs₂ : SoundValues s₂ vs :=
      fun w hw => (hvs w hw).mono (hkeeps₁.trans hkeeps₂).toWithin
    refine (ih hs₂ hvs₂).bind fun rest s₃ hkeeps₃ hs₃ hrest => ?_
    have hw := hkeeps₃.toWithin
    exact Work.safe_pure hs₃ (List.forall_mem_cons.mpr
      ⟨⟨hfirst.1.mono hw, hfirst.2.mono hw⟩, hrest⟩)

theorem safe_tableEntries {v : Value} (hs : s.Sound) (hv : v.Sound s) :
    Work.Safe edited (tableEntries v) s SoundEntries := by
  refine Work.safe_get_bind ?_
  split
  · exact Work.safe_pure hs fun _ he => hs.entries he
  · exact Work.safe_throw hs
  · rename_i vs _ hvs
    refine (safe_entries hs fun w hw => hs.of_elements hv hvs hw).bind fun es s₁ _ hs₁ hes => ?_
    refine Work.safe_pure hs₁ (Store.mem_foldl_putEntry hes ?_)
    exact fun _ he => absurd he List.not_mem_nil

theorem safe_configured {v : Value} (hs : s.Sound) (hv : v.Sound s) :
    Work.Safe edited (configured v) s Value.Sound := by
  refine Work.safe_get_bind ?_
  split
  · exact Work.safe_pure hs (.plain rfl)
  · dsimp only
    split
    · have hthrow : Work.Safe edited (noTable (α := Unit) .candidateSection) s fun _ _ => False :=
        Work.safe_throw hs
      exact hthrow.bind fun _ _ _ _ h => h.elim
    · refine (safe_tableEntries hs hv).bind fun es s₁ _ hs₁ _ => ?_
      split
      · exact Work.safe_pure hs₁ (.plain rfl)
      · rename_i ref _
        refine Work.safe_get_bind (Work.safe_pure hs₁ ?_)
        cases hunder : s₁.valueUnder? ref "possessions" with
        | none => exact .plain rfl
        | some w => exact hs₁.valueUnder? hunder
      · exact Work.safe_throw hs₁

theorem safe_defaultPossessions {v : Value} (hs : s.Sound) (hv : v.Sound s) :
    Work.Safe edited (defaultPossessions v) s SoundValues := by
  refine (safe_configured hs hv).bind fun possessions s₁ _ hs₁ hp => ?_
  refine Work.safe_get_bind ?_
  split
  · exact safe_takeAll _ hs₁ hp
  · refine Work.safe_pure hs₁ fun w hw => ?_
    obtain ⟨_, -, rfl⟩ := List.mem_map.mp hw
    exact .plain rfl

end Settings.Lookup

namespace Session

/-! ## Operations -/

namespace Operation

variable {v : Value}

theorem safe_unknownOperation {good : Store → α → Prop} (v : Value) (name : String) (hs : s.Sound) :
    (unknownOperation v name).Safe edited s good := Work.safe_throw hs

theorem safe_holds (requirement possessions : Value) (hs : s.Sound) :
    (holds requirement possessions).Safe edited s fun _ _ => True := by
  unfold holds
  split
  · have hread : (Work.ofInput (Possessions.normalForms · possessions)).Safe edited s
        fun _ _ => True :=
      Work.safe_ofInput hs (Possessions.walked_normalForms s possessions) fun _ _ => trivial
    exact hread.bind fun _ s₁ _ hs₁ _ => Work.safe_pure hs₁ trivial
  · exact safe_unknownOperation _ _ hs

theorem safe_canWork (company possessions : Value) (hs : s.Sound) :
    (canWork company possessions).Safe edited s fun _ _ => True := by
  unfold canWork
  split
  · have hread : (Work.ofInput (Possessions.ofValue · possessions)).Safe edited s
        fun _ _ => True :=
      Work.safe_ofInput hs (Possessions.walked_ofValue s possessions) fun _ _ => trivial
    exact hread.bind fun _ s₁ _ hs₁ _ => Work.safe_pure hs₁ trivial
  · exact safe_unknownOperation _ _ hs

theorem safe_normalForm (v : Value) (hs : s.Sound) :
    (normalForm v).Safe edited s Value.Sound := by
  unfold normalForm
  split
  any_goals exact Work.safe_pure hs (.plain rfl)
  exact safe_unknownOperation _ _ hs

theorem safe_distinct (v : Value) (hs : s.Sound) :
    (distinct v).Safe edited s fun _ _ => True := by
  have hwalk : (Work.ofInput (Companies.walk · v)).Safe edited s fun _ _ => True :=
    Work.safe_ofInput hs (Companies.walked_walk s v) fun _ _ => trivial
  refine hwalk.bind fun vs s₁ _ hs₁ _ => ?_
  refine (Work.safe_forM_unchangeable vs hs₁).bind fun _ s₂ _ hs₂ _ => ?_
  exact Work.safe_get_bind (Work.safe_pure hs₂ trivial)

theorem safe_equality (v w : Value) (hs : s.Sound) :
    (equality v w).Safe edited s fun _ _ => True := by
  refine (Work.safe_forM_unchangeable [v, w] hs).bind fun _ s₁ _ hs₁ _ => ?_
  exact Work.safe_get_bind (Work.safe_pure hs₁ trivial)

theorem touchField_eq_throw (deleting : Bool) (target : Value) (field : String) :
    ∃ why, (touchField deleting target field : Work α) = throw why := by
  unfold touchField
  split
  · exact ⟨_, rfl⟩
  · split
    · exact ⟨_, rfl⟩
    · exact ⟨_, rfl⟩

theorem safe_touchField {good : Store → α → Prop} (deleting : Bool) (target : Value)
    (field : String) (hs : s.Sound) : (touchField deleting target field).Safe edited s good := by
  obtain ⟨why, hwhy⟩ : ∃ why, (touchField deleting target field : Work α) = throw why :=
    touchField_eq_throw deleting target field
  rw [hwhy]
  exact Work.safe_throw hs

theorem safe_inWords (words : Store → Value → Except Unshowable String) (v : Value) (hs : s.Sound) :
    (inWords words v).Safe edited s fun _ _ => True :=
  Work.safe_ofInput hs .refl fun _ _ => trivial

theorem safe_append {list value : Value} (hs : s.Sound) (hv : value.Sound s)
    (hedited : ∀ ref, list = .list ref → edited = [ref]) :
    (append list value).Safe edited s fun _ _ => True := by
  unfold append
  split
  · rename_i ref
    have hitems : SoundValues s (s.listItems ref ++ [value]) := by
      intro w hw
      rcases List.mem_append.mp hw with hold | hnew
      · exact hs.listItems hold
      · rw [List.mem_singleton.mp hnew]
        exact hv
    rw [hedited ref rfl]
    exact ⟨Store.keeps_setList s ref _, hs.setList ref hitems, fun _ _ => trivial⟩
  · exact safe_unknownOperation _ _ hs

theorem run_pop_list (s : Store) (ref : Nat) :
    (pop (.list ref)).run.run s =
      (s.listItems ref).getLast?.elim (.error .emptyList, s) fun v =>
        (.ok v, s.setList ref (s.listItems ref).dropLast) := by
  have hget : ((get : Work Store).run.run s) = (.ok s, s) := rfl
  rw [pop, Work.run_bind_ok hget]
  dsimp only
  cases (s.listItems ref).getLast? <;> rfl

theorem safe_pop {list : Value} (hs : s.Sound)
    (hedited : ∀ ref, list = .list ref → edited = [ref]) :
    (pop list).Safe edited s Value.Sound := by
  unfold pop
  split
  · rename_i ref
    refine Work.safe_get_bind ?_
    dsimp only
    split
    · rename_i v hlast
      have hv := hs.listItems (List.mem_of_getLast? hlast)
      have hitems : SoundValues s (s.listItems ref).dropLast :=
        fun w hw => hs.listItems ((List.dropLast_sublist _).subset hw)
      have hkeeps := Store.keeps_setList s ref (s.listItems ref).dropLast
      rw [hedited ref rfl]
      refine ⟨hkeeps, hs.setList ref hitems, fun w hw => ?_⟩
      cases hw
      exact hv.mono hkeeps.toWithin
    · exact Work.safe_throw hs
  · exact safe_unknownOperation _ _ hs

theorem store_of_append_error {list value : Value} {why : Fault} {s' : Store}
    (h : (append list value).run.run s = (.error why, s')) : s' = s := by
  cases list
  case list => cases h
  all_goals
    cases h
    rfl

theorem store_of_pop_error {list : Value} {why : Fault} {s' : Store}
    (h : (pop list).run.run s = (.error why, s')) : s' = s := by
  cases list
  case list ref =>
    rw [run_pop_list] at h
    cases hlast : (s.listItems ref).getLast? with
    | none =>
      rw [hlast] at h
      cases h
      rfl
    | some v =>
      rw [hlast] at h
      cases h
  all_goals
    cases h
    rfl

theorem safe_tableOf {toValue : α → Value} (hplain : ∀ a, (toValue a).isPlain = true)
    (table : ByName α) (hs : s.Sound) : (tableOf toValue table).Safe edited s Value.Sound := by
  refine Work.safe_newTable hs fun e he => ?_
  obtain ⟨⟨name, a⟩, -, rfl⟩ := List.mem_map.mp he
  exact ⟨.plain rfl, .plain (hplain a)⟩

theorem safe_listOf {companies : List Company} (hs : s.Sound)
    (hcompanies : ∀ c ∈ companies, c.WellFormed) :
    (listOf companies).Safe edited s Value.Sound := by
  refine Work.safe_newList hs fun w hw => ?_
  obtain ⟨c, hc, rfl⟩ := List.mem_map.mp hw
  exact .company (hcompanies c hc)

theorem safe_screen (query : Query) {companies : Value} (possessions : Value) (hs : s.Sound)
    (hc : companies.Sound s) :
    (screen query companies possessions).Safe edited s fun s t => t.value.Sound s := by
  have hread : (Work.ofInput (Screening.Input.ofValues · companies possessions)).Safe edited s
      fun _ input => ∀ c ∈ input.companies, c.WellFormed :=
    Work.safe_ofInput hs (Screening.Input.walked_ofValues s companies possessions)
      fun _ hinput => Screening.Input.wellFormed_of_ofValues hs hc hinput
  refine hread.bind fun input s₁ _ hs₁ hcompanies => ?_
  cases query with
  | eligibility =>
    refine (safe_tableOf (fun _ => rfl) _ hs₁).bind fun w s₂ _ hs₂ hw => ?_
    exact Work.safe_pure hs₂ hw
  | verdicts =>
    refine (safe_tableOf (fun _ => rfl) _ hs₁).bind fun w s₂ _ hs₂ hw => ?_
    exact Work.safe_pure hs₂ hw
  | eligible =>
    refine (safe_listOf hs₁ fun c hc => hcompanies c ?_).bind fun w s₂ _ hs₂ hw =>
      Work.safe_pure hs₂ hw
    exact List.mem_of_mem_filter hc
  | ineligible =>
    refine (safe_listOf hs₁ fun c hc => hcompanies c ?_).bind fun w s₂ _ hs₂ hw =>
      Work.safe_pure hs₂ hw
    exact List.mem_of_mem_filter hc

theorem safe_companiesOf {records : Value} (hs : s.Sound) (hr : records.Sound s) :
    (companiesOf records).Safe edited s Value.Sound := by
  have hread : (Work.ofInput (Companies.ofRecordCollection · records)).Safe edited s
      fun _ cs => ∀ c ∈ cs, c.WellFormed :=
    Work.safe_ofInput hs (Companies.walked_ofRecordCollection s records)
      fun _ hcs => Companies.wellFormed_of_ofRecordCollection hs hr hcs
  exact hread.bind fun cs s₁ _ hs₁ hcs => safe_listOf hs₁ hcs

theorem safe_companiesUnder (pipeline : Value) (operation : String) (hs : s.Sound) :
    (companiesUnder pipeline operation).Safe edited s Value.Sound := by
  unfold companiesUnder
  split
  · rename_i ref
    exact Work.safe_get_bind (Work.safe_pure hs (hs.pipelineCompanies ref))
  · exact safe_unknownOperation _ _ hs

theorem safe_pipelineCompanies (pipeline : Value) (hs : s.Sound) :
    (pipelineCompanies pipeline).Safe edited s Value.Sound := by
  refine (safe_companiesUnder pipeline _ hs).bind fun companies s₁ _ hs₁ hc => ?_
  have hwalk := Report.walked_companiesOf s₁ companies
  have hread : (Work.ofInput (Report.companiesOf · companies)).Safe edited s₁ SoundValues :=
    Work.safe_ofInput hs₁ hwalk fun vs hvs w hw =>
      (Report.sound_of_companiesOf hs₁ hc hvs w hw).mono hwalk.keeps.toWithin
  exact hread.bind fun vs s₂ _ hs₂ hvs => Work.safe_newList hs₂ hvs

theorem safe_report (timestamp : String) (companies possessions : Value) (hs : s.Sound) :
    (report timestamp companies possessions).Safe edited s fun _ _ => True :=
  Work.safe_ofInput hs (Report.walked_run s companies possessions timestamp) fun _ _ => trivial

theorem safe_settings (configuration : Value) (hs : s.Sound) :
    (settings configuration).Safe edited s fun _ _ => True :=
  Work.safe_ofResult hs (Settings.walked_afterCheck s configuration) fun _ _ => trivial

theorem safe_base (v : Value) (hs : s.Sound) : (base v).Safe edited s fun _ _ => True := by
  unfold base
  split
  · exact Work.safe_pure hs trivial
  · exact Work.safe_pure hs trivial
  · exact Work.safe_throw hs
  · exact Work.safe_throw hs

theorem safe_levelText (v : Value) (hs : s.Sound) :
    (levelText v).Safe edited s fun _ _ => True := by
  unfold levelText
  split
  · exact Work.safe_pure hs trivial
  · exact Work.safe_pure hs trivial
  · exact Work.safe_throw hs
  · exact safe_unknownOperation _ _ hs

theorem safe_logSetup (level jsonLogs : Value) (hs : s.Sound) :
    (logSetup level jsonLogs).Safe edited s fun _ _ => True := by
  refine (safe_levelText level hs).bind fun text s₁ _ hs₁ _ => Work.safe_get_bind ?_
  split
  · exact Work.safe_pure hs₁ trivial
  · exact Work.safe_throw hs₁

end Operation

theorem Context.safe_container (e : Context) {settings : Value} (run : Bool) (hs : s.Sound)
    (hv : settings.Sound s) :
    (e.container settings run).Safe edited s fun s a => a.toValue.Sound s := by
  have hgiven : (Work.ofResult fun s => Settings.defaultPossessions s settings).Safe edited s
      SoundValues := Settings.Lookup.safe_defaultPossessions hs hv
  refine hgiven.bind fun given s₁ _ hs₁ hgiven => ?_
  split
  · refine (Work.safe_newList hs₁ hgiven).bind fun possessions s₂ _ hs₂ _ => ?_
    refine (Operation.safe_report e.timestamp .none possessions hs₂).bind fun r s₃ _ hs₃ _ => ?_
    exact Work.safe_pure hs₃ (.plain rfl)
  · exact Work.safe_pure hs₁ (.plain rfl)

end Session

end Candidacy
