import Candidacy.Proofs.CommandLine.Completion
import Candidacy.Proofs.Input.Acceptance
import Candidacy.Proofs.Input.Companies
import Candidacy.Proofs.Settings.Defaults
import Candidacy.Session.Operation

/-!
# What a run reports on

A run is about the possessions that its options give, or else about those that its configuration lists
and that are not blank, or else about the standard ones. What it prints is what a pipeline over the
sample companies reports for them, whatever the log is set up for.

- `RunOptions.Resolves`: the possessions that a run is about.
- `RunOptions.Rejects`: the configurations that are rejected for a run.
- `run_reports`: what a run prints, and how it ends if its configuration is rejected.
-/

namespace Candidacy.CommandLine

namespace RunOptions

variable {files : Path → FileEntry} {o : RunOptions} {c : Settings} {ps : List String}

/-! ## Possessions -/

/-- The configuration of the run lists these texts as possessions. -/
def Lists (files : Path → FileEntry) (o : RunOptions) (ts : List String) : Prop :=
  ∃ path bytes s ref, o.config = some path ∧ files (.ofString path) = .file bytes ∧
    Yaml.load (.ofBlocks (.ofBytes bytes)) = .ok (.table ref, s) ∧ Settings.Lists s ref ts

inductive Resolves (files : Path → FileEntry) (o : RunOptions) : List String → Prop
  | given : o.possessions ≠ [] → Resolves files o o.possessions
  | configured {ts : List String} : o.possessions = [] → o.Lists files ts →
      (∃ t ∈ ts, ¬ Text.Blank t.toList) → Resolves files o (Settings.dropBlank ts)
  | standard : o.possessions = [] →
      (∀ ts, o.Lists files ts → ∀ t ∈ ts, Text.Blank t.toList) →
      Resolves files o Settings.standardPossessions

theorem Lists.unique {ts us : List String} (hts : o.Lists files ts) (hus : o.Lists files us) :
    ts = us := by
  obtain ⟨_, _, _, _, hpath, hfile, hload, hts⟩ := hts
  obtain ⟨_, _, _, _, hpath', hfile', hload', hus⟩ := hus
  cases hpath.symm.trans hpath'
  cases hfile.symm.trans hfile'
  cases hload.symm.trans hload'
  exact hts.unique hus

theorem Resolves.unique {qs : List String} (hps : o.Resolves files ps) (hqs : o.Resolves files qs) :
    ps = qs := by
  cases hps with
  | given hne =>
    cases hqs with
    | given => rfl
    | configured hnil | standard hnil => exact (hne hnil).elim
  | configured hnil hts hsome =>
    cases hqs with
    | given hne => exact (hne hnil).elim
    | configured _ hus => rw [hts.unique hus]
    | standard _ hblank =>
      obtain ⟨t, ht, hnot⟩ := hsome
      exact (hnot (hblank _ hts t ht)).elim
  | standard hnil hblank =>
    cases hqs with
    | given hne => exact (hne hnil).elim
    | configured _ hus hsome =>
      obtain ⟨t, ht, hnot⟩ := hsome
      exact (hnot (hblank _ hus t ht)).elim
    | standard => rfl

theorem Accepts.possessions (h : o.Accepts files c) :
    (∃ ts, o.Lists files ts ∧ c.possessions = some (Settings.dropBlank ts)) ∨
      (∀ ts, ¬ o.Lists files ts) ∧ c.possessions = none := by
  cases h with
  | default hconfig =>
    refine .inr ⟨?_, rfl⟩
    rintro ts ⟨_, _, _, _, hpath, -⟩
    cases hconfig.symm.trans hpath
  | @file path bytes v s c hconfig hpath hfile hload hvalue =>
    have hlists {ts : List String} (h : o.Lists files ts) :
        ∃ ref, v = .table ref ∧ Settings.Lists s ref ts := by
      obtain ⟨_, _, _, ref, hconfig', hfile', hload', hts⟩ := h
      cases hconfig.symm.trans hconfig'
      cases hfile.symm.trans hfile'
      cases hload.symm.trans hload'
      exact ⟨ref, rfl, hts⟩
    cases v with
    | none =>
      cases hvalue
      refine .inr ⟨fun ts hts => ?_, rfl⟩
      obtain ⟨_, hv, -⟩ := hlists hts
      cases hv
    | table ref =>
      rcases (Settings.ofValue_table_eq_ok_iff.mp hvalue).possessions with ⟨ts, hts, hps⟩ | ⟨hnot, hps⟩
      · exact .inl ⟨ts, ⟨path, bytes, s, ref, hconfig, hfile, hload, hts⟩, hps⟩
      · refine .inr ⟨fun ts hts => ?_, hps⟩
        obtain ⟨_, ⟨⟩, hts⟩ := hlists hts
        exact hnot ts hts
    | _ => cases hvalue

theorem Accepts.resolves_configured (h : o.Accepts files c) (hnil : o.possessions = []) :
    o.Resolves files c.candidatePossessions := by
  rcases h.possessions with ⟨ts, hts, hps⟩ | ⟨hnot, hps⟩
  · by_cases hblank : ∀ t ∈ ts, Text.Blank t.toList
    · have hstandard : c.candidatePossessions = Settings.standardPossessions := by
        rw [Settings.candidatePossessions, hps, Settings.dropBlank_eq_nil_iff.mpr hblank]
      rw [hstandard]
      exact .standard hnil fun us hus => hus.unique hts ▸ hblank
    · have hkept := mt Settings.dropBlank_eq_nil_iff.mp hblank
      rw [Settings.candidatePossessions_of_ne_nil hps hkept]
      exact .configured hnil hts (by simpa using hblank)
  · have hstandard : c.candidatePossessions = Settings.standardPossessions := by
      rw [Settings.candidatePossessions, hps]
    rw [hstandard]
    exact .standard hnil fun ts hts => (hnot ts hts).elim

theorem Accepts.resolves (h : o.Accepts files c) : o.Resolves files (o.possessionsWith c) := by
  unfold possessionsWith
  split
  · rename_i hnil
    exact h.resolves_configured hnil
  · rename_i hne
    exact .given hne

/-! ## Rejected configurations -/

inductive Rejects (files : Path → FileEntry) (o : RunOptions) : SettingsRefusal → Prop where
  | file {path : String} {bytes : List UInt8} {v : Value} {s : Store} {why : SettingsRefusal}
      (hconfig : o.config = some path) (hpath : path.contains '\x00' = false)
      (hfile : files (.ofString path) = .file bytes)
      (hload : Yaml.load (.ofBlocks (.ofBytes bytes)) = .ok (v, s))
      (hvalue : Settings.ofValue s v = .error why) : Rejects files o why

theorem Rejects.settings_eq {why : SettingsRefusal} (h : o.Rejects files why) (hextra : o.extra = []) :
    o.settings files = .error (refused (.configRejected (.settings why))) := by
  obtain @⟨path, bytes, v, s, _, hconfig, hpath, hfile, hload, hvalue⟩ := h
  have hbytes : configBytes? files o = .ok (some bytes) := by
    simp only [configBytes?, hconfig, configBytes, hpath, Bool.false_eq_true, if_false, hfile]
    rfl
  have hrejected : Settings.ofBytes bytes = .error (.settings why) := by
    rw [Settings.ofBytes, hload]
    exact mapError_eq_error_iff.mpr ⟨why, hvalue, rfl⟩
  rw [RunOptions.settings_eq hbytes hextra, settingsOf, hrejected]
  rfl

/-! ## Runs -/

def LevelAccepted (o : RunOptions) (c : Settings) : Prop :=
  ∃ level, Level.ofText (o.levelWith c) = .ok level

theorem LevelAccepted.layout_eq_none (h : o.LevelAccepted c) :
    Level.layout? (o.levelWith c) = none := by
  obtain ⟨level, hlevel⟩ := h
  rw [Level.ofText_eq] at hlevel
  split at hlevel
  · cases hlevel
  · assumption

theorem run_report_samples {s : Store} {v : Value} (h : Possessions.Listed s v (ps.map .plain))
    (timestamp : String) :
    ((Session.Operation.report timestamp .none v).run.run s).1 =
      .ok (Report.draw Sample.companies (ps.map .plain) timestamp) := by
  have hreads : Report.Reads s .none v Sample.companies (ps.map .plain) :=
    ⟨Report.possessionsOf_eq_ok_iff.mpr h, rfl⟩
  rw [Session.Operation.report, Session.Work.run_ofInput, Report.run_of_reads hreads]
  rfl

theorem output_execute (haccepts : o.Accepts files c) (hextra : o.extra = [])
    (hlevel : o.LevelAccepted c) (hps : o.Resolves files ps) (timestamp : String) (log : Log) :
    (o.execute files timestamp log).ending.output =
      o.output (Report.draw Sample.companies (ps.map .plain) timestamp).value := by
  rw [hps.unique haccepts.resolves,
    execute_of_no_layout (haccepts.settings_eq hextra) hlevel.layout_eq_none]
  rfl

theorem execute_of_rejects {why : SettingsRefusal} (h : o.Rejects files why) (hextra : o.extra = [])
    (timestamp : String) (log : Log) :
    o.execute files timestamp log =
      ⟨.refused (UsageFault.configRejected (.settings why)).refusal, log⟩ := by
  rw [execute, h.settings_eq hextra]
  rfl

end RunOptions

/-- How runs with the options come out. -/
structure RunsOut (files : Path → FileEntry) (o : RunOptions) : Prop where
  /-- The options can be written down, whatever the texts given for possessions are. -/
  written : Command.ofArguments o.arguments = .ok (.run o)
  resolved : ∀ c, o.Accepts files c → ∃! ps, o.Resolves files ps
  /-- Without options the possessions are those that a container finds in the settings. -/
  container : ∀ c ps, o.Accepts files c → o.possessions = [] → o.Resolves files ps →
    ∀ s, (Settings.defaultPossessions (c.toValue s).2 (c.toValue s).1).1 = .ok (ps.map .text)
  printed : ∀ c ps, o.Accepts files c → o.LevelAccepted c → o.Resolves files ps →
    ∀ arguments timestamp log s v, Command.ofArguments arguments = .ok (.run o) →
      Possessions.Listed s v (ps.map .plain) →
      ∃ t, ((Session.Operation.report timestamp .none v).run.run s).1 = .ok t ∧
        (execute files timestamp log arguments).ending.output = o.output t.value ∧
        (execute files timestamp log arguments).ending.exitCode = 0
  /-- Other options, levels, flags and logs make no difference to what is printed. -/
  regardless : ∀ (files' : Path → FileEntry) (o' : RunOptions) c c' ps, o'.extra = [] →
    o.Accepts files c → o'.Accepts files' c' → o.LevelAccepted c → o'.LevelAccepted c' →
    o.Resolves files ps → o'.Resolves files' ps → o.json = o'.json → ∀ timestamp log log',
      (o.execute files timestamp log).ending.output =
        (o'.execute files' timestamp log').ending.output
  rejected : ∀ why, o.Rejects files why →
    ∀ arguments timestamp log, Command.ofArguments arguments = .ok (.run o) →
      let completion := execute files timestamp log arguments
      completion.ending = .refused ⟨.configRejected (.settings why), []⟩ ∧
        completion.ending.output = "" ∧ completion.ending.logLines = [] ∧
        completion.ending.exitCode = 2 ∧ completion.log = log

/-- A run prints the report on the possessions that its options give, or else on those that its
configuration lists and that are not blank, or else on the standard ones. With a configuration that is
rejected it prints nothing and leaves the log alone. -/
theorem run_reports (files : Path → FileEntry) {o : RunOptions} (hextra : o.extra = []) :
    RunsOut files o := by
  constructor
  case written => exact ofArguments_arguments hextra
  case resolved => exact fun c hc => ⟨_, hc.resolves, fun _ hps => hps.unique hc.resolves⟩
  case container =>
    intro c ps hc hnil hps s
    rw [hps.unique (hc.resolves_configured hnil)]
    exact Settings.defaultPossessions_toValue c s
  case printed =>
    intro c ps hc hlevel hps arguments timestamp log s v hread hlisted
    refine ⟨_, RunOptions.run_report_samples hlisted timestamp, ?_, ?_⟩
    · rw [execute_run _ _ _ hread, RunOptions.output_execute hc hextra hlevel hps]
    · rw [execute_run _ _ _ hread, RunOptions.execute_of_no_layout (hc.settings_eq hextra)
        hlevel.layout_eq_none]
      rfl
  case regardless =>
    intro files' o' c c' ps hextra' hc hc' hlevel hlevel' hps hps' hjson timestamp log log'
    rw [RunOptions.output_execute hc hextra hlevel hps,
      RunOptions.output_execute hc' hextra' hlevel' hps', RunOptions.output, RunOptions.output, hjson]
  case rejected =>
    intro why hwhy arguments timestamp log hread
    rw [execute_run _ _ _ hread, RunOptions.execute_of_rejects hwhy hextra]
    exact ⟨rfl, rfl, rfl, rfl, rfl⟩

def carConfiguration : List UInt8 :=
  [99, 97, 110, 100, 105, 100, 97, 116, 101, 58, 32, 123, 112, 111, 115, 115, 101, 115, 115, 105, 111,
    110, 115, 58, 32, 91, 39, 39, 44, 32, 99, 97, 114, 93, 125]

/-- The contents `possessions: [car]` of a configuration file, in which the section is missing. -/
def misplacedConfiguration : List UInt8 :=
  [112, 111, 115, 115, 101, 115, 115, 105, 111, 110, 115, 58, 32, 91, 99, 97, 114, 93]

def settingsRun : RunOptions := ⟨[], some "settings.yaml", false, none, []⟩

theorem arguments_settingsRun : settingsRun.arguments = ["run", "--config", "settings.yaml"] := rfl

theorem output_settingsRun (r : Report) : settingsRun.output r = r.text ++ "\n" := by
  rw [RunOptions.output, settingsRun, if_neg Bool.false_ne_true]

theorem accepts_carConfiguration :
    settingsRun.Accepts (fun _ => .file carConfiguration) ⟨some ["car"], "INFO", true⟩ := by
  have hoption : (Settings.ofBytes carConfiguration).toOption =
      some ⟨some ["car"], "INFO", true⟩ := by decide +kernel
  cases hsettings : Settings.ofBytes carConfiguration with
  | error why =>
    rw [hsettings] at hoption
    cases hoption
  | ok c =>
    rw [hsettings] at hoption
    cases hoption
    obtain ⟨v, s, hload, hvalue⟩ := Settings.ofBytes_eq_ok_iff.mp hsettings
    exact .file rfl (by simp) rfl hload hvalue

theorem rejects_misplacedConfiguration :
    settingsRun.Rejects (fun _ => .file misplacedConfiguration)
      (.faults [⟨[.name "possessions"], .unknownName⟩]) := by
  have hloads : (Yaml.load (.ofBlocks (.ofBytes misplacedConfiguration))).toOption.isSome = true := by
    decide +kernel
  have hfault : faultOf (Settings.ofBytes misplacedConfiguration) =
      some (.settings (.faults [⟨[.name "possessions"], .unknownName⟩])) := by decide +kernel
  cases hload : Yaml.load (.ofBlocks (.ofBytes misplacedConfiguration)) with
  | error why =>
    rw [hload] at hloads
    cases hloads
  | ok loaded =>
    obtain ⟨v, s⟩ := loaded
    rw [Settings.ofBytes, hload] at hfault
    obtain ⟨why, hvalue, hwhy⟩ := mapError_eq_error_iff.mp (faultOf_eq_some_iff.mp hfault)
    cases hwhy
    exact .file rfl (by simp) rfl hload hvalue

/-- Of a blank possession and a car in a configuration the car is reported on. A configuration with
possessions in the wrong place is rejected. -/
theorem run_reports_configured :
    (∀ timestamp log, ∃ t,
      ((Session.Operation.report timestamp .none (.tuple [.text "car"])).run.run .empty).1 = .ok t ∧
      (execute (fun _ => .file carConfiguration) timestamp log
        ["run", "--config", "settings.yaml"]).ending.output = t.value.text ++ "\n") ∧
    ∀ timestamp log,
      let completion := execute (fun _ => .file misplacedConfiguration) timestamp log
        ["run", "--config", "settings.yaml"]
      completion.ending.output = "" ∧ completion.ending.exitCode = 2 ∧ completion.log = log := by
  constructor
  · intro timestamp log
    have haccepts := accepts_carConfiguration
    have hruns : RunsOut (fun _ => .file carConfiguration) settingsRun := run_reports _ rfl
    have hlevel : settingsRun.LevelAccepted ⟨some ["car"], "INFO", true⟩ := ⟨.info, by
      rw [Level.ofText_eq]
      decide +kernel⟩
    obtain ⟨t, ht, houtput, -⟩ := hruns.printed _ _ haccepts hlevel haccepts.resolves _ timestamp log
      .empty (.tuple [.text "car"]) hruns.written ⟨rfl, rfl⟩
    rw [arguments_settingsRun, output_settingsRun] at houtput
    exact ⟨t, ht, houtput⟩
  · intro timestamp log
    have hruns : RunsOut (fun _ => .file misplacedConfiguration) settingsRun := run_reports _ rfl
    obtain ⟨-, houtput, -, hcode, hlog⟩ :=
      hruns.rejected _ rejects_misplacedConfiguration _ timestamp log hruns.written
    rw [arguments_settingsRun] at houtput hcode hlog
    exact ⟨houtput, hcode, hlog⟩

end Candidacy.CommandLine
