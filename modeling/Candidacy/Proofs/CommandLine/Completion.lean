import Candidacy.CommandLine.Execute
import Candidacy.Proofs.Input.Reading

/-!
# The run command completes

Whatever configuration is accepted and whatever the options say, the command sets up the log, prints
its report and ends well, unless the text for the level happens to name a layout of log entries.

- `Level.ofText_eq`: the level of a text by the tables of names.
- `RunOptions.arguments`: the arguments that write options, and `ofArguments_arguments` that they are
  read as those options.
- `RunOptions.Accepts`: the settings that are accepted for a run.
- `run_completes`: how the command ends.
-/

namespace Candidacy

/-! ## Names of levels -/

namespace Level

def byName : List (String × Level) := [
  ("CRITICAL", critical), ("FATAL", critical), ("ERROR", error), ("WARNING", warning),
  ("WARN", warning), ("INFO", info), ("DEBUG", debug), ("NOTSET", notSet)]

def layouts : List (String × LayoutName) := [("BASIC_FORMAT", .basic), ("_STYLES", .styles)]

/-- The level that a text names in any letter case, or the usual one. -/
def named (s : String) : Level := (byName.lookup (Text.upper s)).getD info

def layout? (s : String) : Option LayoutName := layouts.lookup (Text.upper s)

theorem lookup_eq_none {α : Type} {name : String} {table : List (String × α)}
    (h : ∀ e ∈ table, name ≠ e.1) : table.lookup name = none := by
  rw [List.lookup_eq_none_iff]
  exact fun e he => by simpa using h e he

/-- A text that names no layout asks for the level that it names, or for the usual one. -/
theorem ofText_eq (s : String) :
    ofText s = match layout? s with
      | some layout => .error layout
      | none => .ok (named s) := by
  unfold ofText layout? named
  generalize Text.upper s = name
  split
  case h_11 hc hf he hw hn hi hd ht hb hs =>
    have hlevels : byName.lookup name = none := by
      refine lookup_eq_none ?_
      simp only [byName, List.forall_mem_cons]
      exact ⟨hc, hf, he, hw, hn, hi, hd, ht, nofun⟩
    have hlayouts : layouts.lookup name = none := by
      refine lookup_eq_none ?_
      simp only [layouts, List.forall_mem_cons]
      exact ⟨hb, hs, nofun⟩
    rw [hlevels, hlayouts]
    rfl
  all_goals rfl

end Level

/-! ## Contents of a configuration file -/

theorem Settings.ofBytes_eq_ok_iff {bytes : List UInt8} {c : Settings} :
    ofBytes bytes = .ok c ↔
      ∃ v s, Yaml.load (.ofBlocks (.ofBytes bytes)) = .ok (v, s) ∧ ofValue s v = .ok c := by
  cases hload : Yaml.load (.ofBlocks (.ofBytes bytes)) with
  | error why =>
    rw [ofBytes, hload]
    exact ⟨nofun, fun ⟨_, _, h, _⟩ => nomatch h⟩
  | ok loaded =>
    obtain ⟨v, s⟩ := loaded
    have hread : ofBytes bytes = (ofValue s v).mapError Fault.settings := by
      rw [ofBytes, hload]
      rfl
    rw [hread, mapError_eq_ok_iff]
    constructor
    · exact fun h => ⟨v, s, rfl, h⟩
    · rintro ⟨_, _, ⟨⟩, h⟩
      exact h

namespace CommandLine

/-! ## Arguments -/

/-- The arguments that ask for a run with these options. -/
def RunOptions.arguments (o : RunOptions) : List String :=
  "run" :: (o.possessions.flatMap (["--possession", ·]) ++
    (o.config.toList.flatMap (["--config", ·]) ++
      (o.logLevel.toList.flatMap (["--log-level", ·]) ++ if o.json then ["--json"] else [])))

namespace Arguments

variable {rest : List String} {a : Arguments}

/-- The name of an option that takes the next argument for its value. -/
structure Valued (name : String) (choice : Choice) : Prop where
  ne_dashes : name ≠ "--"
  isOption : isOption name = true
  given : Given.ofArgument OptionRule.ofRun name = .ok ⟨[], some (choice, name)⟩

theorem valued_possession : Valued "--possession" .possession := ⟨by decide, by decide +kernel, rfl⟩

theorem valued_config : Valued "--config" .config := ⟨by decide, by decide +kernel, rfl⟩

theorem valued_logLevel : Valued "--log-level" .logLevel := ⟨by decide, by decide +kernel, rfl⟩

theorem after_after (first second : List Setting) (a : Arguments) :
    (a.after second).after first = a.after (first ++ second) := by
  simp [after]

theorem read_valued {name : String} {choice : Choice} (hname : Valued name choice)
    (h : read OptionRule.ofRun true rest = .ok a) (values : List String) :
    read OptionRule.ofRun true (values.flatMap ([name, ·]) ++ rest) =
      .ok (a.after (values.map (⟨choice, ·⟩))) := by
  induction values with
  | nil => exact h
  | cons value values ih =>
    show read OptionRule.ofRun true (name :: value :: (values.flatMap ([name, ·]) ++ rest)) = _
    rw [read, if_neg hname.ne_dashes, if_pos hname.isOption, hname.given]
    dsimp only
    rw [ih]
    show Except.ok ((a.after _).after _) = _
    rw [after_after]
    rfl

theorem read_json (json : Bool) :
    read OptionRule.ofRun true (if json then ["--json"] else []) =
      .ok ⟨if json then [⟨.json, ""⟩] else [], []⟩ := by
  cases json with
  | false => rfl
  | true =>
    have hgiven : Given.ofArgument OptionRule.ofRun "--json" = .ok ⟨[⟨.json, ""⟩], none⟩ := rfl
    rw [if_pos rfl, read, if_neg (by decide), if_pos (by decide +kernel), hgiven]
    rfl

end Arguments

namespace RunOptions

def given (o : RunOptions) : List Setting :=
  o.possessions.map (⟨.possession, ·⟩) ++ (o.config.toList.map (⟨.config, ·⟩) ++
    (o.logLevel.toList.map (⟨.logLevel, ·⟩) ++ if o.json then [⟨.json, ""⟩] else []))

theorem read_arguments (o : RunOptions) :
    Arguments.read OptionRule.ofRun true o.arguments.tail = .ok ⟨o.given, []⟩ :=
  Arguments.read_valued Arguments.valued_possession
    (Arguments.read_valued Arguments.valued_config
      (Arguments.read_valued Arguments.valued_logLevel (Arguments.read_json o.json) _) _) _

theorem has_help (o : RunOptions) : Arguments.has ⟨o.given, []⟩ .help = false := by
  cases hjson : o.json <;> simp [Arguments.has, given, hjson]

theorem ofArguments_given {o : RunOptions} (h : o.extra = []) : ofArguments ⟨o.given, []⟩ = o := by
  obtain ⟨possessions, config, json, logLevel, extra⟩ := o
  subst h
  cases json <;> cases config <;> cases logLevel <;>
    simp [ofArguments, Arguments.values, Arguments.has, given, Function.comp_def]

end RunOptions

/-- The arguments that write options are read as those options. -/
theorem ofArguments_arguments {o : RunOptions} (h : o.extra = []) :
    Command.ofArguments o.arguments = .ok (.run o) := by
  have hname : Arguments.read OptionRule.plain false o.arguments =
      .ok ⟨[], o.arguments⟩ := by
    rw [RunOptions.arguments, Arguments.read, if_neg (by decide), if_neg (by decide +kernel),
      if_neg Bool.false_ne_true]
  have hrun : Command.ofRun o.arguments.tail = .ok (.run o) := by
    rw [Command.ofRun, Command.arguments, o.read_arguments]
    show (pure (if Arguments.has _ .help then Command.help else .run (.ofArguments _)) :
      Except Refusal Command) = _
    rw [o.has_help, RunOptions.ofArguments_given h]
    rfl
  rw [Command.ofArguments, Command.arguments, hname]
  exact hrun

/-! ## Runs -/

namespace RunOptions

variable {files : Path → FileEntry} {timestamp : String} {log : Log} {o : RunOptions} {c : Settings}

/-- The settings that are accepted for a run: those of an empty configuration if no file is named, and
otherwise those that the check of the configuration in the file accepts. -/
inductive Accepts (files : Path → FileEntry) (o : RunOptions) : Settings → Prop where
  | default (hconfig : o.config = none) : Accepts files o .default
  | file {path : String} {bytes : List UInt8} {v : Value} {s : Store} {c : Settings}
      (hconfig : o.config = some path) (hpath : path.contains '\x00' = false)
      (hfile : files (.ofString path) = .file bytes)
      (hload : Yaml.load (.ofBlocks (.ofBytes bytes)) = .ok (v, s))
      (hvalue : Settings.ofValue s v = .ok c) : Accepts files o c

theorem settings_eq {bytes? : Option (List UInt8)} (hbytes : o.configBytes? files = .ok bytes?)
    (hextra : o.extra = []) : o.settings files = settingsOf bytes? := by
  rw [settings, hbytes, hextra]
  simp only [ne_eq, not_true_eq_false, if_false]
  rfl

theorem Accepts.settings_eq (h : o.Accepts files c) (hextra : o.extra = []) :
    o.settings files = .ok c := by
  cases h with
  | default hconfig =>
    have hbytes : configBytes? files o = .ok none := by rw [configBytes?, hconfig]
    exact RunOptions.settings_eq hbytes hextra
  | @file path bytes v s c hconfig hpath hfile hload hvalue =>
    have hbytes : configBytes? files o = .ok (some bytes) := by
      simp only [configBytes?, hconfig, configBytes, hpath, Bool.false_eq_true, if_false, hfile]
      rfl
    have hsettings : Settings.ofBytes bytes = .ok c :=
      Settings.ofBytes_eq_ok_iff.mpr ⟨v, s, hload, hvalue⟩
    rw [RunOptions.settings_eq hbytes hextra, settingsOf, hsettings]
    rfl

/-- How the log of a run is set up: it shows events from the named level on. -/
def setup (o : RunOptions) (c : Settings) : LogSetup := ⟨.named (o.levelWith c), c.jsonLogs⟩

def report (o : RunOptions) (c : Settings) (timestamp : String) : Traced Report :=
  Report.draw Sample.companies ((o.possessionsWith c).map .plain) timestamp

theorem execute_of_layout {layout : LayoutName} (hsettings : o.settings files = .ok c)
    (hlayout : Level.layout? (o.levelWith c) = some layout) :
    o.execute files timestamp log = ⟨.failed (.levelRefused layout), log⟩ := by
  have hconfigure : Log.configure (o.levelWith c) c.jsonLogs = .error layout := by
    rw [Log.configure, Level.ofText_eq, hlayout]
    rfl
  rw [execute, hsettings]
  dsimp only
  rw [hconfigure]

theorem execute_of_no_layout (hsettings : o.settings files = .ok c)
    (hlayout : Level.layout? (o.levelWith c) = none) :
    o.execute files timestamp log =
      ⟨.done (o.output (o.report c timestamp).value)
        (Log.lines (some (o.setup c)) timestamp (o.report c timestamp).events), some (o.setup c)⟩ := by
  have hconfigure : Log.configure (o.levelWith c) c.jsonLogs = .ok (o.setup c) := by
    rw [Log.configure, Level.ofText_eq, hlayout]
    rfl
  rw [execute, hsettings]
  dsimp only
  rw [hconfigure]
  rfl

end RunOptions

theorem execute_run {arguments : List String} {o : RunOptions} (files : Path → FileEntry)
    (timestamp : String) (log : Log) (h : Command.ofArguments arguments = .ok (.run o)) :
    execute files timestamp log arguments = o.execute files timestamp log := by
  rw [execute, h]

/-- A run whose configuration is accepted and which has no arguments to spare can be asked for. Then
it ends well: the log is set up for the level that the text for it names, or for the usual one if it
names none, and the report is the output. The exceptions are the texts that name a layout of log
entries; with them the run fails and leaves the log as it was. -/
theorem run_completes {files : Path → FileEntry} {o : RunOptions} {c : Settings}
    (hextra : o.extra = []) (haccepts : o.Accepts files c) :
    Command.ofArguments o.arguments = .ok (.run o) ∧
    ∀ (arguments : List String) (timestamp : String) (log : Log),
      Command.ofArguments arguments = .ok (.run o) →
      (Level.layout? (o.levelWith c) = none →
        execute files timestamp log arguments =
          ⟨.done (o.output (o.report c timestamp).value)
            (Log.lines (some (o.setup c)) timestamp (o.report c timestamp).events),
            some (o.setup c)⟩) ∧
      ∀ layout, Level.layout? (o.levelWith c) = some layout →
        execute files timestamp log arguments = ⟨.failed (.levelRefused layout), log⟩ := by
  have hsettings : o.settings files = .ok c := haccepts.settings_eq hextra
  refine ⟨ofArguments_arguments hextra, fun arguments timestamp log hread => ⟨?_, ?_⟩⟩
  · intro hlayout
    rw [execute_run _ _ _ hread, RunOptions.execute_of_no_layout hsettings hlayout]
  · intro layout hlayout
    rw [execute_run _ _ _ hread, RunOptions.execute_of_layout hsettings hlayout]

def loudConfiguration : List UInt8 :=
  [108, 111, 103, 103, 105, 110, 103, 58, 32, 123, 108, 101, 118, 101, 108, 58, 32, 108, 111, 117, 100,
    125]

/-- The level of a run may be a name that means nothing, here in a configuration. The name of a layout
makes a run fail, here in small letters. -/
theorem run_completes_at_levels :
    (∀ timestamp log,
      (execute (fun _ => .file loudConfiguration) timestamp log
        ["run", "--config", "settings.yaml"]).log = some ⟨.info, true⟩) ∧
    ∀ files timestamp log,
      execute files timestamp log ["run", "--log-level", "basic_format"] =
        ⟨.failed (.levelRefused .basic), log⟩ := by
  constructor
  · intro timestamp log
    have hoption : (Settings.ofBytes loudConfiguration).toOption = some ⟨none, "loud", true⟩ := by
      decide +kernel
    cases hsettings : Settings.ofBytes loudConfiguration with
    | error why =>
      rw [hsettings] at hoption
      cases hoption
    | ok c =>
      rw [hsettings] at hoption
      cases hoption
      obtain ⟨v, s, hload, hvalue⟩ := Settings.ofBytes_eq_ok_iff.mp hsettings
      have haccepts : RunOptions.Accepts (fun _ => .file loudConfiguration)
          ⟨[], some "settings.yaml", false, none, []⟩ ⟨none, "loud", true⟩ :=
        .file rfl (by simp) rfl hload hvalue
      obtain ⟨hread, hrun⟩ := run_completes rfl haccepts
      have hlevel : Level.named "loud" = .info := by decide +kernel
      have hends := (hrun _ timestamp log hread).1 (by decide +kernel)
      rw [RunOptions.setup, RunOptions.levelWith, hlevel] at hends
      exact congrArg Completion.log hends
  · intro files timestamp log
    obtain ⟨hread, hrun⟩ := run_completes
      (o := ⟨[], none, false, some "basic_format", []⟩) rfl (.default rfl)
    exact (hrun _ timestamp log hread).2 .basic (by decide +kernel)

end CommandLine

end Candidacy
