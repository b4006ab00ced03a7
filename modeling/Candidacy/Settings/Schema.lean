import Candidacy.Number.Reading
import Candidacy.Settings.Fault
import Candidacy.Value.Shown

/-!
# Checking a configuration

A configuration is a table with the sections `candidate` and `logging`, each a table of its own.
Every name may be left out and no other name may occur. The check goes on after a fault, so that all
faults come to light: those of the known names in their order, then the unknown names in the order of
the table.
-/

namespace Candidacy

/-- A value read from a configuration together with what is wrong with it. The value counts only if
nothing is wrong. -/
structure Checked (α : Type) where
  value : α
  faults : List SettingsFault

namespace Settings

def here (flaw : Flaw) : List SettingsFault := [⟨[], flaw⟩]

def decoded? (bs : List UInt8) : Option String := String.fromUTF8? ⟨bs.toArray⟩

/-- A text: a string, or bytes that encode one. -/
def checkText (v : Value) : Checked String :=
  match v with
  | .text t => ⟨t, []⟩
  | .operator op => ⟨op.name, []⟩
  | .bytes bs =>
    match decoded? bs with
    | some t => ⟨t, []⟩
    | none => ⟨"", here .notUtf8⟩
  | _ => ⟨"", here .notText⟩

def offWords : List String := ["0", "off", "f", "false", "n", "no"]

def onWords : List String := ["1", "on", "t", "true", "y", "yes"]

def flagOfWord (s : String) : Checked Bool :=
  let small := String.ofList (s.toList.map Char.toLower)
  if onWords.contains small then ⟨true, []⟩
  else if offWords.contains small then ⟨false, []⟩
  else ⟨false, here .unreadableFlag⟩

def flagOfInt (n : Int) : Checked Bool :=
  if n = 0 then ⟨false, []⟩
  else if n = 1 then ⟨true, []⟩
  else ⟨false, here .unreadableFlag⟩

/-- The number of integers that are not negative and fit into a signed word of 64 bits. -/
def wordEnd : Int := 0x8000000000000000

def fitsWord (n : Int) : Bool := -wordEnd ≤ n && n < wordEnd

/-- A flag: a truth value, or a number or word that stands for one. -/
def checkFlag (v : Value) : Checked Bool :=
  match v with
  | .bool b => ⟨b, []⟩
  | .text t => flagOfWord t
  | .operator op => flagOfWord op.name
  | .bytes bs =>
    match decoded? bs with
    | some t => flagOfWord t
    | none => ⟨false, here .unreadableFlag⟩
  | .int n => if fitsWord n then flagOfInt n else ⟨false, here .notFlag⟩
  | .float x =>
    match x.toInt? with
    | some n => if -wordEnd < n ∧ n < wordEnd then flagOfInt n else ⟨false, here .notFlag⟩
    | none => ⟨false, here .notFlag⟩
  | _ => ⟨false, here .notFlag⟩

def checkTexts (index : Nat) : List Value → Checked (List String)
  | [] => ⟨[], []⟩
  | v :: vs =>
    let first := checkText v
    let rest := checkTexts (index + 1) vs
    ⟨first.value :: rest.value, SettingsFault.under (.index index) first.faults ++ rest.faults⟩

/-- The texts that hold more than white space. -/
def dropBlank (ss : List String) : List String := ss.filter fun t => Text.trim t != ""

/-- The members of a collection that may stand where a list is asked for. -/
def members? (s : Store) (v : Value) : Option (List Value) :=
  match v with
  | .text _ | .operator _ | .bytes _ | .table _ => none
  | _ => s.elements? v

/-- Possessions: nothing, or a collection of texts, of which the blank ones are dropped. -/
def checkPossessions (s : Store) (v : Value) : Checked (Option (List String)) :=
  match v with
  | .none => ⟨none, []⟩
  | _ =>
    match members? s v with
    | none => ⟨none, here .notList⟩
    | some vs =>
      let texts := checkTexts 0 vs
      ⟨some (dropBlank texts.value), texts.faults⟩

/-- The step that a key makes: a text by its name, a small number by its value, any other key by what
it looks like, if that can be written down. -/
def keyStep (s : Store) (key : Value) : Step :=
  let look : Step := match s.shown? key with
    | .ok shown => .name shown
    | .error _ => .name ("<unprintable " ++ key.kind.name ++ " object>")
  match key.text?, key.int? with
  | some t, _ => .name t
  | none, some n => if fitsWord n then .index n else look
  | none, none => look

/-- The faults of the keys that are no text or not among the known names. -/
def unknownKeys (s : Store) (known : List String) (entries : List (Value × Value)) :
    List SettingsFault :=
  entries.filterMap fun (key, _) =>
    match key.text? with
    | some t => if known.contains t then none else some ⟨[.name t], .unknownName⟩
    | none => some ⟨[keyStep s key], .keyNotText⟩

/-- What stands under a name, checked and seen from the table; `missing` if nothing does. -/
def checkField {α : Type} (s : Store) (ref : Nat) (name : String) (missing : α)
    (check : Value → Checked α) : Checked α :=
  match s.valueUnder? ref name with
  | none => ⟨missing, []⟩
  | some v =>
    let c := check v
    ⟨c.value, SettingsFault.under (.name name) c.faults⟩

def checkCandidate (s : Store) (v : Value) : Checked (Option (List String)) :=
  match v with
  | .table ref =>
    let possessions := checkField s ref "possessions" none (checkPossessions s)
    ⟨possessions.value, possessions.faults ++ unknownKeys s ["possessions"] (s.entries ref)⟩
  | _ => ⟨none, here (.notSection "CandidateConfig")⟩

def checkLogging (s : Store) (v : Value) : Checked (String × Bool) :=
  match v with
  | .table ref =>
    let level := checkField s ref "level" default.level checkText
    let jsonLogs := checkField s ref "json_logs" default.jsonLogs checkFlag
    ⟨(level.value, jsonLogs.value),
      level.faults ++ jsonLogs.faults ++ unknownKeys s ["level", "json_logs"] (s.entries ref)⟩
  | _ => ⟨(default.level, default.jsonLogs), here (.notSection "LoggingConfig")⟩

def checkTable (s : Store) (ref : Nat) : Checked Settings :=
  let candidate := checkField s ref "candidate" none (checkCandidate s)
  let logging := checkField s ref "logging" (default.level, default.jsonLogs) (checkLogging s)
  ⟨⟨candidate.value, logging.value.1, logging.value.2⟩,
    candidate.faults ++ logging.faults ++ unknownKeys s ["candidate", "logging"] (s.entries ref)⟩

/-- The settings of a configuration: nothing at all stands for an empty table. -/
def ofValue (s : Store) (v : Value) : Except SettingsRefusal Settings :=
  match v with
  | .none => .ok default
  | .table ref =>
    let c := checkTable s ref
    if c.faults = [] then .ok c.value else .error (.faults c.faults)
  | _ => .error .notTable

def walked? (s : Store) (v : Value) : Option Value :=
  match v with
  | .table ref =>
    match s.valueUnder? ref "candidate" with
    | some (.table inner) => s.valueUnder? inner "possessions"
    | _ => none
  | _ => none

/-- The store after a check: an iterator of possessions has come to its end. -/
def afterCheck (s : Store) (v : Value) : Store :=
  match walked? s v with
  | some possessions => s.exhaust possessions
  | none => s

end Settings

end Candidacy
