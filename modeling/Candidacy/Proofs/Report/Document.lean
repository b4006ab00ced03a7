import Candidacy.CommandLine.Execute
import Candidacy.Proofs.Json.Printer
import Candidacy.Proofs.Json.Reader
import Mathlib.Data.List.Forall2

/-!
# Reading a JSON report back

What the command prints as JSON is one document, and everything the report says stands in it, in
fields of its own and in the report's order. So no two reports are printed alike, whatever characters
there are in names, items and possessions. An operator among the possessions counts as the text that
it stands for.

- `Outcome.FoundIn`, `Report.FoundIn`: what stands in which field.
- `Report.FoundIn.unique`: the fields leave nothing of a report open.
- `Report.json_read_back`: a report is read back from its document.
-/

namespace Candidacy

namespace Json

def fieldNames : Json → List String
  | object fields => fields.map (·.1)
  | _ => []

theorem texts_inj {ss ss' : List String} (h : texts ss = texts ss') : ss = ss' :=
  List.map_injective_iff.mpr (fun _ _ => text.inj) (array.inj h)

theorem exact_texts (ss : List String) : Exact (texts ss) :=
  .array (List.forall_mem_map.mpr fun s _ => .text s)

end Json

/-- The value is an object with these fields and no others, and they say what the outcome says. -/
structure Outcome.FoundIn (o : Outcome) (j : Json) : Prop where
  names : j.fieldNames =
    ["company", "eligible", "requirement_description", "required_items", "missing_items"]
  company : j.field? "company" = some (.text o.company)
  eligible : j.field? "eligible" = some (.bool o.eligible)
  description : j.field? "requirement_description" = some (.text o.description)
  requiredItems : j.field? "required_items" = some (.texts o.requiredItems)
  missingItems : j.field? "missing_items" = some (.texts o.missingItems)

namespace Outcome

variable {o o' : Outcome} {j : Json}

theorem foundIn_document (o : Outcome) : o.FoundIn o.document where
  names := rfl
  company := rfl
  eligible := rfl
  description := rfl
  requiredItems := rfl
  missingItems := rfl

theorem FoundIn.unique (h : o.FoundIn j) (h' : o'.FoundIn j) : o = o' := by
  have hcompany := Option.some.inj (h.company.symm.trans h'.company)
  have heligible := Option.some.inj (h.eligible.symm.trans h'.eligible)
  have hdescription := Option.some.inj (h.description.symm.trans h'.description)
  have hrequired := Option.some.inj (h.requiredItems.symm.trans h'.requiredItems)
  have hmissing := Option.some.inj (h.missingItems.symm.trans h'.missingItems)
  cases o
  cases o'
  simp only [mk.injEq]
  exact ⟨Json.text.inj hcompany, Json.bool.inj heligible, Json.text.inj hdescription,
    Json.texts_inj hrequired, Json.texts_inj hmissing⟩

theorem exact_document (o : Outcome) : Json.Exact o.document := by
  refine .object ?_
  simp only [List.mem_cons, List.not_mem_nil, or_false, forall_eq_or_imp, forall_eq]
  exact ⟨.text _, .bool _, .text _, Json.exact_texts _, Json.exact_texts _⟩

end Outcome

namespace Report

variable {r r' : Report} {j : Json}

/-- The value is an object with these fields and no others, and they say of the making of the report
what the report says. -/
structure OriginIn (r : Report) (j : Json) : Prop where
  names : j.fieldNames = ["company_count", "timestamp", "app_version"]
  companyCount : j.field? "company_count" = some (.integer r.companyCount)
  timestamp : j.field? "timestamp" = some (.text r.timestamp)
  version : j.field? "app_version" = some (.text r.version)

/-- The value is an object with these fields and no others, and they say what the report says. -/
structure FoundIn (r : Report) (j : Json) : Prop where
  names : j.fieldNames =
    ["possessions", "outcomes", "eligible_count", "ineligible_count", "success_rate", "metadata"]
  possessions : j.field? "possessions" = some (.texts (r.possessions.map (·.text)))
  outcomes : ∃ js, j.field? "outcomes" = some (.array js) ∧
    List.Forall₂ Outcome.FoundIn r.outcomes js
  eligibleCount : j.field? "eligible_count" = some (.integer r.eligibleCount)
  ineligibleCount : j.field? "ineligible_count" = some (.integer r.ineligibleCount)
  rate : j.field? "success_rate" = some (.decimal r.rate.decimal)
  origin : ∃ m, j.field? "metadata" = some m ∧ r.OriginIn m

theorem foundIn_document (r : Report) : r.FoundIn r.document where
  names := rfl
  possessions := rfl
  outcomes := ⟨_, rfl,
    List.forall₂_map_right_iff.mpr (List.forall₂_same.mpr fun o _ => o.foundIn_document)⟩
  eligibleCount := rfl
  ineligibleCount := rfl
  rate := rfl
  origin := ⟨_, rfl, ⟨rfl, rfl, rfl, rfl⟩⟩

def spelled (r : Report) : Report :=
  { r with possessions := (r.possessions.map (·.text)).map .plain }

theorem outcomes_unique {os os' : List Outcome} {js : List Json}
    (h : List.Forall₂ Outcome.FoundIn os js) (h' : List.Forall₂ Outcome.FoundIn os' js) :
    os = os' := by
  induction h generalizing os' with
  | nil =>
    cases h'
    rfl
  | cons hhead _ ih =>
    cases h' with
    | cons hhead' htail' => rw [hhead.unique hhead', ih htail']

theorem OriginIn.unique (h : r.OriginIn j) (h' : r'.OriginIn j) :
    r.companyCount = r'.companyCount ∧ r.timestamp = r'.timestamp ∧ r.version = r'.version := by
  have hcount := Option.some.inj (h.companyCount.symm.trans h'.companyCount)
  have htimestamp := Option.some.inj (h.timestamp.symm.trans h'.timestamp)
  have hversion := Option.some.inj (h.version.symm.trans h'.version)
  exact ⟨Int.ofNat.inj (Json.integer.inj hcount), Json.text.inj htimestamp, Json.text.inj hversion⟩

/-- A value says no two things of a report, but for how operators are told from their names. -/
theorem FoundIn.unique (h : r.FoundIn j) (h' : r'.FoundIn j) : r.spelled = r'.spelled := by
  have hpossessions := Json.texts_inj (Option.some.inj (h.possessions.symm.trans h'.possessions))
  have houtcomes : r.outcomes = r'.outcomes := by
    obtain ⟨js, hjs, hos⟩ := h.outcomes
    obtain ⟨js', hjs', hos'⟩ := h'.outcomes
    obtain rfl := Json.array.inj (Option.some.inj (hjs.symm.trans hjs'))
    exact outcomes_unique hos hos'
  have heligible : r.eligibleCount = r'.eligibleCount :=
    Int.ofNat.inj (Json.integer.inj (Option.some.inj (h.eligibleCount.symm.trans h'.eligibleCount)))
  have hineligible : r.ineligibleCount = r'.ineligibleCount :=
    Int.ofNat.inj
      (Json.integer.inj (Option.some.inj (h.ineligibleCount.symm.trans h'.ineligibleCount)))
  have hrate : r.rate = r'.rate := by
    have hdecimal := Json.decimal.inj (Option.some.inj (h.rate.symm.trans h'.rate))
    have htenths : r.rate.tenths = r'.rate.tenths := congrArg Decimal.coefficient hdecimal
    rw [← SuccessRate.mk.injEq] at htenths
    exact htenths
  obtain ⟨m, hm, horigin⟩ := h.origin
  obtain ⟨m', hm', horigin'⟩ := h'.origin
  obtain rfl := Option.some.inj (hm.symm.trans hm')
  obtain ⟨hcount, htimestamp, hversion⟩ := horigin.unique horigin'
  simp only [spelled, hpossessions, houtcomes, heligible, hineligible, hrate, hcount, htimestamp,
    hversion]

theorem exact_document (r : Report) : Json.Exact r.document := by
  have houtcomes : Json.Exact (.array (r.outcomes.map (·.document))) :=
    .array (List.forall_mem_map.mpr fun o _ => o.exact_document)
  have horigin : Json.Exact (.object [("company_count", .integer r.companyCount),
      ("timestamp", .text r.timestamp), ("app_version", .text r.version)]) := by
    refine .object ?_
    simp only [List.mem_cons, List.not_mem_nil, or_false, forall_eq_or_imp, forall_eq]
    exact ⟨.integer _, .text _, .text _⟩
  refine .object ?_
  simp only [List.mem_cons, List.not_mem_nil, or_false, forall_eq_or_imp, forall_eq]
  exact ⟨Json.exact_texts _, houtcomes, .integer _, .integer _, .decimal (show -1 < 0 by decide),
    horigin⟩

theorem document_output {o : CommandLine.RunOptions} (h : o.json = true) (r : Report) :
    Json.Document (o.output r) r.document := by
  have hline : o.output r = r.document.indented ++ "\n" := by
    simp [CommandLine.RunOptions.output, h, jsonText]
  rw [hline]
  exact Json.document_indented r.exact_document (Json.gap_newline 0)

/-- What the command prints as JSON is one document that stands for one value, and in this value
everything stands that the report says. Two reports printed alike say the same. -/
theorem json_read_back (o : CommandLine.RunOptions) (h : o.json = true) (r : Report) :
    ∃ j, Json.Document (o.output r) j ∧ (∀ j', Json.Document (o.output r) j' → j' = j) ∧
      Json.read? (o.output r) = some j ∧ r.FoundIn j ∧
      ∀ r', o.output r' = o.output r → r'.spelled = r.spelled := by
  have hdocument := document_output h r
  refine ⟨r.document, hdocument, fun j' hj' => hj'.unique hdocument,
    Json.read?_of_document hdocument, r.foundIn_document, fun r' houtput => ?_⟩
  have hsame : r'.document = r.document := by
    rw [← houtput] at hdocument
    exact (document_output h r').unique hdocument
  have hfound : r'.FoundIn r.document := hsame ▸ r'.foundIn_document
  exact hfound.unique r.foundIn_document

/-- Companies whose names and items have quotes, a backslash, control characters and letters of more
than one byte. -/
def oddlyNamed : List Company :=
  [⟨"\"Ægir\" \\ Söhne", some (.item "key\x01\tcard")⟩, ⟨"🚗", none⟩]

/-- An operator among the possessions is printed like its name, and stands for it. -/
theorem json_read_back_odd :
    let o : CommandLine.RunOptions := ⟨[], none, true, none, []⟩
    let r := (draw oddlyNamed [.operator .any, .plain "bi\\ke"] "2024-02-29T00:00:00+00:00").value
    let r' := (draw oddlyNamed [.plain "OR", .plain "bi\\ke"] "2024-02-29T00:00:00+00:00").value
    o.json = true ∧ o.output r' = o.output r ∧
      ∃ j, Json.Document (o.output r) j ∧ r.FoundIn j ∧ r'.spelled = r.spelled := by
  intro o r r'
  have hsorted : Text.sortedOn Word.text [.operator .any, .plain "bi\\ke"] =
      [.operator .any, .plain "bi\\ke"] := List.mergeSort_of_pairwise (by decide)
  have hsorted' : Text.sortedOn Word.text [.plain "OR", .plain "bi\\ke"] =
      [.plain "OR", .plain "bi\\ke"] := List.mergeSort_of_pairwise (by decide)
  have hsame : r'.document = r.document := by
    simp only [r, r', draw, hsorted, hsorted']
    rfl
  have houtput : o.output r' = o.output r := by
    simp only [o, CommandLine.RunOptions.output, jsonText, hsame, if_true]
  obtain ⟨j, hdocument, -, -, hfound, hunique⟩ := json_read_back o rfl r
  exact ⟨rfl, houtput, j, hdocument, hfound, hunique r' houtput⟩

end Report

end Candidacy
