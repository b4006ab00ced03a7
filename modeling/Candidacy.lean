import Candidacy.Main
import Candidacy.Session.Step
import Candidacy.Json.Reader
import Candidacy.Proofs.Text.Sorted
import Candidacy.Proofs.Session.Findings
import Candidacy.Proofs.Session.Validation
import Candidacy.Proofs.Value.Growth
import Candidacy.Proofs.Value.Sound
import Candidacy.Proofs.Input.Walks
import Candidacy.Proofs.Session.Safety
import Candidacy.Proofs.Session.Operations
import Candidacy.Proofs.Session.Evolution
import Candidacy.Proofs.Session.Construction
import Candidacy.Proofs.Session.Isolation
import Candidacy.Proofs.Input.OneShot
import Candidacy.Proofs.Session.Consumption
import Candidacy.Proofs.CommandLine.Completion
import Candidacy.Proofs.Session.NormalForms
import Candidacy.Proofs.Settings.Listing
import Candidacy.Proofs.Settings.Scalars
import Candidacy.Proofs.Settings.Configuration
import Candidacy.Proofs.Settings.Defaults
import Candidacy.Proofs.CommandLine.Resolution
import Candidacy.Proofs.Session.Logging
import Candidacy.Proofs.Text.Capitals
import Candidacy.Proofs.Session.LetterCase
import Candidacy.Proofs.Operator
import Candidacy.Proofs.Requirement.Rearrangement
import Candidacy.Proofs.Session.Rearrangement
import Candidacy.Proofs.Report.Lines
import Candidacy.Proofs.Json.Grammar
import Candidacy.Proofs.Json.Reader
import Candidacy.Proofs.Json.Printer
import Candidacy.Proofs.Report.Document
import Candidacy.Proofs.Report.Rate
import Candidacy.Proofs.Input.Records
import Candidacy.Proofs.Settings.RoundTrip
import Candidacy.Proofs.Session.Records
import Candidacy.Proofs.Value.Shown
