import CountryLookup.Main
import CountryLookup.Proofs.Address.Forms
import CountryLookup.Proofs.Batches
import CountryLookup.Proofs.CodeSizes
import CountryLookup.Proofs.Codes
import CountryLookup.Proofs.Database.Families
import CountryLookup.Proofs.Database.Schemas
import CountryLookup.Proofs.Json.Records
import CountryLookup.Proofs.Lines
import CountryLookup.Proofs.LocalRuns
import CountryLookup.Proofs.Logging.Retention
import CountryLookup.Proofs.Secrecy
import CountryLookup.Proofs.Selection.Once
import CountryLookup.Proofs.Settings.Acceptance
import CountryLookup.Proofs.Settings.Reporting
import CountryLookup.Proofs.Settings.Spelling
import CountryLookup.Proofs.Tasks
import CountryLookup.Proofs.Text.Styles
