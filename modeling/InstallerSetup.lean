import InstallerSetup.Main
import InstallerSetup.Storage.Memory
import InstallerSetup.Proofs.Paired
import InstallerSetup.Proofs.Yaml.Spelling
import InstallerSetup.Proofs.Yaml.Reader
import InstallerSetup.Proofs.Config.Check
import InstallerSetup.Proofs.Config.Record
import InstallerSetup.Proofs.Config.Entries
import InstallerSetup.Proofs.Config.Place
import InstallerSetup.Proofs.Config.Section
import InstallerSetup.Proofs.Config.RoundTrip
import InstallerSetup.Proofs.Form.Edit
import InstallerSetup.Proofs.Form.Settle
import InstallerSetup.Proofs.Form.Stage
import InstallerSetup.Proofs.Form.Asked
import InstallerSetup.Proofs.Form.Installer
import InstallerSetup.Proofs.Form.Accepted
import InstallerSetup.Proofs.Form.ListEntries
import InstallerSetup.Proofs.Form.Passage
import InstallerSetup.Proofs.Form.Shown
import InstallerSetup.Proofs.Form.Expert
import InstallerSetup.Proofs.Catalog
import InstallerSetup.Proofs.Catalog.Views
import InstallerSetup.Proofs.Run.Phases
import InstallerSetup.Proofs.Run.Written
import InstallerSetup.Proofs.Run.Ending
import InstallerSetup.Proofs.Run.Checked
import InstallerSetup.Proofs.Run.JumpHosts
import InstallerSetup.Proofs.Run.Expert
import InstallerSetup.Proofs.Form.Accepting
import InstallerSetup.Proofs.Form.Agreement
import InstallerSetup.Proofs.Run.Unchanged
import InstallerSetup.Proofs.Config.Unknown
import InstallerSetup.Proofs.Config.Unquoted
import InstallerSetup.Proofs.Config.Migration
import InstallerSetup.Proofs.Config.Upgrade
import InstallerSetup.Proofs.Form.Interview
import InstallerSetup.Proofs.Form.Accounting
import InstallerSetup.Proofs.Run.Saving
import InstallerSetup.Proofs.Run.Simple
import InstallerSetup.Proofs.Form.FurtherAnswers
import InstallerSetup.Proofs.Form.Completion
import InstallerSetup.Proofs.Run.Preselection
import InstallerSetup.Proofs.Text.Pattern
import InstallerSetup.Proofs.Rule.Basic
import InstallerSetup.Proofs.Rule.Email
import InstallerSetup.Proofs.Rule.Block
import InstallerSetup.Proofs.Rule.Address
import InstallerSetup.Proofs.Rule.Port
import InstallerSetup.Proofs.Rule.Name
