import HostSetup.Execution.Rehearsal
import HostSetup.Host.FileTree
import HostSetup.Main
import HostSetup.Plan.Programs
import HostSetup.Process.Supervision
import HostSetup.Proofs.Action.NormalForm
import HostSetup.Proofs.Action.PayloadShape
import HostSetup.Proofs.Execution.Preview
import HostSetup.Proofs.Execution.Truncation
import HostSetup.Proofs.Plan.Bracketing
import HostSetup.Proofs.Plan.Numbering
import HostSetup.Proofs.Plan.Redundancy
import HostSetup.Proofs.Plan.Resolution
import HostSetup.Proofs.Process.Group
import HostSetup.Proofs.Process.Polling
import HostSetup.Proofs.Process.Supervision
import HostSetup.Proofs.Session.Ending
import HostSetup.Proofs.Setup.Assembly
import HostSetup.Proofs.Setup.Validation
import HostSetup.Proofs.Translation.Arguments
import HostSetup.Proofs.Translation.Expansion
import HostSetup.Proofs.Execution.Account
import HostSetup.Proofs.Plan.Programs
import HostSetup.Proofs.Translation.Overrides
import HostSetup.Proofs.Text.Letter
import HostSetup.Proofs.Platform.Assignment
import HostSetup.Proofs.Platform.OsRelease
