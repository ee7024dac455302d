import Remedy.Host.Script
import Remedy.Main
import Remedy.Proofs.CommandLine.Configuration
import Remedy.Proofs.Configuration.Bounds
import Remedy.Proofs.Diagnostic.Containment
import Remedy.Proofs.Encoding
import Remedy.Proofs.Flow.Notices
import Remedy.Proofs.Flow.Order
import Remedy.Proofs.Flow.Provenance
import Remedy.Proofs.Flow.Unattended
import Remedy.Proofs.Install.CmdLine
import Remedy.Proofs.Install.PosixLine
import Remedy.Proofs.Registry.Address
import Remedy.Proofs.Registry.Fields
import Remedy.Proofs.Registry.Offer
import Remedy.Proofs.Registry.Page
import Remedy.Proofs.Service.Idle
import Remedy.Proofs.Service.Offering
import Remedy.Proofs.Task.Runner
import Remedy.Proofs.Workspace.Relative
import Remedy.Proofs.Workspace.Resolution
