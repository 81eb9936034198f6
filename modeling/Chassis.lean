import Chassis.Main
import Chassis.Proofs.Archive.Accounts
import Chassis.Proofs.Archive.Afterwards
import Chassis.Proofs.Archive.Background
import Chassis.Proofs.Archive.Kept
import Chassis.Proofs.Archive.Order
import Chassis.Proofs.Archive.Recognised
import Chassis.Proofs.Archive.Replaced
import Chassis.Proofs.Archive.Retention
import Chassis.Proofs.Document.Integers
import Chassis.Proofs.Environ.Loading
import Chassis.Proofs.Environ.Named
import Chassis.Proofs.Http.Lifecycle
import Chassis.Proofs.Http.Opening
import Chassis.Proofs.Http.Pages
import Chassis.Proofs.Http.Table
import Chassis.Proofs.Logging.Setup
import Chassis.Proofs.Session.Accepted
import Chassis.Proofs.Session.Lending
import Chassis.Proofs.Session.Patience
import Chassis.Proofs.Session.Rounds
import Chassis.Proofs.Session.Uses
import Chassis.Proofs.Settings.Callers
import Chassis.Proofs.Settings.EnvironFile
import Chassis.Proofs.Settings.Names
import Chassis.Proofs.Settings.Numbers
import Chassis.Proofs.Settings.Secrets
import Chassis.Proofs.Settings.Sources
import Chassis.Proofs.Settings.Spellings
import Chassis.Proofs.Settings.Unrelated
import Chassis.Proofs.Text.Lowercase
