import Entros.Foundations.Runs
import Entros.System.Identities
import Entros.Guarantees.ActivityRing
import Entros.Guarantees.Administration
import Entros.Guarantees.AuthorityTransfer
import Entros.Guarantees.CleanReset
import Entros.Guarantees.ConfigGrowth
import Entros.Guarantees.Cooldowns
import Entros.Guarantees.IdentityTokens
import Entros.Guarantees.KeyRollover
import Entros.Guarantees.LayoutUpgrade
import Entros.Guarantees.Lineage
import Entros.Guarantees.MigrationConsent
import Entros.Guarantees.MintReceipts
import Entros.Guarantees.MoneyFlow
import Entros.Guarantees.NoReplay
import Entros.Guarantees.ParallelCalls
import Entros.Guarantees.ProjectionWindow
import Entros.Guarantees.ProofEntryPoints
import Entros.Guarantees.ProvableCommitments
import Entros.Guarantees.ReceiptMeaning
import Entros.Guarantees.RentExemption
import Entros.Guarantees.RequestCounters
import Entros.Guarantees.RequestDigests
import Entros.Guarantees.ScoreArithmetic
import Entros.Guarantees.ScorePreview
import Entros.Guarantees.SignedTransitions
import Entros.Guarantees.UpdateBacking
import Entros.Guarantees.UpdateReceipts
import Entros.Guarantees.VersionStamps
import Entros.Guarantees.WeeklyGate
import Entros.Guarantees.WellFormed
import Entros.System.Layouts
import Entros.Guarantees.VaultSolvency
import Entros.Foundations.EventLogs
import Entros.Guarantees.EventLog
