import ProtectionPool.Library.Checked
import ProtectionPool.Library.Store
import ProtectionPool.Library.Run
import ProtectionPool.Library.Xdr
import ProtectionPool.Library.Daily
import ProtectionPool.Model.Error
import ProtectionPool.Model.Types
import ProtectionPool.Model.Storage
import ProtectionPool.Model.Stake
import ProtectionPool.Model.Coverage
import ProtectionPool.Model.Claim
import ProtectionPool.Model.Override
import ProtectionPool.Model.Admin
import ProtectionPool.Model.Vault
import ProtectionPool.Model.Contract
import ProtectionPool.Books.Step
import ProtectionPool.Books.StakeCalls
import ProtectionPool.Books.Refinement
import ProtectionPool.Books.Register
import ProtectionPool.Books.Registration
import ProtectionPool.Proofs.LiveClaims
import ProtectionPool.Proofs.WellKept
import ProtectionPool.Proofs.Allocation
import ProtectionPool.Proofs.StakeLedger
import ProtectionPool.Proofs.Solvency
import ProtectionPool.Proofs.Backing
import ProtectionPool.Proofs.Treasury
import ProtectionPool.Proofs.Queue
import ProtectionPool.Proofs.History
import ProtectionPool.Proofs.Activation
import ProtectionPool.Proofs.Payouts
import ProtectionPool.Proofs.Forfeiture
import ProtectionPool.Proofs.Principal
import ProtectionPool.Proofs.Records
import ProtectionPool.Proofs.Destination
import ProtectionPool.Proofs.Suspension
import ProtectionPool.Proofs.FrozenTime
import ProtectionPool.Proofs.PenaltyLock
import ProtectionPool.Proofs.Revocation
import ProtectionPool.Proofs.ClaimIds
import ProtectionPool.Proofs.TwoOfTwo
import ProtectionPool.Proofs.Lifecycle
import ProtectionPool.Proofs.Calendar
import ProtectionPool.Proofs.DailyOutflow
import ProtectionPool.Proofs.DailyAdmission
import ProtectionPool.Books.Frames
import ProtectionPool.Books.Position
import ProtectionPool.Proofs.StakeBounds
import ProtectionPool.Proofs.VaultPosition
import ProtectionPool.Proofs.YieldEffect
import ProtectionPool.Proofs.Rebalancing
import ProtectionPool.Library.Matching
import ProtectionPool.Proofs.QueueSlots
import ProtectionPool.Proofs.Interference
import ProtectionPool.Library.SelfDelimiting
import ProtectionPool.Library.XdrValues
import ProtectionPool.Proofs.SignedMessages
import ProtectionPool.Proofs.BookValue
import ProtectionPool.Library.Utilization
import ProtectionPool.Proofs.PayoutCap
import ProtectionPool.Library.LinearRelease
import ProtectionPool.Proofs.Vesting
import ProtectionPool.Proofs.Snapshot
import ProtectionPool.Proofs.Overpayment
import ProtectionPool.Proofs.Cooldown
import ProtectionPool.Proofs.ExitPaths
import ProtectionPool.Proofs.Pointers
import ProtectionPool.Proofs.Slippage
import ProtectionPool.Library.Accrual
import ProtectionPool.Library.Progressive
import ProtectionPool.Proofs.Points
import ProtectionPool.Proofs.Ranges
import ProtectionPool.Proofs.Overflow
import ProtectionPool.Library.Replay
import ProtectionPool.Library.Accounts
import ProtectionPool.Model.Events
import ProtectionPool.Proofs.Indexer
import ProtectionPool.Proofs.CashBook
import ProtectionPool.Proofs.Grounds
import ProtectionPool.Proofs.Authority
import ProtectionPool.Proofs.Standstill
import ProtectionPool.Proofs.BankRun
import ProtectionPool.Proofs.Endings
import ProtectionPool.Proofs.Collections
import ProtectionPool.Model.Harness
import ProtectionPool.Proofs.Harness
import ProtectionPool.Model.Fuzz
import ProtectionPool.Proofs.Fuzz
import ProtectionPool.Proofs.ErrorSurface
import ProtectionPool.Model.ReviewerKit
import ProtectionPool.Proofs.ReviewerKit
import ProtectionPool.Proofs.PointsLedger
import ProtectionPool.Proofs.WindDown
import ProtectionPool.Proofs.PointsLedger
import ProtectionPool.Proofs.WindDown
