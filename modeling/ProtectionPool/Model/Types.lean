/-
Module: ProtectionPool.Model.Types
Purpose: The constants and the stored records of the pool (`types.rs`).
Trusted boundary: none
Main exports: ClaimStatus, StakeRecord, Claim, OverrideRequest
-/
import ProtectionPool.Library.Xdr

namespace ProtectionPool

/-! ### Time -/

def ledgersPerDay : Nat := 17280
def secondsPerDay : Nat := 86400
def claimWindowSeconds : Nat := 30 * secondsPerDay
def timeGateLedgers : Nat := 90 * ledgersPerDay
def cooldownLedgers : Nat := 7 * ledgersPerDay
def vestingLedgers : Nat := 45 * ledgersPerDay
def penaltyLockLedgers : Nat := 365 * ledgersPerDay
def maxApprovalWindowSeconds : Nat := 24 * 3600
def revocationTtlLedgers : Nat := 7 * ledgersPerDay
def approveWindowLedgers : Nat := 100 * ledgersPerDay
def collectionInactivityLedgers : Nat := 100 * ledgersPerDay

/-- The compile-time assertion of `types.rs`: a revocation outlives the longest
legal approval deadline even at one second per ledger. -/
theorem revocationTtl_covers_approvalWindow :
    maxApprovalWindowSeconds ≤ revocationTtlLedgers := by decide

/-! ### Amounts and ratios -/

def bpsDenominator : Int := 10000
def maxDeployBps : Int := 8000
def deployBpsDenominator : Int := 10000
def maxRebalanceSlippageBps : Int := 500
def minStakeBps : Int := 2
def maxStakeBps : Int := 125
def stakeBpsDenominator : Int := 10000
def tierARatio : Int := 15
def tierBRatio : Int := 10
def tierCRatio : Int := 5
def tierCoverageBps : Int := 10000
def tierBpsDenominator : Int := 10000

/-! ### Stored records -/

/-- The life cycle of a claim. -/
inductive ClaimStatus where
  | unused
  | active
  | completed
  | cancelled
  | reserved
  | pendingTime
  | awaitingApproval
  | expired
deriving DecidableEq, Repr

/-- One staker's deposit.  `withdrawn` marks both a voluntary exit, which also
zeroes `amount`, and a forfeiture to a claim, which leaves `amount` in place. -/
structure StakeRecord (Digest : Type) where
  beneficiaryHash : Digest
  amount : Int
  stakedAtLedger : Nat
  stakedAtTimestamp : Nat
  penaltyLockedUntilLedger : Nat
  withdrawn : Bool
  suspended : Bool
  activeClaimId : Option Digest
  reservedClaimId : Option Digest
deriving DecidableEq, Repr

/-- One claim for a wallet's loss. -/
structure Claim where
  wallet : Address
  txHash : BytesN 32
  hackTimestamp : Nat
  entitlement : Int
  streamed : Int
  stake : Int
  cooldownEndsLedger : Nat
  vestingEndsLedger : Nat
  totalStakedSnapshot : Int
  tier : Nat
  status : ClaimStatus
  approveDeadlineLedger : Nat
  lastCollectedLedger : Nat
deriving DecidableEq, Repr

/-- A pending 2-of-2 override with the approvals given so far. -/
structure OverrideRequest where
  wallet : Address
  txHash : BytesN 32
  entitlement : Int
  tier : Nat
  ownerApprover : Option Address
  coSignerApprover : Option Address
deriving DecidableEq, Repr

end ProtectionPool
