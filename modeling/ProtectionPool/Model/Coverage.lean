/-
Module: ProtectionPool.Model.Coverage
Purpose: The formulas the claim operations share: tier caps, the admission and
  payout caps, claim identifiers, and the signed oracle approval (`claim.rs`,
  helpers and D1 block).
Trusted boundary: none
Main exports: tierCap, stressCap, dynamicOutflowBps, computeClaimId,
  buildApprovalPayload, verifyOracleSignature
-/
import ProtectionPool.Model.Storage

namespace ProtectionPool

variable {D : Type} [DecidableEq D]

/-- `tier_ratio` -/
def tierRatio (tier : Nat) : Outcome Int :=
  match tier with
  | 1 => .ok tierARatio
  | 2 => .ok tierBRatio
  | 3 => .ok tierCRatio
  | _ => .error (.error .invalidTier)

/-- `tier_cap` -/
def tierCap (stakeAmount : Int) (tier : Nat) : Outcome Int := do
  let ratio ← tierRatio tier
  let scaled ← i128 (stakeAmount * ratio)
  let covered ← i128 (scaled * tierCoverageBps)
  .ok (covered.tdiv tierBpsDenominator)

/-- `stress_cap` -/
def stressCap (s : State D) : Outcome Int :=
  if s.totalStaked = 0 then .ok 0
  else do
    let scaled ← i128 (s.totalAllocated * bpsDenominator)
    let utilizationBps := scaled.tdiv s.totalStaked
    let rateBps : Int :=
      if utilizationBps < 2000 then 2500 else if utilizationBps < 5000 then 1000 else 300
    let product ← i128 (s.totalStaked * rateBps)
    .ok (product.tdiv bpsDenominator)

/-- `dynamic_outflow_bps` -/
def dynamicOutflowBps (s : State D) (base : Int) : Outcome Int :=
  if base = 0 then .ok 100
  else do
    let scaled ← i128 (s.totalAllocated * bpsDenominator)
    let utilizationBps := scaled.tdiv base
    .ok (if utilizationBps < 2000 then 500 else if utilizationBps < 5000 then 300 else 100)

/-- `current_day`, with its cast to `u32`. -/
def currentDay (s : State D) : Nat := s.timestamp / secondsPerDay % 2 ^ 32

/-- The bytes `compute_claim_id` hashes: the wallet in XDR form and the raw
transaction hash. -/
def claimIdBytes (wallet : Address) (txHash : BytesN 32) : List UInt8 :=
  ScVal.toXdr (.address wallet) ++ txHash.toBytes

/-- `compute_claim_id` -/
def computeClaimId (host : Host D) (wallet : Address) (txHash : BytesN 32) : D :=
  host.sha256 (claimIdBytes wallet txHash)

/-! ### Signed oracle approvals -/

/-- `APPROVAL_DOMAIN` -/
def approvalDomain : List UInt8 :=
  "SAFU_CLAIM_APPROVAL_SOROBAN".toList.map fun c => UInt8.ofNat c.toNat

/-- `build_approval_payload` -/
def buildApprovalPayload (host : Host D) (wallet : Address) (txHash : BytesN 32)
    (entitlement : Int) (tier hackTimestamp deadline : Nat) : List UInt8 :=
  ScVal.toXdr (.symbol approvalDomain) ++
    ScVal.toXdr (.address host.contract) ++
    ScVal.toXdr (.bytes host.networkId.toBytes) ++
    ScVal.toXdr (.address wallet) ++
    ScVal.toXdr (.bytes txHash.toBytes) ++
    ScVal.toXdr (.i128 entitlement) ++
    ScVal.toXdr (.u32 tier) ++
    ScVal.toXdr (.u64 hackTimestamp) ++
    ScVal.toXdr (.u64 deadline)

/-- `approval_hash` -/
def approvalHash (host : Host D) (payload : List UInt8) : D := host.sha256 payload

/-- The two-sided deadline check that `verify_oracle_signature` and
`revoke_approval` both make. -/
def requireOpenDeadline (s : State D) (deadline : Nat) : Outcome Unit := do
  rejectIf (s.timestamp > deadline) .signatureExpired
  let latest ← u64 (s.timestamp + maxApprovalWindowSeconds)
  rejectIf (deadline > latest) .signatureDeadlineTooFar

/-- `verify_oracle_signature` -/
def verifyOracleSignature (host : Host D) (s : State D) (wallet : Address)
    (txHash : BytesN 32) (entitlement : Int) (tier hackTimestamp deadline : Nat)
    (signature : BytesN 64) : Outcome Unit := do
  requireOpenDeadline s deadline
  let pubkey ← okOr s.oraclePubkey .oraclePubKeyNotSet
  let payload := buildApprovalPayload host wallet txHash entitlement tier hackTimestamp deadline
  rejectIf (isApprovalRevoked s (approvalHash host payload)) .approvalRevoked
  trapUnless (host.ed25519Verify pubkey payload signature)

end ProtectionPool
