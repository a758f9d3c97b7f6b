/-
Module: ProtectionPool.Model.Admin
Purpose: Deployment, the admin's configuration calls, the pause switch and the
  suspension of a stake (`admin.rs`).
Trusted boundary: none
Main exports: initializePool, transferAdmin, setPaused, suspendStake,
  unsuspendStake, setPoolCap, setOracle, setOraclePubkey, setOracleIdentity,
  setCoSigner
-/
import ProtectionPool.Model.Claim

namespace ProtectionPool

variable {D : Type} [DecidableEq D]

/-- `initialize`, the body of the constructor.  `deployed` tells whether an
admin is already stored; `ledger` supplies the clock and the balances the
contract is created under. -/
def initializePool (host : Host D) (env : Env) (deployed : Bool) (sequence timestamp : Nat)
    (xlm vaultShares : Address → Int) (admin oracle : Address) (oraclePubkey : BytesN 32)
    (coSigner xlmToken : Address) (poolCap : Int) : Outcome (State D) := do
  rejectIf deployed .alreadyInitialized
  rejectIf (oracle = coSigner) .oracleEqualsCoSigner
  rejectIf (coSigner = admin) .coSignerEqualsAdmin
  rejectIf (poolCap ≤ 0) .poolCapNotPositive
  requireAuth host env admin
  .ok {
    admin := admin
    oracle := oracle
    oraclePubkey := some oraclePubkey
    coSigner := coSigner
    xlmToken := xlmToken
    poolCap := poolCap
    totalStaked := 0
    totalAllocated := 0
    totalStakers := 0
    paused := false
    dailyOutflow := 0
    lastOutflowDay := 0
    dailyEntitlementTotal := 0
    lastEntitlementDay := 0
    dailyClaimCount := 0
    vault := none
    treasury := none
    deployBps := 0
    totalDeployedShares := 0
    totalDeployedXlm := 0
    totalExtractedYield := 0
    stakes := Store.empty
    claims := Store.empty
    overrides := Store.empty
    pointsBalances := Store.empty
    revoked := Store.empty
    sequence := sequence
    timestamp := timestamp
    xlm := xlm
    vaultShares := vaultShares }

/-- `transfer_admin` -/
def transferAdmin (host : Host D) (env : Env) (s : State D) (newAdmin : Address) :
    Outcome (State D) := do
  requireAuth host env s.admin
  rejectIf (newAdmin = s.coSigner) .newAdminEqualsCoSigner
  .ok { s with admin := newAdmin }

/-- `pause` and `unpause` -/
def setPaused (host : Host D) (env : Env) (s : State D) (value : Bool) : Outcome (State D) := do
  requireAuth host env s.admin
  .ok { s with paused := value }

/-- `suspend_stake` -/
def suspendStake (host : Host D) (env : Env) (s : State D) (wallet : Address) :
    Outcome (State D) := do
  requireAuth host env s.admin
  let record ← okOr (s.stakes.get wallet) .noStake
  rejectIf (record.amount ≤ 0) .noStake
  rejectIf (record.withdrawn ∧ record.activeClaimId.isNone) .alreadyWithdrawn
  .ok { s with stakes := s.stakes.set wallet { record with suspended := true } }

/-- The clock `unsuspend_stake` restarts on the wallet's own claim, by status. -/
def restartClock (s : State D) (claim : Claim) : Outcome Claim :=
  match claim.status with
  | .awaitingApproval => do
      let deadline ← u32 (s.sequence + approveWindowLedgers)
      .ok { claim with approveDeadlineLedger := deadline }
  | .active => .ok { claim with lastCollectedLedger := s.sequence }
  | _ => .ok claim

/-- The optional claim part of `unsuspend_stake`: a claim of another wallet is
left alone. -/
def resetClaimClock (s : State D) (wallet : Address) (claimId : Option D) :
    Outcome (Store D Claim) :=
  match claimId with
  | none => .ok s.claims
  | some id =>
      match s.claims.get id with
      | none => .ok s.claims
      | some claim =>
          if claim.wallet ≠ wallet then .ok s.claims
          else do
            let restarted ← restartClock s claim
            .ok (s.claims.set id restarted)

/-- `unsuspend_stake` -/
def unsuspendStake (host : Host D) (env : Env) (s : State D) (wallet : Address)
    (claimId : Option D) : Outcome (State D) := do
  requireAuth host env s.admin
  let record ← okOr (s.stakes.get wallet) .noStake
  rejectIf (record.amount ≤ 0) .noStake
  let claims ← resetClaimClock s wallet claimId
  .ok { s with
    stakes := s.stakes.set wallet { record with suspended := false }
    claims := claims }

/-- `set_pool_cap` -/
def setPoolCap (host : Host D) (env : Env) (s : State D) (newCap : Int) :
    Outcome (State D) := do
  requireAuth host env s.admin
  rejectIf (newCap ≤ 0) .poolCapNotPositive
  rejectIf (newCap < s.totalStaked) .poolCapBelowTotalStaked
  .ok { s with poolCap := newCap }

/-- `set_oracle` -/
def setOracle (host : Host D) (env : Env) (s : State D) (newOracle : Address) :
    Outcome (State D) := do
  requireAuth host env s.admin
  rejectIf (newOracle = s.coSigner) .oracleEqualsCoSigner
  .ok { s with oracle := newOracle }

/-- `set_oracle_pubkey` -/
def setOraclePubkey (host : Host D) (env : Env) (s : State D) (newPubkey : BytesN 32) :
    Outcome (State D) := do
  requireAuth host env s.admin
  .ok { s with oraclePubkey := some newPubkey }

/-- `set_oracle_identity` -/
def setOracleIdentity (host : Host D) (env : Env) (s : State D) (newOracle : Address)
    (newPubkey : BytesN 32) : Outcome (State D) := do
  requireAuth host env s.admin
  rejectIf (newOracle = s.coSigner) .oracleEqualsCoSigner
  .ok { s with oracle := newOracle, oraclePubkey := some newPubkey }

/-- `set_co_signer` -/
def setCoSigner (host : Host D) (env : Env) (s : State D) (newCoSigner : Address) :
    Outcome (State D) := do
  requireAuth host env s.admin
  rejectIf (newCoSigner = s.oracle) .coSignerEqualsOracle
  rejectIf (newCoSigner = s.admin) .coSignerEqualsAdmin
  .ok { s with coSigner := newCoSigner }

end ProtectionPool
