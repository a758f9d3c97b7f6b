/-
Module: ProtectionPool.Model.Events
Purpose: The contract events and when they are published (the event blocks of
  `stake.rs`, `claim.rs` and `vault.rs`).
Trusted boundary: none
Main exports: Event, published, Action.published
-/
import ProtectionPool.Model.Contract

namespace ProtectionPool

variable {D : Type} [DecidableEq D]

/-- The `#[contractevent]` structures. -/
inductive Event (D : Type) where
  | staked (staker : Address) (amount : Int)
  | withdrawn (staker : Address) (amount : Int)
  | emergencyExit (staker : Address) (amount : Int)
  | claimSubmitted (wallet : Address) (claimId : D) (entitlement : Int)
  | claimQueued (wallet : Address) (claimId : D) (entitlement : Int)
  | claimQueueReleased (wallet : Address) (claimId : D)
  | claimQueueExpired (wallet : Address) (claimId : D)
  | claimUnlocked (wallet : Address) (claimId : D)
  | claimApproved (wallet : Address) (claimId : D) (pointsBurned : Int)
  | claimExpired (wallet : Address) (claimId : D) (released : Int)
  | claimStreamed (wallet : Address) (amount : Int)
  | claimCancelled (wallet : Address) (claimId : D)
  | overrideExecuted (wallet : Address) (claimId : D) (pointsBurned : Int)
  | overrideCancelled (claimId : D)
  | approvalRevoked (wallet : Address) (approvalHash : D)
  | deployed (vault : Address) (xlmAmount sharesGained : Int)
  | liquidityProvided (vault : Address) (sharesRedeemed xlmReceived : Int)
  | liquidityAutoRebalanced (vault : Address) (sharesRedeemed xlmReceived : Int)
  | liquidityAutoDeployed (vault : Address) (xlmAmount sharesGained : Int)
  | yieldExtracted (treasury : Address) (sharesRedeemed xlmReceived yieldAmount : Int)
  | yieldWithdrawn (treasury : Address) (amount : Int)
  | deploymentShortfall (vault : Address) (principalExpected xlmReceived : Int)
deriving DecidableEq, Repr

/-! ### Amounts the events name -/

/-- The deposit on file for a wallet. -/
def depositOf (s : State D) (wallet : Address) : Int :=
  ((s.stakes.get wallet).map StakeRecord.amount).getD 0

/-- The lifetime points an activation burns: the banked ones and those of the
deposit. -/
def pointsBurned (s : State D) (record : StakeRecord D) (wallet : Address) : Int :=
  match computePointsForRecord s record with
  | .ok points => getPointsBalance s wallet + points
  | .error _ => 0

/-- Whether `submit_claim` queues a claim it accepts: the pool is not solvent with
it, the day has no room for it, or the oracle has used up its submissions. -/
def queues (s : State D) (caller : Address) (entitlement : Int) : Bool :=
  match stressCap s with
  | .ok stress =>
      decide (s.totalAllocated + entitlement > s.totalStaked) ||
        decide ((getDailyEntitlement s (currentDay s)).1 + entitlement > stress) ||
        oracleRateLimited s caller (getDailyEntitlement s (currentDay s)).2
  | .error _ => false

/-- What `redeem` publishes: a loss against the principal. -/
def redeemPublished (env : Env) (s : State D) (vault : Address) (shares : Int) :
    List (Event D) :=
  if env.vault.paid < principalOf s shares then
    [.deploymentShortfall vault (principalOf s shares) env.vault.paid]
  else []

/-! ### Publication -/

/-- What a redemption call publishes: the loss, if there is one, and its own
event. -/
def redemptionPublished (env : Env) (s : State D) (shares : Int)
    (event : Address → Event D) : List (Event D) :=
  match s.vault with
  | some vault => redeemPublished env s vault shares ++ [event vault]
  | none => []

/-- What `auto_deploy_liquidity` publishes: nothing when nothing is idle. -/
def autoDeployPublished (host : Host D) (env : Env) (s : State D) : List (Event D) :=
  match idleDeployable host s with
  | .ok amount =>
      if amount = 0 then []
      else s.vault.elim [] fun vault => [.liquidityAutoDeployed vault amount env.vault.minted]
  | .error _ => []

/-- What `ensure_liquidity` publishes: nothing when nothing is short. -/
def ensurePublished (host : Host D) (env : Env) (s : State D) : List (Event D) :=
  match rebalanceShortfall host s with
  | .ok shortfall =>
      if shortfall = 0 then []
      else
        match sharesNeeded s shortfall with
        | .ok shares =>
            redemptionPublished env s shares fun vault =>
              .liquidityAutoRebalanced vault shares env.vault.paid
        | .error _ => []
  | .error _ => []

/-- What `approve_override` publishes: nothing when the approval is only
recorded. -/
def overridePublished (host : Host D) (s : State D) (caller wallet : Address)
    (txHash : BytesN 32) (entitlement : Int) (tier : Nat) : List (Event D) :=
  let claimId := computeClaimId host wallet txHash
  let req := recordApproval s caller (pendingRequest s claimId wallet txHash entitlement tier)
  if overrideReady s req = true then
    match s.stakes.get req.wallet with
    | some record =>
        [.overrideExecuted req.wallet claimId
          (if record.withdrawn then 0 else pointsBurned s record req.wallet)]
    | none => []
  else []

/-- What a claim operation publishes about the claim it names. -/
def claimPublished (s : State D) (claimId : D) (event : Claim → Event D) : List (Event D) :=
  match s.claims.get claimId with
  | some claim => [event claim]
  | none => []

/-- The events a successful call publishes, in their order. -/
def published (host : Host D) (env : Env) (s : State D) (output : Output D) :
    Call D → List (Event D)
  | .stake staker amount _ => [.staked staker amount]
  | .withdraw staker _ => [.withdrawn staker (depositOf s staker)]
  | .emergencyExit staker => [.emergencyExit staker (depositOf s staker)]
  | .submitClaim caller wallet txHash entitlement _ _ _ _ =>
      if queues s caller entitlement then
        [.claimQueued wallet (computeClaimId host wallet txHash) entitlement]
      else [.claimSubmitted wallet (computeClaimId host wallet txHash) entitlement]
  | .revokeApproval _ wallet txHash entitlement tier hackTimestamp deadline =>
      [.approvalRevoked wallet (approvalHash host
        (buildApprovalPayload host wallet txHash entitlement tier hackTimestamp deadline))]
  | .unlockPendingClaim claimId =>
      claimPublished s claimId fun claim => .claimUnlocked claim.wallet claimId
  | .tryReleaseQueuedClaim claimId =>
      claimPublished s claimId fun claim => .claimQueueReleased claim.wallet claimId
  | .expireQueuedClaim claimId =>
      claimPublished s claimId fun claim => .claimQueueExpired claim.wallet claimId
  | .approveClaim claimId =>
      claimPublished s claimId fun claim =>
        .claimApproved claim.wallet claimId
          (((s.stakes.get claim.wallet).map (pointsBurned s · claim.wallet)).getD 0)
  | .expirePendingApproval claimId =>
      claimPublished s claimId fun claim => .claimExpired claim.wallet claimId claim.entitlement
  | .expireStaleClaim claimId =>
      claimPublished s claimId fun claim =>
        .claimExpired claim.wallet claimId (claim.entitlement - claim.streamed)
  | .claimStream claimId _ =>
      match output with
      | .amount paid => claimPublished s claimId fun claim => .claimStreamed claim.wallet paid
      | _ => []
  | .cancelClaim claimId =>
      claimPublished s claimId fun claim => .claimCancelled claim.wallet claimId
  | .approveOverride caller wallet txHash entitlement tier =>
      overridePublished host s caller wallet txHash entitlement tier
  | .cancelPendingOverride _ wallet txHash =>
      [.overrideCancelled (computeClaimId host wallet txHash)]
  | .deployToVault amount _ =>
      s.vault.elim [] fun vault => [.deployed vault amount env.vault.minted]
  | .autoDeployLiquidity => autoDeployPublished host env s
  | .provideLiquidity shares _ =>
      redemptionPublished env s shares fun vault => .liquidityProvided vault shares env.vault.paid
  | .ensureLiquidity => ensurePublished host env s
  | .extractYield shares _ =>
      match s.treasury, output with
      | some treasury, .amount sent =>
          redemptionPublished env s shares fun _ =>
            .yieldExtracted treasury shares env.vault.paid sent
      | _, _ => []
  | .withdrawYield amount =>
      s.treasury.elim [] fun treasury => [.yieldWithdrawn treasury amount]
  | .setOracle _ | .setOraclePubkey _ | .setOracleIdentity _ _ | .setCoSigner _ | .setPoolCap _
  | .transferAdmin _ | .pause | .unpause | .suspendStake _ | .unsuspendStake _ _
  | .setBeneficiary _ _ | .setVault _ | .setTreasury _ | .setDeployBps _ => []

/-- The events of a step. -/
def Action.published (host : Host D) (s : State D) (output : Output D) :
    Action D → List (Event D)
  | .invoke env call => ProtectionPool.published host env s output call
  | _ => []

end ProtectionPool
