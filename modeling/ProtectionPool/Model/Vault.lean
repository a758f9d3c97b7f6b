/-
Module: ProtectionPool.Model.Vault
Purpose: Deploying pool XLM to an external yield vault, redeeming it, and the
  treasury withdrawals (`vault.rs`).
Trusted boundary: the vault itself is external; `Env.vault` holds its answer
Main exports: yieldBalance, setVault, setTreasury, setDeployBps, deployToVault,
  autoDeployLiquidity, redeem, provideLiquidity, ensureLiquidity, extractYield,
  withdrawYield
-/
import ProtectionPool.Model.Claim

namespace ProtectionPool

variable {D : Type} [DecidableEq D]

/-- `yield_balance` -/
def yieldBalance (host : Host D) (s : State D) : Outcome Int := do
  let total ← i128 (liquidBalance host s + s.totalDeployedXlm)
  let reserved ← i128 (s.totalStaked + s.totalAllocated)
  if total > reserved then i128 (total - reserved) else .ok 0

/-! ### Configuration -/

/-- `set_vault` -/
def setVault (host : Host D) (env : Env) (s : State D) (vault : Address) :
    Outcome (State D) := do
  requireAuth host env s.admin
  rejectIf (s.totalDeployedShares > 0) .vaultChangeWhileDeployed
  .ok { s with vault := some vault }

/-- `set_treasury` -/
def setTreasury (host : Host D) (env : Env) (s : State D) (treasury : Address) :
    Outcome (State D) := do
  requireAuth host env s.admin
  .ok { s with treasury := some treasury }

/-- `set_deploy_bps` -/
def setDeployBps (host : Host D) (env : Env) (s : State D) (bps : Int) :
    Outcome (State D) := do
  requireAuth host env s.admin
  rejectIf (bps < 0) .amountNotPositive
  rejectIf (bps > maxDeployBps) .deployBpsTooHigh
  .ok { s with deployBps := bps }

/-! ### Deployment -/

/-- The most principal that may be deployed at the configured ratio. -/
def deployCeiling (s : State D) : Outcome Int := do
  let scaled ← i128 (s.totalStaked * s.deployBps)
  .ok (scaled.tdiv deployBpsDenominator)

/-- The part the two deployment calls share: deposit, measure the shares by the
change of the pool's share balance, and book the position. -/
def depositAndBook (host : Host D) (env : Env) (s : State D) (vault : Address)
    (amount minSharesOut : Int) : Outcome (Int × State D) := do
  let deposited ← vaultDeposit host env s vault
  let sharesGained ← i128 (deposited.vaultShares vault - s.vaultShares vault)
  rejectIf (sharesGained < minSharesOut) .minSharesNotMet
  let deployedShares ← i128 (s.totalDeployedShares + sharesGained)
  let deployedXlm ← i128 (s.totalDeployedXlm + amount)
  .ok (sharesGained,
    { deposited with
      totalDeployedShares := deployedShares
      totalDeployedXlm := deployedXlm })

/-- `deploy_to_vault`; returns the shares gained. -/
def deployToVault (host : Host D) (env : Env) (s : State D) (amount minSharesOut : Int) :
    Outcome (Int × State D) := do
  requireNotPaused s
  requireAuth host env s.admin
  rejectIf (amount ≤ 0) .amountNotPositive
  let vault ← okOr s.vault .vaultNotSet
  rejectIf (liquidBalance host s < amount) .insufficientLiquidity
  let ceiling ← deployCeiling s
  let deployedAfter ← i128 (s.totalDeployedXlm + amount)
  rejectIf (deployedAfter > ceiling) .deployExceedsCeiling
  rejectIf (liquidBalance host s - amount < s.totalAllocated) .deployBreachesAllocation
  depositAndBook host env s vault amount minSharesOut

/-- The slippage floor both automatic rebalancing calls apply. -/
def slippageFloor (expected : Int) : Outcome Int := do
  let scaled ← i128 (expected * (bpsDenominator - maxRebalanceSlippageBps))
  .ok (scaled.tdiv bpsDenominator)

/-- The amount `auto_deploy_liquidity` puts to work: the XLM above what claims
reserve, within the room below the ceiling. -/
def idleDeployable (host : Host D) (s : State D) : Outcome Int := do
  let surplus ← i128 (liquidBalance host s - s.totalAllocated)
  let idle := max surplus 0
  if idle = 0 then .ok 0
  else do
    let ceiling ← deployCeiling s
    let headroom ← i128 (ceiling - s.totalDeployedXlm)
    .ok (min idle (max headroom 0))

/-- `auto_deploy_liquidity`; returns the shares gained. -/
def autoDeployLiquidity (host : Host D) (env : Env) (s : State D) :
    Outcome (Int × State D) := do
  requireNotPaused s
  rejectIf (s.totalDeployedShares ≤ 0 ∨ s.totalDeployedXlm ≤ 0) .nothingDeployed
  let amount ← idleDeployable host s
  if amount = 0 then .ok (0, s)
  else do
    let vault ← okOr s.vault .vaultNotSet
    rejectIf (liquidBalance host s - amount < s.totalAllocated) .deployBreachesAllocation
    let scaled ← i128 (amount * s.totalDeployedShares)
    let minSharesOut ← slippageFloor (scaled.tdiv s.totalDeployedXlm)
    depositAndBook host env s vault amount minSharesOut

/-! ### Redemption -/

/-- A redemption: the XLM received, the principal it stood for, and the state
after it. -/
structure Redemption (D : Type) where
  received : Int
  principal : Int
  state : State D

/-- The slice of the deployed principal a number of shares stands for, at its
original value. -/
def principalOf (s : State D) (shares : Int) : Int :=
  (s.totalDeployedXlm * shares).tdiv s.totalDeployedShares

/-- `redeem`.  A shortfall is marked down in `total_staked`. -/
def redeem (host : Host D) (env : Env) (s : State D) (vault : Address)
    (shares minXlmOut : Int) : Outcome (Redemption D) := do
  rejectIf (shares ≤ 0) .amountNotPositive
  rejectIf (s.totalDeployedShares ≤ 0) .nothingDeployed
  rejectIf (shares > s.totalDeployedShares) .redeemExceedsDeployed
  let _ ← i128 (s.totalDeployedXlm * shares)
  let principal := principalOf s shares
  let paid ← vaultWithdraw host env s vault
  let received ← i128 (liquidBalance host paid - liquidBalance host s)
  rejectIf (received < minXlmOut) .minAmountNotMet
  let deployedShares ← i128 (s.totalDeployedShares - shares)
  let deployedXlm ← i128 (s.totalDeployedXlm - principal)
  let shortfall ← i128 (max (principal - received) 0)
  .ok {
    received := received
    principal := principal
    state := { paid with
      totalDeployedShares := deployedShares
      totalDeployedXlm := deployedXlm
      totalStaked :=
        if received < principal then saturatingSub s.totalStaked shortfall
        else s.totalStaked } }

/-- `provide_liquidity`; returns the XLM received. -/
def provideLiquidity (host : Host D) (env : Env) (s : State D) (shares minXlmOut : Int) :
    Outcome (Int × State D) := do
  requireAuth host env s.admin
  let vault ← okOr s.vault .vaultNotSet
  let redemption ← redeem host env s vault shares minXlmOut
  .ok (redemption.received, redemption.state)

/-- What `ensure_liquidity` wants back: the larger of the claims shortfall and
the drift above the ceiling. -/
def rebalanceShortfall (host : Host D) (s : State D) : Outcome Int := do
  let uncovered ← i128 (s.totalAllocated - liquidBalance host s)
  let ceiling ← deployCeiling s
  let drift ← i128 (s.totalDeployedXlm - ceiling)
  .ok (max (max uncovered 0) (max drift 0))

/-- The shares that stand for a shortfall, at most the whole position. -/
def sharesNeeded (s : State D) (shortfall : Int) : Outcome Int := do
  let scaled ← i128 (shortfall * s.totalDeployedShares)
  .ok (min (scaled.tdiv s.totalDeployedXlm) s.totalDeployedShares)

/-- `ensure_liquidity`; returns the XLM received. -/
def ensureLiquidity (host : Host D) (env : Env) (s : State D) : Outcome (Int × State D) := do
  let shortfall ← rebalanceShortfall host s
  if shortfall = 0 then .ok (0, s)
  else do
    rejectIf (s.totalDeployedShares ≤ 0 ∨ s.totalDeployedXlm ≤ 0) .nothingDeployed
    let shares ← sharesNeeded s shortfall
    let _ ← i128 (s.totalDeployedXlm * shares)
    let minXlmOut ← slippageFloor (principalOf s shares)
    let vault ← okOr s.vault .vaultNotSet
    let redemption ← redeem host env s vault shares minXlmOut
    .ok (redemption.received, redemption.state)

/-! ### Treasury -/

/-- The proceeds of `extract_yield`, sent to the treasury if there are any. -/
def sendYield (host : Host D) (env : Env) (s : State D) (treasury : Address) (yieldAmount : Int) :
    Outcome (State D) :=
  if yieldAmount > 0 then do
    let extracted ← i128 (s.totalExtractedYield + yieldAmount)
    transfer env { s with totalExtractedYield := extracted } host.contract treasury yieldAmount
  else .ok s

/-- `extract_yield`; returns the yield sent to the treasury. -/
def extractYield (host : Host D) (env : Env) (s : State D) (shares minXlmOut : Int) :
    Outcome (Int × State D) := do
  requireAuth host env s.admin
  let vault ← okOr s.vault .vaultNotSet
  let treasury ← okOr s.treasury .treasuryNotSet
  let redemption ← redeem host env s vault shares minXlmOut
  let yieldAmount ←
    i128 (if redemption.received > redemption.principal then
      redemption.received - redemption.principal else 0)
  let sent ← sendYield host env redemption.state treasury yieldAmount
  .ok (yieldAmount, sent)

/-- `withdraw_yield` -/
def withdrawYield (host : Host D) (env : Env) (s : State D) (amount : Int) :
    Outcome (State D) := do
  requireAuth host env s.admin
  rejectIf (amount ≤ 0) .amountNotPositive
  let treasury ← okOr s.treasury .treasuryNotSet
  let available ← yieldBalance host s
  rejectIf (amount > available) .exceedsYieldBalance
  rejectIf (amount > liquidBalance host s) .insufficientLiquidity
  let extracted ← i128 (s.totalExtractedYield + amount)
  transfer env { s with totalExtractedYield := extracted } host.contract treasury amount

end ProtectionPool
