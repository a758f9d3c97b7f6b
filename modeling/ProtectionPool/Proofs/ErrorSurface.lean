/-
Module: ProtectionPool.Proofs.ErrorSurface
Purpose: The errors of each entry point.  On every pool that is reached by a run, a call
  fails with one of its own errors or with a trap, whoever makes it, unless the token or the
  vault it asks refuses with an error of its own.  The defensive checks among those of the
  source never fire, and three of the contract's errors belong to no call at all: their
  numbers are reported where the token or the vault has the same.
Trusted boundary: none
Main exports: Failure.among, Call.errors, Call.asksOutside, State.Registered,
  dispatch_within, errors_of_calls
-/
import ProtectionPool.Proofs.WellKept
import ProtectionPool.Books.Position

namespace ProtectionPool

open Checked

variable {D : Type}

/-- A failure is a trap, one of some errors, or the error another contract refused with. -/
def Failure.among (errors : List PoolError) (refusal : Option Nat) : Failure → Prop
  | .error e => e ∈ errors
  | .external code => refusal = some code
  | .overflow | .trap => True

section

variable {errors : List PoolError} {refusal : Option Nat}

@[simp] theorem among_error {e : PoolError} :
    Failure.among errors refusal (.error e) ↔ e ∈ errors := Iff.rfl

@[simp] theorem among_external {code : Nat} :
    Failure.among errors refusal (.external code) ↔ refusal = some code := Iff.rfl

@[simp] theorem among_overflow : Failure.among errors refusal .overflow := trivial

@[simp] theorem among_trap : Failure.among errors refusal .trap := trivial

@[simp] theorem among_refused {env : Env} : Failure.among errors env.refusal env.refused := by
  rcases env.refused_or with refused | ⟨code, refusal, refused⟩
  · rw [refused]
    exact among_trap
  · rw [refused]
    exact refusal

end

/-- The errors each entry point reports on a pool that was reached by a run.  The checks
for a claim without a deposit, for a position without a vault and for a redemption above the
position stand in the source but never fire there. -/
def Call.errors : Call D → List PoolError
  | .setOracle _ | .setOracleIdentity _ _ => [.oracleEqualsCoSigner]
  | .setCoSigner _ => [.coSignerEqualsOracle, .coSignerEqualsAdmin]
  | .setPoolCap _ => [.poolCapNotPositive, .poolCapBelowTotalStaked]
  | .transferAdmin _ => [.newAdminEqualsCoSigner]
  | .setOraclePubkey _ | .pause | .unpause | .setTreasury _ => []
  | .suspendStake _ => [.noStake, .alreadyWithdrawn]
  | .unsuspendStake _ _ => [.noStake]
  | .stake _ _ _ =>
      [.paused, .stakeNotPositive, .stakeOutOfRange, .alreadyStaked, .poolCapExceeded,
        .beneficiaryIsStaker, .beneficiaryIsOracle, .beneficiaryIsAdmin, .beneficiaryIsCoSigner]
  | .withdraw _ _ =>
      [.paused, .noStake, .alreadyWithdrawn, .claimActive, .penaltyLockActive, .wrongBeneficiary,
        .insufficientLiquidity]
  | .setBeneficiary _ _ =>
      [.paused, .beneficiaryIsStaker, .beneficiaryIsOracle, .beneficiaryIsAdmin,
        .beneficiaryIsCoSigner, .noStake, .stakeForfeited]
  | .emergencyExit _ => [.noStake, .noActiveStake, .claimActive, .insufficientLiquidity]
  | .submitClaim _ _ _ _ _ _ _ _ =>
      [.paused, .callerNotOracleOrAdmin, .entitlementNotPositive, .invalidTier, .signatureExpired,
        .signatureDeadlineTooFar, .oraclePubKeyNotSet, .approvalRevoked, .noStake, .noActiveStake,
        .alreadyWithdrawn, .stakeSuspended, .claimAlreadyActiveForStake, .claimAlreadyQueued,
        .entitlementExceedsTierCap, .hackTimestampInFuture, .hackPredatesStake,
        .claimWindowExpired, .claimAlreadyExists]
  | .revokeApproval _ _ _ _ _ _ _ => [.callerNotAdmin, .signatureExpired, .signatureDeadlineTooFar]
  | .unlockPendingClaim _ => [.paused, .noSuchClaim, .claimNotPending, .timeGateNotMet]
  | .tryReleaseQueuedClaim _ =>
      [.paused, .noSuchQueuedClaim, .walletHasDifferentActiveClaim, .queueReleaseNotYetEligible]
  | .expireQueuedClaim _ => [.paused, .noSuchQueuedClaim, .queueNotYetExpired]
  | .approveClaim _ =>
      [.paused, .noSuchClaim, .claimNotAwaitingApproval, .approvalWindowExpired, .stakeSuspended]
  | .expirePendingApproval _ =>
      [.noSuchClaim, .claimNotAwaitingApproval, .stakeSuspended, .approvalWindowNotExpired]
  | .expireStaleClaim _ =>
      [.noSuchClaim, .claimNotActive, .claimFullyStreamed, .stakeSuspended, .claimNotStale]
  | .claimStream _ _ =>
      [.paused, .noSuchClaim, .claimNotActive, .cooldownNotPassed, .claimFullyStreamed,
        .stakeSuspended, .wrongBeneficiary, .nothingVested, .dailyOutflowCapReached,
        .insufficientLiquidity]
  | .cancelClaim _ => [.noSuchClaim, .claimNotCancellable]
  | .approveOverride _ _ _ _ _ =>
      [.paused, .callerNotAdminOrCoSigner, .entitlementNotPositive, .invalidTier,
        .overrideParamsMismatch, .claimAlreadyCompleted, .noStake, .walletHasDifferentActiveClaim,
        .noStakeAmountForOverride, .entitlementExceedsTierCap, .insolvent]
  | .cancelPendingOverride _ _ _ => [.callerNotAdmin, .noPendingOverride]
  | .setVault _ => [.vaultChangeWhileDeployed]
  | .setDeployBps _ => [.amountNotPositive, .deployBpsTooHigh]
  | .deployToVault _ _ =>
      [.paused, .amountNotPositive, .vaultNotSet, .insufficientLiquidity, .deployExceedsCeiling,
        .deployBreachesAllocation, .minSharesNotMet]
  | .autoDeployLiquidity => [.paused, .nothingDeployed, .minSharesNotMet]
  | .provideLiquidity _ _ =>
      [.vaultNotSet, .amountNotPositive, .nothingDeployed, .redeemExceedsDeployed,
        .minAmountNotMet]
  | .ensureLiquidity => [.nothingDeployed, .amountNotPositive, .minAmountNotMet]
  | .extractYield _ _ =>
      [.vaultNotSet, .treasuryNotSet, .amountNotPositive, .nothingDeployed,
        .redeemExceedsDeployed, .minAmountNotMet]
  | .withdrawYield _ =>
      [.amountNotPositive, .treasuryNotSet, .exceedsYieldBalance, .insufficientLiquidity]

/-- The entry points that call the token or the vault. -/
def Call.asksOutside : Call D → Bool
  | .stake _ _ _ | .withdraw _ _ | .emergencyExit _ | .claimStream _ _ | .deployToVault _ _
  | .autoDeployLiquidity | .provideLiquidity _ _ | .ensureLiquidity | .extractYield _ _
  | .withdrawYield _ => true
  | _ => false

/-- The typed error that a call may pass on. -/
def Call.passesOn (env : Env) (call : Call D) : Option Nat :=
  if call.asksOutside then env.refusal else none

theorem passesOn_eq_some {env : Env} {call : Call D} {code : Nat} :
    call.passesOn env = some code ↔ call.asksOutside = true ∧ env.refusal = some code := by
  simp [Call.passesOn]

variable {host : Host D} {env : Env} {s : State D} {errors : List PoolError}
  {refusal : Option Nat} {allowed : Failure → Prop}

/-! ### Checks -/

@[simp] theorem within_rejectIf {p : Prop} [Decidable p] {e : PoolError} :
    Within allowed (rejectIf p e) ↔ (p → allowed (.error e)) := by
  unfold rejectIf
  split_ifs with h <;> simp [h]

@[simp] theorem within_okOr {α : Type} {value : Option α} {e : PoolError} :
    Within allowed (okOr value e) ↔ (value = none → allowed (.error e)) := by
  cases value <;> simp [okOr]

@[simp] theorem within_trapUnless {p : Prop} [Decidable p] :
    Within allowed (trapUnless p) ↔ (¬ p → allowed .trap) := by
  unfold trapUnless
  split_ifs with h <;> simp [h]

@[simp] theorem within_requireNotPaused :
    Within allowed (requireNotPaused s) ↔ (s.paused = true → allowed (.error .paused)) := by
  simp [requireNotPaused]

@[simp] theorem within_requireAuth {a : Address} :
    Within allowed (requireAuth host env a) ↔
      (¬ (a ∈ env.signers ∧ a ≠ host.contract) → allowed .trap) :=
  within_trapUnless

@[simp] theorem within_requireLiquidity {amount : Int} :
    Within allowed (requireLiquidity host s amount) ↔
      (liquidBalance host s < amount → allowed (.error .insufficientLiquidity)) :=
  within_rejectIf

@[simp] theorem within_refuseUnless {p : Prop} [Decidable p] :
    Within allowed (refuseUnless env p) ↔ (¬ p → allowed env.refused) := by
  unfold refuseUnless
  split_ifs with h <;> simp [h]

@[simp] theorem within_transfer {payer payee : Address} {amount : Int} :
    Within allowed (transfer env s payer payee amount) ↔
      (¬ ((0 ≤ amount ∧ amount ≤ s.xlm payer) ∧ env.tokenAccepts = true) →
        allowed env.refused) := by
  simp only [transfer, within_bind, within_refuseUnless, within_ok, implies_true, and_true]

@[simp] theorem within_vaultDeposit {vault : Address} :
    Within (Failure.among errors env.refusal) (vaultDeposit host env s vault) := by
  simp [vaultDeposit]

@[simp] theorem within_vaultWithdraw {vault : Address} :
    Within (Failure.among errors env.refusal) (vaultWithdraw host env s vault) := by
  simp [vaultWithdraw]

/-! ### Formulas -/

@[simp] theorem within_minStake : Within (Failure.among errors refusal) (minStake s) := by
  simp [minStake]

@[simp] theorem within_maxStake : Within (Failure.among errors refusal) (maxStake s) := by
  simp [maxStake]

@[simp] theorem within_computePointsForRecord {record : StakeRecord D} :
    Within (Failure.among errors refusal) (computePointsForRecord s record) := by
  simp [computePointsForRecord, within_ite]

/-- A tier other than the three is the only fault of a tier's ratio. -/
theorem within_tierRatio {tier : Nat} (listed : .invalidTier ∈ errors) :
    Within (Failure.among errors refusal) (tierRatio tier) := by
  unfold tierRatio
  split <;> simp [listed]

theorem within_tierCap {stakeAmount : Int} {tier : Nat} (listed : .invalidTier ∈ errors) :
    Within (Failure.among errors refusal) (tierCap stakeAmount tier) := by
  simp [tierCap, within_tierRatio listed]

@[simp] theorem within_stressCap : Within (Failure.among errors refusal) (stressCap s) := by
  simp [stressCap, within_ite]

@[simp] theorem within_dynamicOutflowBps {base : Int} :
    Within (Failure.among errors refusal) (dynamicOutflowBps s base) := by
  simp [dynamicOutflowBps, within_ite]

@[simp] theorem within_deployCeiling : Within (Failure.among errors refusal) (deployCeiling s) := by
  simp [deployCeiling]

@[simp] theorem within_slippageFloor {expected : Int} :
    Within (Failure.among errors refusal) (slippageFloor expected) := by
  simp [slippageFloor]

@[simp] theorem within_idleDeployable :
    Within (Failure.among errors refusal) (idleDeployable host s) := by
  simp [idleDeployable, within_ite]

@[simp] theorem within_rebalanceShortfall :
    Within (Failure.among errors refusal) (rebalanceShortfall host s) := by
  simp [rebalanceShortfall]

@[simp] theorem within_sharesNeeded {shortfall : Int} :
    Within (Failure.among errors refusal) (sharesNeeded s shortfall) := by
  simp [sharesNeeded]

@[simp] theorem within_computePoints {wallet : Address} :
    Within (Failure.among errors refusal) (computePoints s wallet) := by
  unfold computePoints
  split <;> simp

/-! ### Parts of calls -/

@[simp] theorem within_releasedAllocation {existing : Option Claim} :
    Within (Failure.among errors refusal) (releasedAllocation s existing) := by
  unfold releasedAllocation
  split <;> simp [within_ite]

theorem within_depositAndBook {vault : Address} {amount minSharesOut : Int}
    (listed : .minSharesNotMet ∈ errors) :
    Within (Failure.among errors env.refusal)
      (depositAndBook host env s vault amount minSharesOut) := by
  simp [depositAndBook, listed]

theorem within_redeem {vault : Address} {shares minXlmOut : Int}
    (positive : .amountNotPositive ∈ errors) (held : .nothingDeployed ∈ errors)
    (within : s.totalDeployedShares < shares → .redeemExceedsDeployed ∈ errors)
    (short : .minAmountNotMet ∈ errors) :
    Within (Failure.among errors env.refusal) (redeem host env s vault shares minXlmOut) := by
  simp [redeem, positive, held, short]
  tauto

/-- The amount idle is always above what claims reserve. -/
theorem reserves_of_idleDeployable {amount : Int} (idle : idleDeployable host s = .ok amount)
    (deploys : amount ≠ 0) : s.totalAllocated ≤ liquidBalance host s - amount := by
  simp only [idleDeployable, bind_eq_ok, i128_eq_ok] at idle
  obtain ⟨surplus, ⟨fits, rfl⟩, rest⟩ := idle
  split_ifs at rest with nothing
  · cases rest
    exact absurd rfl deploys
  · simp at rest
    omega

variable [DecidableEq D]

@[simp] theorem within_admitClaim {wallet : Address} {txHash : BytesN 32} {claimId : D}
    {entitlement : Int} {tier hackTimestamp : Nat} {record : StakeRecord D} {counts : Bool} :
    Within (Failure.among errors refusal) (admitClaim s wallet txHash claimId entitlement tier
      hackTimestamp record counts) := by
  simp [admitClaim, admissionStatus, within_ite]

@[simp] theorem within_activateClaim {record : StakeRecord D} {claim : Claim} :
    Within (Failure.among errors refusal) (activateClaim s record claim) := by
  simp [activateClaim]

@[simp] theorem within_overrideActivation {record : StakeRecord D} {claim : Claim} :
    Within (Failure.among errors refusal) (overrideActivation s record claim) := by
  simp [overrideActivation, reexecuteClaim, within_ite]

@[simp] theorem within_resetClaimClock {wallet : Address} {claimId : Option D} :
    Within (Failure.among errors refusal) (resetClaimClock s wallet claimId) := by
  have restarts (claim : Claim) : Within (Failure.among errors refusal) (restartClock s claim) := by
    unfold restartClock
    split <;> simp
  unfold resetClaimClock
  split
  · simp
  · split <;> simp [within_ite, restarts]

/-! ### Pools that a run reaches -/

/-- What keeps the defensive checks from firing: the wallet of a claim has a deposit on
record, and shares are held at a vault only. -/
structure State.Registered (s : State D) : Prop where
  staked : Store.All (fun _ claim => ∃ record, s.stakes.get claim.wallet = some record) s.claims
  configured : 0 < s.totalDeployedShares → s.vault ≠ none

theorem State.Registered.stake_ne_none (registered : s.Registered) {claimId : D} {claim : Claim}
    (stored : s.claims.get claimId = some claim) : s.stakes.get claim.wallet ≠ none := by
  obtain ⟨record, found⟩ := registered.staked claimId claim stored
  rw [found]
  exact Option.some_ne_none record

/-- A call on a registered pool fails with its own errors alone, or with the one it passes
on. -/
theorem dispatch_within (registered : s.Registered) (call : Call D) :
    Within (Failure.among call.errors (call.passesOn env)) (dispatch host env s call) := by
  cases call with
  | setOracle => simp [dispatch, returningUnit, setOracle, Call.errors]
  | setOraclePubkey => simp [dispatch, returningUnit, setOraclePubkey]
  | setOracleIdentity => simp [dispatch, returningUnit, setOracleIdentity, Call.errors]
  | setCoSigner => simp [dispatch, returningUnit, setCoSigner, Call.errors]
  | setPoolCap => simp [dispatch, returningUnit, setPoolCap, Call.errors]
  | transferAdmin => simp [dispatch, returningUnit, transferAdmin, Call.errors]
  | pause | unpause => simp [dispatch, returningUnit, setPaused]
  | suspendStake => simp [dispatch, returningUnit, suspendStake, Call.errors]
  | unsuspendStake => simp [dispatch, returningUnit, unsuspendStake, Call.errors]
  | stake => simp [dispatch, returningUnit, stake, Call.errors, Call.passesOn,
        Call.asksOutside]
  | withdraw => simp [dispatch, returningUnit, withdraw, bankPoints, within_ite, Call.errors,
        Call.passesOn, Call.asksOutside]
  | setBeneficiary => simp [dispatch, returningUnit, setBeneficiary, Call.errors]
  | emergencyExit => simp [dispatch, returningUnit, emergencyExit, Call.errors, Call.passesOn,
        Call.asksOutside]
  | submitClaim =>
      simp [dispatch, returning, submitClaim, verifyCaller, verifyOracleSignature,
        requireOpenDeadline, requireEligibleStake, within_tierRatio, within_tierCap, within_ite,
        Call.errors]
  | revokeApproval =>
      simp [dispatch, returningUnit, revokeApproval, requireOpenDeadline, Call.errors]
  | unlockPendingClaim =>
      simp [dispatch, returningUnit, unlockPendingClaim, Call.errors]
      exact fun _ _ stored _ => registered.stake_ne_none stored
  | tryReleaseQueuedClaim =>
      simp [dispatch, returningUnit, tryReleaseQueuedClaim, Call.errors]
      exact fun _ _ stored _ => registered.stake_ne_none stored
  | expireQueuedClaim =>
      simp [dispatch, returningUnit, expireQueuedClaim, Call.errors]
      exact fun _ _ stored _ _ _ => registered.stake_ne_none stored
  | approveClaim =>
      simp [dispatch, returningUnit, approveClaim, Call.errors]
      exact fun _ _ stored _ _ _ _ => registered.stake_ne_none stored
  | expirePendingApproval =>
      simp [dispatch, returningUnit, expirePendingApproval, Call.errors]
      exact fun _ stored _ => registered.stake_ne_none stored
  | expireStaleClaim =>
      simp [dispatch, returningUnit, expireStaleClaim, Call.errors]
      exact fun _ stored _ _ => registered.stake_ne_none stored
  | claimStream =>
      simp [dispatch, returning, claimStream, transferAmount, vestedTotal, outflowCap, Call.errors,
        Call.passesOn, Call.asksOutside]
      exact fun _ _ stored _ _ _ _ _ => registered.stake_ne_none stored
  | cancelClaim =>
      simp [dispatch, returningUnit, cancelClaim, restoreStake, within_ite, Call.errors]
      exact fun _ _ _ stored _ _ => registered.stake_ne_none stored
  | approveOverride =>
      simp [dispatch, returningUnit, approveOverride, executeOverride, effectiveTotalStaked,
        within_tierRatio, within_tierCap, within_ite, Call.errors]
  | cancelPendingOverride => simp [dispatch, returningUnit, cancelPendingOverride, Call.errors]
  | setVault => simp [dispatch, returningUnit, setVault, Call.errors]
  | setTreasury => simp [dispatch, returningUnit, setTreasury]
  | setDeployBps => simp [dispatch, returningUnit, setDeployBps, Call.errors]
  | deployToVault =>
      simp [dispatch, returning, deployToVault, within_depositAndBook, Call.errors, Call.passesOn,
        Call.asksOutside]
  | autoDeployLiquidity =>
      simp [dispatch, returning, autoDeployLiquidity, within_depositAndBook, within_ite,
        Call.errors, Call.passesOn,
        Call.asksOutside]
      intro _ held _ amount idle deploys
      exact ⟨registered.configured held, fun _ _ => reserves_of_idleDeployable idle deploys⟩
  | provideLiquidity =>
      simp [dispatch, returning, provideLiquidity, within_redeem, Call.errors, Call.passesOn,
        Call.asksOutside]
  | ensureLiquidity =>
      simp [dispatch, returning, ensureLiquidity, within_ite, Call.errors, Call.passesOn,
        Call.asksOutside]
      intro _ _ _ held _ shares needed _ _ _
      refine ⟨registered.configured held, fun _ _ => within_redeem ?_ ?_ ?_ ?_⟩
      · simp
      · simp
      · exact fun above =>
          absurd ((sharesNeeded_ok needed).2.trans_le (min_le_right _ _)) above.not_ge
      · simp
  | extractYield =>
      simp [dispatch, returning, extractYield, sendYield, within_redeem, within_ite, Call.errors,
        Call.passesOn, Call.asksOutside]
  | withdrawYield =>
      simp [dispatch, returningUnit, withdrawYield, yieldBalance, within_ite, Call.errors,
        Call.passesOn, Call.asksOutside]

/-- Only a position opened at a vault holds shares. -/
theorem configured_of_step {action : Action D} {output : Output D} {s' : State D}
    (stepped : poolStep host s action = .ok (output, s'))
    (configured : 0 < s.totalDeployedShares → s.vault ≠ none) :
    0 < s'.totalDeployedShares → s'.vault ≠ none := by
  have step := step_positions stepped
  generalize position : s'.position = p at step
  have shares : s'.totalDeployedShares = p.totalDeployedShares := by rw [← position]; rfl
  have vault : s'.vault = p.vault := by rw [← position]; rfl
  rw [shares, vault]
  cases step with
  | kept | capSet | deployBpsSet | sharesMoved => exact configured
  | vaultSet => exact fun _ => Option.some_ne_none _
  | deposited _ _ set | redeemed _ _ _ set =>
      intro _ unset
      exact absurd (set.symm.trans unset) (Option.some_ne_none _)

theorem registered_of_run {guard : System.Guard (State D) (Action D) (Output D)}
    {log : List (Entry (State D) (Action D) (Output D))}
    (run : (poolSystem host).Run guard log s) : s.Registered where
  staked := (wellKept_of_run run).staked
  configured := by
    apply run.invariant (P := fun _ s => 0 < s.totalDeployedShares → s.vault ≠ none)
    · intro s deployed held
      obtain ⟨-, -, -, noShares, -⟩ := deployed_position deployed
      exact absurd noShares held.ne'
    · intro log s action output s' _ configured _ stepped
      exact configured_of_step stepped configured

/-- The errors that belong to no call: the constructor reports none, and queueing replaced
two refusals. -/
def PoolError.unreported : List PoolError :=
  [.alreadyInitialized, .dailyStressCapExceeded, .oracleDailyClaimLimitReached]

omit [DecidableEq D] in
theorem Call.unreported (call : Call D) : ∀ e ∈ call.errors, e ∉ PoolError.unreported := by
  cases call <;> simp [Call.errors, PoolError.unreported]

/-- No other error of the pool has the number of one of these. -/
theorem unreported_of_code {e e' : PoolError} (never : e' ∈ PoolError.unreported)
    (same : e.code = e'.code) : e ∈ PoolError.unreported := by
  have numbered : ∀ e : PoolError, e.code ∈ PoolError.unreported.map PoolError.code →
      e ∈ PoolError.unreported := by
    intro e
    cases e <;> decide
  exact numbered e (same ▸ List.mem_map_of_mem never)

/-- In every run, whoever makes a call and with whatever arguments, it fails by a trap, with
one of its own errors or, where it asks the token or the vault, with the error that one
refused with.  A claim found without its deposit, shares without a vault and an automatic
rebalance beyond its bounds are among the errors nobody ever sees, and so are the refusals
that queueing replaced: their numbers are reported as the token's or the vault's alone. -/
theorem errors_of_calls (host : Host D)
    {log : List (Entry (State D) (Action D) (Output D))} {s : State D}
    (run : (poolSystem host).Run System.anyStep log s) (env : Env) (call : Call D)
    {failure : Failure} (failed : dispatch host env s call = .error failure) :
    (failure = .overflow ∨ failure = .trap ∨ (∃ e ∈ call.errors, failure = .error e) ∨
        call.asksOutside = true ∧ ∃ code, env.refusal = some code ∧ failure = .external code) ∧
      ∀ e ∈ PoolError.unreported, failure.number = some e.code →
        call.asksOutside = true ∧ env.refusal = some e.code ∧ failure = .external e.code := by
  have reported := dispatch_within (registered_of_run run) call failure failed
  cases failure with
  | overflow => exact ⟨.inl rfl, nofun⟩
  | trap => exact ⟨.inr (.inl rfl), nofun⟩
  | error e =>
      refine ⟨.inr (.inr (.inl ⟨e, reported, rfl⟩)), fun e' never same => ?_⟩
      exact absurd (unreported_of_code never (Option.some.inj same)) (call.unreported e reported)
  | external code =>
      obtain ⟨asks, refusal⟩ := passesOn_eq_some.mp reported
      refine ⟨.inr (.inr (.inr ⟨asks, code, refusal, rfl⟩)), fun e' _ same => ?_⟩
      obtain rfl : code = e'.code := Option.some.inj same
      exact ⟨asks, refusal, rfl⟩

/-- Where nobody holds any token, a stake reports the number the token refuses it with.
Among the pool's own it is that of an error no call reports. -/
theorem errors_of_calls_sample :
    ∃ failure : Failure, failure.number = some PoolError.alreadyInitialized.code ∧
      (failure = .overflow ∨ failure = .trap ∨
          (∃ e ∈ (Call.stake (party 11) 2000 (party 21) : Call Nat).errors,
            failure = .error e) ∨
          true = true ∧ ∃ code, some 10 = some code ∧ failure = .external code) ∧
        ∀ e ∈ PoolError.unreported, failure.number = some e.code →
          true = true ∧ some 10 = some e.code ∧ failure = .external e.code := by
  have deployed : Deployed sampleHost { samplePool with xlm := fun _ => 0 } :=
    ⟨.of [party 1] ⟨0, 0, 0, 0⟩, 1000, 1000000, fun _ => 0, samplePool.vaultShares, party 1,
      party 2, 0, party 3, .contract 1, 10000000, by decide, by decide, fun _ => le_refl _, rfl⟩
  have unfunded : ¬ Avoids (.external 10) (dispatch sampleHost
      { Env.of [party 11] ⟨0, 0, 0, 0⟩ with refusal := some 10 }
      { samplePool with xlm := fun _ => 0 } (.stake (party 11) 2000 (party 21))) := by
    decide +kernel
  exact ⟨_, rfl, errors_of_calls sampleHost (.start deployed) _ _ (not_avoids.mp unfunded)⟩

end ProtectionPool
