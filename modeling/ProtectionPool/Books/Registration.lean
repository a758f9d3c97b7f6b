/-
Module: ProtectionPool.Books.Registration
Purpose: Every step of the deployed contract writes to the register as the
  register's rules say, operation by operation, and a pool just deployed starts
  with an empty register.
Trusted boundary: none
Main exports: step_registers, Register.New, deployed_register
-/
import ProtectionPool.Books.Refinement
import ProtectionPool.Books.Register

namespace ProtectionPool

open Checked

variable {D : Type} [DecidableEq D] {host : Host D} {env : Env} {s s' : State D}
  {output : Output D}

/-! ### Deposits -/

theorem stake_registers {staker beneficiary : Address} {amount : Int}
    (stepped : stake host env s staker amount beneficiary = .ok s') :
    RegisterStep host (.invoke env (.stake staker amount beneficiary)) output s.register
      s'.register := by
  have staked := stake_eq_ok.mp stepped
  rw [staked.state]
  exact .staked staked.running staked.positive staked.vacant

theorem setBeneficiary_registers {staker newBeneficiary : Address}
    (stepped : setBeneficiary host env s staker newBeneficiary = .ok s') :
    RegisterStep host (.invoke env (.setBeneficiary staker newBeneficiary)) output s.register
      s'.register := by
  simp [setBeneficiary] at stepped
  obtain ⟨running, -, -, -, -, -, record, stored, funded, standing, rfl⟩ := stepped
  exact .beneficiarySet running stored funded standing

/-- Banking points writes at most the staker's own balance. -/
theorem bankPoints_ok {staker : Address} {finalPoints : Int} {points : Store Address Int}
    (banked : bankPoints s staker finalPoints = .ok points) :
    points = s.pointsBalances ∨ ∃ balance, points = s.pointsBalances.set staker balance := by
  rcases ite_eq_ok.mp banked with ⟨-, banked⟩ | ⟨-, banked⟩
  · simp only [bind_eq_ok, i128_eq_ok, Except.ok.injEq] at banked
    obtain ⟨balance, -, rfl⟩ := banked
    exact .inr ⟨balance, rfl⟩
  · exact .inl (Except.ok.inj banked).symm

theorem withdraw_registers {staker beneficiary : Address}
    (stepped : withdraw host env s staker beneficiary = .ok s') :
    RegisterStep host (.invoke env (.withdraw staker beneficiary)) output s.register
      s'.register := by
  obtain ⟨record, points, balances, withdrawn⟩ := withdraw_eq_ok.mp stepped
  rw [withdrawn.state]
  exact .withdrawn withdrawn.running withdrawn.stored withdrawn.funded withdrawn.standing
    withdrawn.inactive withdrawn.unlocked withdrawn.committed (bankPoints_ok withdrawn.banked)

theorem emergencyExit_registers {staker : Address}
    (stepped : emergencyExit host env s staker = .ok s') :
    RegisterStep host (.invoke env (.emergencyExit staker)) output s.register s'.register := by
  obtain ⟨record, exited⟩ := emergencyExit_eq_ok.mp stepped
  rw [exited.state]
  exact .emergencyExited exited.stored exited.funded exited.standing exited.inactive

/-! ### Suspension -/

theorem suspendStake_registers {wallet : Address}
    (stepped : suspendStake host env s wallet = .ok s') :
    RegisterStep host (.invoke env (.suspendStake wallet)) output s.register s'.register := by
  simp only [suspendStake, bind_eq_ok, okOr_eq_ok, Except.ok.injEq] at stepped
  obtain ⟨_, -, record, stored, _, -, _, -, rfl⟩ := stepped
  exact .suspended stored

omit [DecidableEq D] in
theorem restartClock_restarted {claim restarted : Claim}
    (computed : restartClock s claim = .ok restarted) :
    restarted = claim.restarted s.sequence := by
  cases status : claim.status with
  | awaitingApproval =>
      simp only [restartClock, status, bind_eq_ok, u32_eq_ok, Except.ok.injEq] at computed
      obtain ⟨deadline, ⟨-, rfl⟩, rfl⟩ := computed
      simp only [Claim.restarted, status]
  | active =>
      simp only [restartClock, status, Except.ok.injEq] at computed
      simp only [Claim.restarted, status, ← computed]
  | _ =>
      simp only [restartClock, status, Except.ok.injEq] at computed
      simp only [Claim.restarted, status, ← computed]

theorem unsuspendStake_registers {wallet : Address} {claimId : Option D}
    (stepped : unsuspendStake host env s wallet claimId = .ok s') :
    RegisterStep host (.invoke env (.unsuspendStake wallet claimId)) output s.register
      s'.register := by
  simp only [unsuspendStake, bind_eq_ok, okOr_eq_ok, Except.ok.injEq] at stepped
  obtain ⟨_, -, record, stored, _, -, claims, reset, rfl⟩ := stepped
  cases claimId with
  | none =>
      obtain rfl := Except.ok.inj reset
      refine .unsuspended stored ?_
      rintro _ _ ⟨⟩
  | some id =>
      cases listed : s.claims.get id with
      | none =>
          simp only [resetClaimClock, listed, Except.ok.injEq] at reset
          obtain rfl := reset
          refine .unsuspended stored ?_
          rintro _ claim ⟨⟩ found
          cases listed.symm.trans found
      | some claim =>
          simp only [resetClaimClock, listed] at reset
          rcases ite_eq_ok.mp reset with ⟨foreign, untouched⟩ | ⟨own, written⟩
          · obtain rfl := Except.ok.inj untouched
            refine .unsuspended stored ?_
            rintro _ other ⟨⟩ found
            obtain rfl := Option.mem_unique listed found
            exact foreign
          · obtain rfl := not_not.mp own
            simp only [bind_eq_ok, Except.ok.injEq] at written
            obtain ⟨restarted, computed, rfl⟩ := written
            obtain rfl := restartClock_restarted computed
            exact .restarted listed stored

/-! ### Admission -/

omit [DecidableEq D] in
theorem requireOpenDeadline_ok {deadline : Nat} {u : Unit}
    (checked : requireOpenDeadline s deadline = .ok u) :
    s.timestamp ≤ deadline ∧ deadline ≤ s.timestamp + maxApprovalWindowSeconds := by
  simp [requireOpenDeadline] at checked
  exact ⟨checked.1, checked.2.2⟩

theorem isApprovalRevoked_eq_false {hash : D} (live : isApprovalRevoked s hash = false) :
    ∀ liveUntil, s.revoked.get hash = some liveUntil → liveUntil < s.sequence := by
  intro liveUntil entry
  simpa [isApprovalRevoked, entry] using live

theorem verifyCaller_ok {caller wallet : Address} {txHash : BytesN 32} {entitlement : Int}
    {tier hackTimestamp deadline : Nat} {signature : BytesN 64} {u : Unit}
    (verified : verifyCaller host s caller wallet txHash entitlement tier hackTimestamp deadline
      signature = .ok u) (oracle : caller = s.oracle) :
    s.register.AcceptsApproval host wallet txHash entitlement tier hackTimestamp deadline := by
  rw [verifyCaller, if_pos oracle] at verified
  simp only [verifyOracleSignature, bind_eq_ok, rejectIf_eq_ok] at verified
  obtain ⟨_, inTime, _, -, _, unrevoked, -⟩ := verified
  exact ⟨requireOpenDeadline_ok inTime,
    isApprovalRevoked_eq_false (Bool.eq_false_iff.mpr unrevoked)⟩

omit [DecidableEq D] in
theorem admissionStatus_register {record : StakeRecord D} {status : ClaimStatus} {deadline : Nat}
    (decided : admissionStatus s record = .ok (status, deadline)) :
    s.register.Admission record status deadline := by
  by_cases gate : gateMet s record = true
  · simp [admissionStatus, gate] at decided
    exact .inl ⟨decided.2.symm, decided.1.2, of_decide_eq_true gate⟩
  · simp [admissionStatus, gate] at decided
    exact .inr ⟨decided.1.symm, decided.2.symm, not_le.mp fun old => gate (decide_eq_true old)⟩

/-- What a successful admission leaves in the register. -/
theorem admitClaim_register {wallet : Address} {txHash : BytesN 32} {claimId : D}
    {entitlement : Int} {tier hackTimestamp : Nat} {record : StakeRecord D} {counted : Bool}
    (stepped : admitClaim s wallet txHash claimId entitlement tier hackTimestamp record counted =
      .ok s') :
    ∃ status deadline, s.register.Admission record status deadline ∧
      s'.register = s.register.enterClaim wallet claimId record
        (freshClaim wallet txHash hackTimestamp entitlement record.amount tier status deadline)
        (if counted then 1 else 0) := by
  simp [admitClaim] at stepped
  obtain ⟨-, -, -, status, deadline, decided, rfl⟩ := stepped
  exact ⟨status, deadline, admissionStatus_register decided, rfl⟩

theorem submitClaim_registers {caller wallet : Address} {txHash : BytesN 32} {entitlement : Int}
    {tier hackTimestamp deadline : Nat} {signature : BytesN 64} {claimId : D}
    (stepped : submitClaim host env s caller wallet txHash entitlement tier hackTimestamp deadline
      signature = .ok (claimId, s')) :
    RegisterStep host
      (.invoke env (.submitClaim caller wallet txHash entitlement tier hackTimestamp deadline
        signature)) output s.register s'.register := by
  simp only [submitClaim, bind_eq_ok, rejectIf_eq_ok, okOr_eq_ok, i128_eq_ok] at stepped
  obtain ⟨_, running, _, role, _, -, _, positive, _, -, _, verified, record, stored, _, checked,
    _, ⟨-, rfl⟩, _, ⟨-, rfl⟩, stress, -, _, fresh, outcome⟩ := stepped
  have submission : s.register.Submission host caller wallet txHash entitlement tier hackTimestamp
      deadline record := by
    simp [requireEligibleStake] at checked
    obtain ⟨funded, standing, unsuspended, inactive, unqueued, -⟩ := checked
    refine ⟨requireNotPaused_eq_ok.mp running, ?_, not_le.mp positive, verifyCaller_ok verified,
      stored, funded, standing, unsuspended, inactive, unqueued, ?_⟩
    · by_contra stranger
      exact role ⟨fun oracle => stranger (.inl oracle), fun admin => stranger (.inr admin)⟩
    · intro claim listed
      by_contra used
      exact fresh (by simp [show s.claims.get _ = some claim from listed, used])
  rcases ite_eq_ok.mp outcome with ⟨-, outcome⟩ | ⟨-, outcome⟩
  · simp only [Except.ok.injEq, Prod.mk.injEq] at outcome
    obtain ⟨-, rfl⟩ := outcome
    exact .queued submission
  · simp only [bind_eq_ok, Except.ok.injEq, Prod.mk.injEq] at outcome
    obtain ⟨admitted, stepped, -, rfl⟩ := outcome
    obtain ⟨status, approveDeadline, admission, after⟩ := admitClaim_register stepped
    simp only [decide_eq_true_eq] at after
    rw [after]
    exact .admitted submission admission

theorem tryReleaseQueuedClaim_registers {claimId : D}
    (stepped : tryReleaseQueuedClaim s claimId = .ok s') :
    RegisterStep host (.invoke env (.tryReleaseQueuedClaim claimId)) output s.register
      s'.register := by
  simp [tryReleaseQueuedClaim] at stepped
  obtain ⟨running, claim, listed, reserved, record, stored, own, -, -, -, -, -, -, stepped⟩ :=
    stepped
  obtain ⟨status, approveDeadline, admission, after⟩ := admitClaim_register stepped
  rw [after]
  refine .released running listed reserved stored ?_ admission
  cases held : record.activeClaimId with
  | none => exact .inl rfl
  | some activeId => simpa [held] using own

theorem expireQueuedClaim_registers {claimId : D}
    (stepped : expireQueuedClaim s claimId = .ok s') :
    RegisterStep host (.invoke env (.expireQueuedClaim claimId)) output s.register
      s'.register := by
  simp [expireQueuedClaim] at stepped
  obtain ⟨running, claim, listed, reserved, -, -, record, stored, rfl⟩ := stepped
  exact .queueExpired running listed reserved stored

/-! ### Approval, expiry and payout -/

theorem unlockPendingClaim_registers {claimId : D}
    (stepped : unlockPendingClaim s claimId = .ok s') :
    RegisterStep host (.invoke env (.unlockPendingClaim claimId)) output s.register
      s'.register := by
  simp [unlockPendingClaim] at stepped
  obtain ⟨running, claim, listed, pending, record, stored, -, gate, -, rfl⟩ := stepped
  exact .unlocked running listed pending stored gate

theorem approveClaim_registers {claimId : D}
    (stepped : approveClaim host env s claimId = .ok s') :
    RegisterStep host (.invoke env (.approveClaim claimId)) output s.register s'.register := by
  simp [approveClaim, activateClaim] at stepped
  obtain ⟨running, claim, listed, -, awaiting, inTime, record, stored, unsuspended, -, -, -, -, -,
    -, rfl⟩ := stepped
  exact .approved running listed awaiting inTime stored unsuspended

theorem expirePendingApproval_registers {claimId : D}
    (stepped : expirePendingApproval s claimId = .ok s') :
    RegisterStep host (.invoke env (.expirePendingApproval claimId)) output s.register
      s'.register := by
  simp [expirePendingApproval] at stepped
  obtain ⟨claim, listed, awaiting, record, stored, unsuspended, late, rfl⟩ := stepped
  exact .approvalExpired listed awaiting stored unsuspended late

theorem expireStaleClaim_registers {claimId : D}
    (stepped : expireStaleClaim s claimId = .ok s') :
    RegisterStep host (.invoke env (.expireStaleClaim claimId)) output s.register
      s'.register := by
  simp only [expireStaleClaim, bind_eq_ok, okOr_eq_ok, rejectIf_eq_ok, i128_eq_ok,
    Except.ok.injEq] at stepped
  obtain ⟨claim, listed, _, active, _, unpaid, record, stored, _, unsuspended, _, late, _, -,
    rfl⟩ := stepped
  exact .staleExpired listed (not_not.mp active) (not_le.mp unpaid) stored
    (Bool.eq_false_iff.mpr unsuspended) (not_le.mp late)

theorem claimStream_registers {claimId : D} {beneficiary : Address} {paid : Int}
    (stepped : claimStream host env s claimId beneficiary = .ok (paid, s')) :
    RegisterStep host (.invoke env (.claimStream claimId beneficiary)) (.amount paid) s.register
      s'.register := by
  obtain ⟨claim, record, streamed⟩ := claimStream_eq_ok.mp stepped
  rw [streamed.state]
  exact .streamed streamed.running streamed.listed streamed.active streamed.cooled streamed.unpaid
    streamed.stored streamed.unsuspended streamed.committed (transferAmount_pos streamed.computed)

theorem cancelClaim_registers {claimId : D}
    (stepped : cancelClaim host env s claimId = .ok s') :
    RegisterStep host (.invoke env (.cancelClaim claimId)) output s.register s'.register := by
  simp [cancelClaim] at stepped
  obtain ⟨-, claim, listed, cancellable, -, record, stored, record', rest, restored, rfl⟩ := stepped
  by_cases active : claim.status = .active
  · simp [restoreStake, active] at restored
    obtain ⟨-, -, -, rfl, rfl⟩ := restored
    exact @RegisterStep.reversed D _ host s.register env claimId claim record output listed active
      stored
  · simp [restoreStake, active] at restored
    obtain ⟨rfl, rfl⟩ := restored
    refine .droppedPending listed ?_ stored
    by_cases pending : claim.status = .pendingTime
    · simp [ClaimStatus.isPending, pending]
    · simp [ClaimStatus.isPending, cancellable active pending]

/-! ### Overrides and revocations -/

/-- Either way of putting an override into effect marks the deposit forfeited,
clears the points of a deposit forfeited just now, and starts the clocks over. -/
theorem overrideActivation_register {record : StakeRecord D} {claim : Claim}
    {activation : Activation D} (stake : claim.stake = record.amount)
    (active : claim.status = .active)
    (activated : overrideActivation s record claim = .ok activation) :
    activation.record = { record with withdrawn := true } ∧
      activation.claim =
        claim.activated record.amount s.totalStaked (s.sequence + cooldownLedgers) ∧
      activation.state.register =
        { s.register with
          pointsBalances :=
            if record.withdrawn then s.pointsBalances
            else s.pointsBalances.set claim.wallet 0 } := by
  by_cases withdrawn : record.withdrawn = true
  · simp [overrideActivation, withdrawn, reexecuteClaim] at activated
    obtain ⟨-, -, rfl⟩ := activated
    refine ⟨?_, ?_, ?_⟩
    · rw [← withdrawn]
    · simp [Claim.activated, ← stake, ← active]
    · rw [if_pos withdrawn]
      rfl
  · simp [overrideActivation, withdrawn, activateClaim] at activated
    obtain ⟨-, -, -, -, -, -, rfl⟩ := activated
    refine ⟨rfl, rfl, ?_⟩
    rw [if_neg withdrawn]
    rfl

theorem executeOverride_register {claimId : D} {req : OverrideRequest}
    (stepped : executeOverride s claimId req = .ok s') :
    ∃ record snapshot,
      (∀ claim, s.claims.get claimId = some claim → claim.status ≠ .completed) ∧
      s.stakes.get req.wallet = some record ∧ 0 < record.amount ∧
      (record.activeClaimId = none ∨ record.activeClaimId = some claimId) ∧
      s'.register =
        { s.register with
          pointsBalances :=
            if record.withdrawn then s.pointsBalances else s.pointsBalances.set req.wallet 0
          stakes := s.stakes.set req.wallet
            { record with
              withdrawn := true
              activeClaimId := some claimId
              reservedClaimId :=
                if record.reservedClaimId = some claimId then none else record.reservedClaimId }
          claims := s.claims.set claimId
            ((req.claim record.amount (carriedStreamed (s.claims.get claimId))
              s.timestamp).activated record.amount snapshot (s.sequence + cooldownLedgers)) } := by
  simp only [executeOverride, bind_eq_ok, rejectIf_eq_ok, okOr_eq_ok, i128_eq_ok,
    Except.ok.injEq] at stepped
  obtain ⟨_, unfinished, _, -, record, stored, _, foreign, _, funded, cap, -, _, -, _, -, _, -,
    _, -, activation, activated, rfl⟩ := stepped
  obtain ⟨record', claim', state'⟩ := overrideActivation_register rfl rfl activated
  refine ⟨record, s.totalStaked, ?_, stored, not_le.mp funded, ?_, ?_⟩
  · intro claim listed completed
    exact unfinished (by simp [listed, completed])
  · cases held : record.activeClaimId with
    | none => exact .inl rfl
    | some activeId => simpa [held] using foreign
  · show { activation.state.register with
      stakes := s.stakes.set req.wallet
        { activation.record with
          activeClaimId := some claimId
          reservedClaimId :=
            if activation.record.reservedClaimId = some claimId then none
            else activation.record.reservedClaimId }
      claims := s.claims.set claimId activation.claim } = _
    rw [record', claim', state']
    rfl

theorem approveOverride_registers {caller wallet : Address} {txHash : BytesN 32}
    {entitlement : Int} {tier : Nat}
    (stepped : approveOverride host env s caller wallet txHash entitlement tier = .ok s') :
    RegisterStep host (.invoke env (.approveOverride caller wallet txHash entitlement tier)) output
      s.register s'.register := by
  simp only [approveOverride, bind_eq_ok, rejectIf_eq_ok] at stepped
  obtain ⟨_, running, _, role, _, -, _, positive, _, -, _, agrees, outcome⟩ := stepped
  have approval : s.register.OverrideApproval host caller wallet txHash entitlement tier
      (s.register.request host caller wallet txHash entitlement tier) := by
    refine ⟨requireNotPaused_eq_ok.mp running, ?_, not_le.mp positive, rfl, ?_, ?_⟩
    · by_contra stranger
      exact role ⟨fun admin => stranger (.inl admin), fun coSigner => stranger (.inr coSigner)⟩
    · by_contra differs
      exact agrees (.inl differs)
    · by_contra differs
      exact agrees (.inr differs)
  by_cases ready :
      s.register.ready (s.register.request host caller wallet txHash entitlement tier) = true
  · have outcome := (if_pos ready).symm.trans outcome
    simp only [bind_eq_ok, Except.ok.injEq] at outcome
    obtain ⟨executed, stepped, rfl⟩ := outcome
    obtain ⟨record, snapshot, unfinished, stored, funded, own, after⟩ :=
      executeOverride_register stepped
    have requests : executed.overrides = s.overrides := congrArg Register.overrides after
    show RegisterStep _ _ _ _
      { executed.register with
        overrides := executed.overrides.remove (computeClaimId host wallet txHash) }
    rw [requests, after]
    exact @RegisterStep.overrideExecuted D _ host s.register env caller wallet txHash entitlement
      tier _ record snapshot output approval ready unfinished stored funded own
  · have outcome := (if_neg ready).symm.trans outcome
    obtain rfl := Except.ok.inj outcome
    exact .overridePending approval (Bool.eq_false_iff.mpr ready)

/-! ### Every step -/

omit [DecidableEq D] in
/-- Deploying principal writes nothing to the register. -/
theorem depositAndBook_register {vault : Address} {amount minSharesOut gained : Int}
    (stepped : depositAndBook host env s vault amount minSharesOut = .ok (gained, s')) :
    s'.register = s.register := by
  simp [depositAndBook] at stepped
  obtain ⟨-, -, -, -, -, -, rfl⟩ := stepped
  rfl

omit [DecidableEq D] in
/-- Redeeming principal writes nothing to the register. -/
theorem redeem_register {vault : Address} {shares minXlmOut : Int} {redemption : Redemption D}
    (stepped : redeem host env s vault shares minXlmOut = .ok redemption) :
    redemption.state.register = s.register := by
  simp only [redeem, bind_eq_ok, i128_eq_ok, vaultWithdraw_eq_ok, Except.ok.injEq] at stepped
  obtain ⟨_, -, _, -, _, -, _, -, _, ⟨-, -, rfl⟩, _, -, _, -, _, -, _, -, _, -, rfl⟩ := stepped
  rfl

omit [DecidableEq D] in
theorem sendYield_register {treasury : Address} {yieldAmount : Int}
    (sent : sendYield host env s treasury yieldAmount = .ok s') : s'.register = s.register := by
  rcases sendYield_ok sent with ⟨-, -, rfl⟩ | ⟨-, rfl⟩
  · rfl
  · rfl

/-- The calls that move or configure funds write nothing to the register. -/
theorem dispatch_register {call : Call D} (fundsOnly : call.movesFunds = true)
    (stepped : dispatch host env s call = .ok (output, s')) : s'.register = s.register := by
  cases call with
  | setPoolCap | setDeployBps =>
      simp [dispatch, setPoolCap, setDeployBps] at stepped
      obtain ⟨⟨-, -, -, rfl⟩, -⟩ := stepped
      rfl
  | setVault =>
      simp [dispatch, setVault] at stepped
      obtain ⟨⟨-, -, rfl⟩, -⟩ := stepped
      rfl
  | setTreasury =>
      simp [dispatch, setTreasury] at stepped
      obtain ⟨⟨-, rfl⟩, -⟩ := stepped
      rfl
  | deployToVault =>
      obtain ⟨gained, stepped, -⟩ := returning_eq_ok.mp stepped
      simp only [deployToVault, bind_eq_ok] at stepped
      obtain ⟨-, -, -, -, -, -, vault, -, -, -, -, -, -, -, -, -, -, -, stepped⟩ := stepped
      exact depositAndBook_register stepped
  | autoDeployLiquidity =>
      obtain ⟨gained, stepped, -⟩ := returning_eq_ok.mp stepped
      simp only [autoDeployLiquidity, bind_eq_ok] at stepped
      obtain ⟨-, -, -, -, amount, -, outcome⟩ := stepped
      rcases ite_eq_ok.mp outcome with ⟨-, outcome⟩ | ⟨-, outcome⟩
      · simp only [Except.ok.injEq, Prod.mk.injEq] at outcome
        rw [outcome.2]
      · simp only [bind_eq_ok] at outcome
        obtain ⟨vault, -, _, -, _, -, _, -, stepped⟩ := outcome
        exact depositAndBook_register stepped
  | provideLiquidity =>
      obtain ⟨received, stepped, -⟩ := returning_eq_ok.mp stepped
      simp only [provideLiquidity, bind_eq_ok, Except.ok.injEq, Prod.mk.injEq] at stepped
      obtain ⟨-, -, vault, -, redemption, redeemed, -, rfl⟩ := stepped
      exact redeem_register redeemed
  | ensureLiquidity =>
      obtain ⟨received, stepped, -⟩ := returning_eq_ok.mp stepped
      simp only [ensureLiquidity, bind_eq_ok] at stepped
      obtain ⟨shortfall, -, outcome⟩ := stepped
      rcases ite_eq_ok.mp outcome with ⟨-, outcome⟩ | ⟨-, outcome⟩
      · simp only [Except.ok.injEq, Prod.mk.injEq] at outcome
        rw [outcome.2]
      · simp only [bind_eq_ok, Except.ok.injEq, Prod.mk.injEq] at outcome
        obtain ⟨_, -, shares, -, _, -, _, -, vault, -, redemption, redeemed, -, rfl⟩ := outcome
        exact redeem_register redeemed
  | extractYield =>
      obtain ⟨sent, stepped, -⟩ := returning_eq_ok.mp stepped
      simp only [extractYield, bind_eq_ok, Except.ok.injEq, Prod.mk.injEq] at stepped
      obtain ⟨_, -, vault, -, treasury, -, redemption, redeemed, _, -, after, sent, -, rfl⟩ :=
        stepped
      rw [sendYield_register sent, redeem_register redeemed]
  | withdrawYield =>
      obtain ⟨stepped, -⟩ := returningUnit_eq_ok.mp stepped
      obtain ⟨_, _, drawn⟩ := withdrawYield_ok stepped
      rw [drawn.state]
      rfl
  | _ => cases fundsOnly

theorem dispatch_registers {call : Call D}
    (stepped : dispatch host env s call = .ok (output, s')) :
    RegisterStep host (.invoke env call) output s.register s'.register := by
  cases call with
  | stake => exact stake_registers (returningUnit_eq_ok.mp stepped).1
  | withdraw => exact withdraw_registers (returningUnit_eq_ok.mp stepped).1
  | setBeneficiary => exact setBeneficiary_registers (returningUnit_eq_ok.mp stepped).1
  | emergencyExit => exact emergencyExit_registers (returningUnit_eq_ok.mp stepped).1
  | suspendStake => exact suspendStake_registers (returningUnit_eq_ok.mp stepped).1
  | unsuspendStake => exact unsuspendStake_registers (returningUnit_eq_ok.mp stepped).1
  | submitClaim =>
      obtain ⟨claimId, stepped, -⟩ := returning_eq_ok.mp stepped
      exact submitClaim_registers stepped
  | tryReleaseQueuedClaim =>
      exact tryReleaseQueuedClaim_registers (returningUnit_eq_ok.mp stepped).1
  | expireQueuedClaim => exact expireQueuedClaim_registers (returningUnit_eq_ok.mp stepped).1
  | unlockPendingClaim => exact unlockPendingClaim_registers (returningUnit_eq_ok.mp stepped).1
  | approveClaim => exact approveClaim_registers (returningUnit_eq_ok.mp stepped).1
  | expirePendingApproval =>
      exact expirePendingApproval_registers (returningUnit_eq_ok.mp stepped).1
  | expireStaleClaim => exact expireStaleClaim_registers (returningUnit_eq_ok.mp stepped).1
  | claimStream =>
      obtain ⟨paid, inner, rfl⟩ := returning_eq_ok.mp stepped
      exact claimStream_registers inner
  | cancelClaim => exact cancelClaim_registers (returningUnit_eq_ok.mp stepped).1
  | approveOverride => exact approveOverride_registers (returningUnit_eq_ok.mp stepped).1
  | cancelPendingOverride =>
      simp [dispatch, cancelPendingOverride] at stepped
      obtain ⟨⟨role, -, ⟨req, pending⟩, rfl⟩, -⟩ := stepped
      exact .overrideCancelled role (Option.isSome_of_eq_some pending)
  | revokeApproval =>
      simp only [dispatch, returningUnit_eq_ok, revokeApproval, bind_eq_ok, rejectIf_eq_ok,
        Except.ok.injEq] at stepped
      obtain ⟨⟨_, role, _, -, _, inTime, rfl⟩, -⟩ := stepped
      exact .revoked (not_not.mp role) (requireOpenDeadline_ok inTime)
  | setOracle =>
      simp [dispatch, setOracle] at stepped
      obtain ⟨⟨-, distinct, rfl⟩, -⟩ := stepped
      exact .oracleSet distinct
  | setOraclePubkey =>
      simp [dispatch, setOraclePubkey] at stepped
      obtain ⟨⟨-, rfl⟩, -⟩ := stepped
      exact .pubkeySet
  | setOracleIdentity =>
      simp [dispatch, setOracleIdentity] at stepped
      obtain ⟨⟨-, distinct, rfl⟩, -⟩ := stepped
      exact .identitySet distinct
  | setCoSigner =>
      simp [dispatch, setCoSigner] at stepped
      obtain ⟨⟨-, notOracle, notAdmin, rfl⟩, -⟩ := stepped
      exact .coSignerSet notOracle notAdmin
  | transferAdmin =>
      simp [dispatch, transferAdmin] at stepped
      obtain ⟨⟨-, distinct, rfl⟩, -⟩ := stepped
      exact .adminTransferred distinct
  | pause =>
      simp [dispatch, setPaused] at stepped
      obtain ⟨⟨-, rfl⟩, -⟩ := stepped
      exact .paused
  | unpause =>
      simp [dispatch, setPaused] at stepped
      obtain ⟨⟨-, rfl⟩, -⟩ := stepped
      exact .unpaused
  | setPoolCap | setVault | setTreasury | setDeployBps | deployToVault | autoDeployLiquidity
  | provideLiquidity | ensureLiquidity | extractYield | withdrawYield =>
      rw [dispatch_register rfl stepped]
      exact .funds rfl

/-- Every step of the deployed contract writes to the register what is filed
under its action. -/
theorem step_registers {action : Action D}
    (stepped : poolStep host s action = .ok (output, s')) :
    RegisterStep host action output s.register s'.register := by
  cases action with
  | invoke env call => exact dispatch_registers stepped
  | closeLedger sequence timestamp =>
      obtain ⟨⟨sequenceAdvances, sequenceFits⟩, ⟨timestampAdvances, timestampFits⟩, rfl⟩ :=
        closeLedger_eq_ok.mp (returningUnit_eq_ok.mp stepped).1
      exact .clock sequenceAdvances timestampAdvances sequenceFits timestampFits
  | moveXlm holder balance =>
      obtain ⟨-, -, rfl⟩ := moveXlm_eq_ok.mp (returningUnit_eq_ok.mp stepped).1
      exact .funds rfl
  | moveShares vault balance =>
      obtain rfl := moveShares_eq_ok.mp (returningUnit_eq_ok.mp stepped).1
      exact .funds rfl

/-! ### The register of a new pool -/

/-- The register a constructor leaves behind. -/
structure Register.New (r : Register D) : Prop where
  distinct : r.coSigner ≠ r.admin ∧ r.oracle ≠ r.coSigner
  running : r.paused = false
  noOutflow : r.dailyOutflow = 0 ∧ r.lastOutflowDay = 0
  noAdmissions :
    r.dailyEntitlementTotal = 0 ∧ r.lastEntitlementDay = 0 ∧ r.dailyClaimCount = 0
  noStakes : r.stakes = Store.empty
  noClaims : r.claims = Store.empty
  noOverrides : r.overrides = Store.empty
  noPoints : r.pointsBalances = Store.empty
  noRevocations : r.revoked = Store.empty
  clock : r.sequence < 2 ^ 32 ∧ r.timestamp < 2 ^ 64

omit [DecidableEq D] in
theorem deployed_register (deployed : Deployed host s) : s.register.New := by
  obtain ⟨env, _, _, xlm, _, _, _, _, _, _, _, sequenceFits, timestampFits, -, built⟩ := deployed
  simp [initializePool] at built
  obtain ⟨notOracle, notAdmin, -, -, rfl⟩ := built
  exact ⟨⟨notAdmin, notOracle⟩, rfl, ⟨rfl, rfl⟩, ⟨rfl, rfl, rfl⟩, rfl, rfl, rfl, rfl, rfl,
    sequenceFits, timestampFits⟩

end ProtectionPool
