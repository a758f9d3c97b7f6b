/-
Module: ProtectionPool.Books.Refinement
Purpose: Every successful step of the deployed contract makes one entry in the
  books, and the caller, the arguments and the state before the step tell which.
Trusted boundary: none
Main exports: State.books, bookEvent, step_refines
-/
import ProtectionPool.Books.StakeCalls

namespace ProtectionPool

open Checked

variable {D : Type}

/-- The books of a state. -/
def State.books (host : Host D) (s : State D) : Books D where
  stakes := s.stakes
  claims := s.claims
  totalStaked := s.totalStaked
  totalAllocated := s.totalAllocated
  totalStakers := s.totalStakers
  liquid := liquidBalance host s
  funds := liquidBalance host s + s.totalDeployedXlm
  sequence := s.sequence
  timestamp := s.timestamp

/-! ### The entry a step makes -/

variable [DecidableEq D]

/-- The entry of an operation on a stored claim, which names the claim's
wallet. -/
def claimEvent (s : State D) (claimId : D) (entry : Address → D → BookEvent D) : BookEvent D :=
  match s.claims.get claimId with
  | some claim => entry claim.wallet claimId
  | none => .other

/-- The entry of a payout. -/
def streamEvent (host : Host D) (s : State D) (claimId : D) (beneficiary : Address) :
    BookEvent D :=
  match s.claims.get claimId with
  | some claim =>
      match transferAmount s claim with
      | .ok amount => .streamed claim.wallet claimId amount (beneficiary ≠ host.contract)
      | .error _ => .other
  | none => .other

/-- The override request as the caller's approval leaves it. -/
def overrideRequest (host : Host D) (s : State D) (caller wallet : Address) (txHash : BytesN 32)
    (entitlement : Int) (tier : Nat) : OverrideRequest :=
  recordApproval s caller
    (pendingRequest s (computeClaimId host wallet txHash) wallet txHash entitlement tier)

/-- The entry of an override approval: none until both approvals are there. -/
def overrideEvent (host : Host D) (s : State D) (caller wallet : Address) (txHash : BytesN 32)
    (entitlement : Int) (tier : Nat) : BookEvent D :=
  let req := overrideRequest host s caller wallet txHash entitlement tier
  if overrideReady s req = true then
    .overridden req.wallet (computeClaimId host wallet txHash) req.entitlement
  else .other

/-- What a redemption of shares loses when the vault pays less than the
principal they stand for. -/
def redemptionLoss (env : Env) (s : State D) (shares : Int) : Int :=
  max (principalOf s shares - env.vault.paid) 0

/-- The entry of a permissionless rebalancing. -/
def rebalanceEvent (host : Host D) (env : Env) (s : State D) : BookEvent D :=
  match rebalanceShortfall host s with
  | .ok shortfall =>
      if shortfall = 0 then .other
      else
        match sharesNeeded s shortfall with
        | .ok shares => .redeemed (redemptionLoss env s shares)
        | .error _ => .other
  | .error _ => .other

/-- The entry of a permissionless deployment. -/
def autoDeployEvent (host : Host D) (env : Env) (s : State D) : BookEvent D :=
  match idleDeployable host s with
  | .ok amount => if amount = 0 then .other else .deployed amount env.vault.pulled
  | .error _ => .other

/-- The entry a step makes in the books. -/
def bookEvent (host : Host D) (s : State D) : Action D → BookEvent D
  | .invoke env call =>
      match call with
      | .stake staker _ _ => .staked staker
      | .withdraw staker _ => .exited staker
      | .emergencyExit staker => .exited staker
      | .submitClaim _ wallet txHash _ _ _ _ _ =>
          .submitted wallet (computeClaimId host wallet txHash)
      | .tryReleaseQueuedClaim claimId => claimEvent s claimId .released
      | .expireQueuedClaim claimId => claimEvent s claimId .queueExpired
      | .unlockPendingClaim claimId => claimEvent s claimId .unlocked
      | .approveClaim claimId => claimEvent s claimId .approved
      | .expirePendingApproval claimId => claimEvent s claimId .approvalExpired
      | .expireStaleClaim claimId => claimEvent s claimId .staleExpired
      | .claimStream claimId beneficiary => streamEvent host s claimId beneficiary
      | .cancelClaim claimId => claimEvent s claimId .cancelled
      | .approveOverride caller wallet txHash entitlement tier =>
          overrideEvent host s caller wallet txHash entitlement tier
      | .deployToVault amount _ => .deployed amount env.vault.pulled
      | .autoDeployLiquidity => autoDeployEvent host env s
      | .provideLiquidity shares _ => .redeemed (redemptionLoss env s shares)
      | .ensureLiquidity => rebalanceEvent host env s
      | .extractYield shares _ => .redeemed (redemptionLoss env s shares)
      | _ => .other
  | _ => .other

/-- The calls an entry is made by. -/
def BookEvent.enteredBy (call : Call D) : BookEvent D → Bool
  | .staked _ => match call with | .stake _ _ _ => true | _ => false
  | .exited _ => match call with | .withdraw _ _ | .emergencyExit _ => true | _ => false
  | .submitted _ _ => match call with | .submitClaim _ _ _ _ _ _ _ _ => true | _ => false
  | .released _ _ => match call with | .tryReleaseQueuedClaim _ => true | _ => false
  | .queueExpired _ _ => match call with | .expireQueuedClaim _ => true | _ => false
  | .unlocked _ _ => match call with | .unlockPendingClaim _ => true | _ => false
  | .approved _ _ => match call with | .approveClaim _ => true | _ => false
  | .approvalExpired _ _ => match call with | .expirePendingApproval _ => true | _ => false
  | .staleExpired _ _ => match call with | .expireStaleClaim _ => true | _ => false
  | .streamed _ _ _ _ => match call with | .claimStream _ _ => true | _ => false
  | .cancelled _ _ => match call with | .cancelClaim _ => true | _ => false
  | .overridden _ _ _ => match call with | .approveOverride _ _ _ _ _ => true | _ => false
  | .redeemed _ =>
      match call with
      | .provideLiquidity _ _ | .ensureLiquidity | .extractYield _ _ => true
      | _ => false
  | .deployed _ _ =>
      match call with
      | .deployToVault _ _ | .autoDeployLiquidity => true
      | _ => false
  | .other => false

/-- An entry is made by one of its calls. -/
theorem bookEvent_enteredBy (host : Host D) (s : State D) (action : Action D) :
    bookEvent host s action = .other ∨ ∃ env call, action = .invoke env call ∧
      (bookEvent host s action).enteredBy call = true := by
  cases action with
  | invoke env call =>
      cases call with
      | stake | withdraw | emergencyExit | submitClaim | deployToVault | provideLiquidity
      | extractYield =>
          exact .inr ⟨env, _, rfl, rfl⟩
      | tryReleaseQueuedClaim | expireQueuedClaim | unlockPendingClaim | approveClaim
      | expirePendingApproval | expireStaleClaim | cancelClaim =>
          simp only [bookEvent, claimEvent]
          split
          · exact .inr ⟨env, _, rfl, rfl⟩
          · exact .inl rfl
      | claimStream =>
          simp only [bookEvent, streamEvent]
          split
          · split
            · exact .inr ⟨env, _, rfl, rfl⟩
            · exact .inl rfl
          · exact .inl rfl
      | approveOverride =>
          simp only [bookEvent, overrideEvent]
          split
          · exact .inr ⟨env, _, rfl, rfl⟩
          · exact .inl rfl
      | autoDeployLiquidity =>
          simp only [bookEvent, autoDeployEvent]
          split
          · split
            · exact .inl rfl
            · exact .inr ⟨env, _, rfl, rfl⟩
          · exact .inl rfl
      | ensureLiquidity =>
          simp only [bookEvent, rebalanceEvent]
          split
          · split
            · exact .inl rfl
            · split
              · exact .inr ⟨env, _, rfl, rfl⟩
              · exact .inl rfl
          · exact .inl rfl
      | _ => exact .inl rfl
  | _ => exact .inl rfl

variable {host : Host D} {env : Env} {s s' : State D}

theorem claimEvent_of_get {claimId : D} {claim : Claim} {entry : Address → D → BookEvent D}
    (listed : s.claims.get claimId = some claim) :
    claimEvent s claimId entry = entry claim.wallet claimId := by
  simp only [claimEvent, listed]

/-! ### Deposits -/

theorem stake_refines {staker beneficiary : Address} {amount : Int}
    (stepped : stake host env s staker amount beneficiary = .ok s') :
    BookStep (computeClaimId host) (.staked staker) (s.books host) (s'.books host) := by
  have staked := stake_eq_ok.mp stepped
  rw [staked.state]
  refine .staked staked.positive staked.vacant ?_
  simp only [State.books, State.afterStake, liquidBalance, moved_payee (Ne.symm staked.signed.2),
    true_and]
  omega

omit [DecidableEq D] in
/-- The XLM an exit leaves behind: the pool may be its own beneficiary. -/
private theorem funds_after_payment {payee : Address} {amount deployed : Int} :
    (moved s.xlm host.contract payee amount host.contract = liquidBalance host s - amount ∧
        moved s.xlm host.contract payee amount host.contract + deployed =
          liquidBalance host s + deployed - amount) ∨
      (moved s.xlm host.contract payee amount host.contract = liquidBalance host s ∧
        moved s.xlm host.contract payee amount host.contract + deployed =
          liquidBalance host s + deployed) := by
  rw [moved_payer, liquidBalance]
  split_ifs
  · right
    exact ⟨rfl, rfl⟩
  · left
    exact ⟨rfl, by omega⟩

theorem withdraw_refines {staker beneficiary : Address}
    (stepped : withdraw host env s staker beneficiary = .ok s') :
    BookStep (computeClaimId host) (.exited staker) (s.books host) (s'.books host) := by
  obtain ⟨record, points, balances, withdrawn⟩ := withdraw_eq_ok.mp stepped
  rw [withdrawn.state]
  exact .exited withdrawn.stored withdrawn.funded withdrawn.standing withdrawn.inactive
    withdrawn.covered funds_after_payment

theorem emergencyExit_refines {staker : Address}
    (stepped : emergencyExit host env s staker = .ok s') :
    BookStep (computeClaimId host) (.exited staker) (s.books host) (s'.books host) := by
  obtain ⟨record, exited⟩ := emergencyExit_eq_ok.mp stepped
  rw [exited.state]
  exact .exited exited.stored exited.funded exited.standing exited.inactive exited.covered
    funds_after_payment

theorem setBeneficiary_refines {staker newBeneficiary : Address}
    (stepped : setBeneficiary host env s staker newBeneficiary = .ok s') :
    BookStep (computeClaimId host) .other (s.books host) (s'.books host) := by
  simp [setBeneficiary] at stepped
  obtain ⟨-, -, -, -, -, -, record, stored, -, -, rfl⟩ := stepped
  exact .amended stored

/-! ### Admission -/

omit [DecidableEq D] in
theorem admissionStatus_ok {record : StakeRecord D} {status : ClaimStatus} {deadline : Nat}
    (decided : admissionStatus s record = .ok (status, deadline)) :
    (s.books host).Admission record status := by
  by_cases gate : gateMet s record = true
  · simp [admissionStatus, gate] at decided
    exact .inl ⟨decided.2.symm, of_decide_eq_true gate⟩
  · simp [admissionStatus, gate] at decided
    exact .inr ⟨decided.1.symm, not_le.mp fun old => gate (decide_eq_true old)⟩

/-- What a successful admission leaves in the books. -/
theorem admitClaim_books (host : Host D) {wallet : Address} {txHash : BytesN 32} {claimId : D}
    {entitlement : Int} {tier hackTimestamp : Nat} {record : StakeRecord D} {counted : Bool}
    (stepped : admitClaim s wallet txHash claimId entitlement tier hackTimestamp record counted =
      .ok s') :
    ∃ status deadline, InI128 (s.totalAllocated + entitlement) ∧
      (s.books host).Admission record status ∧
      s'.books host = (s.books host).enterClaim wallet claimId record
        (freshClaim wallet txHash hackTimestamp entitlement record.amount tier status
          deadline) := by
  simp [admitClaim] at stepped
  obtain ⟨-, -, fits, status, deadline, decided, rfl⟩ := stepped
  exact ⟨status, deadline, fits, admissionStatus_ok decided, rfl⟩

omit [DecidableEq D] in
theorem requireEligibleStake_ok (host : Host D) {record : StakeRecord D} {entitlement : Int}
    {tier hackTimestamp : Nat} {u : Unit} (positive : 0 < entitlement)
    (checked : requireEligibleStake s record entitlement tier hackTimestamp = .ok u) :
    (s.books host).Eligible record entitlement tier hackTimestamp := by
  simp [requireEligibleStake] at checked
  obtain ⟨funded, standing, unsuspended, inactive, unqueued, cap, capped, covered, past,
    afterStake, windowFits, inWindow⟩ := checked
  exact ⟨positive, funded, standing, unsuspended, inactive, unqueued, ⟨cap, capped, covered⟩,
    past, afterStake, windowFits, inWindow⟩

theorem submitClaim_refines {caller wallet : Address} {txHash : BytesN 32} {entitlement : Int}
    {tier hackTimestamp deadline : Nat} {signature : BytesN 64} {claimId : D}
    (stepped : submitClaim host env s caller wallet txHash entitlement tier hackTimestamp deadline
      signature = .ok (claimId, s')) :
    BookStep (computeClaimId host) (.submitted wallet (computeClaimId host wallet txHash))
      (s.books host) (s'.books host) := by
  simp only [submitClaim, bind_eq_ok, rejectIf_eq_ok, okOr_eq_ok, i128_eq_ok] at stepped
  obtain ⟨-, -, -, -, -, -, -, positive, -, -, -, -, record, stored, _, checked, _, ⟨-, rfl⟩,
    _, ⟨-, rfl⟩, stress, -, -, fresh, outcome⟩ := stepped
  have eligible := requireEligibleStake_ok host (not_le.mp positive) checked
  have unused : ∀ claim, (s.books host).claims.get (computeClaimId host wallet txHash) =
      some claim → claim.status = .unused := by
    intro claim listed
    have passed := option_any_eq_false.mp (Bool.eq_false_iff.mpr fresh) claim listed
    exact not_not.mp (of_decide_eq_false passed)
  split at outcome
  · simp only [Except.ok.injEq, Prod.mk.injEq] at outcome
    obtain ⟨-, rfl⟩ := outcome
    exact .queued rfl stored eligible unused
  · rename_i unsettled
    simp only [bind_eq_ok, Except.ok.injEq, Prod.mk.injEq] at outcome
    obtain ⟨admitted, stepped, -, rfl⟩ := outcome
    obtain ⟨status, deadline, fits, admission, after⟩ := admitClaim_books host stepped
    rw [after]
    refine .admitted rfl stored eligible unused fits ?_ admission
    exact not_lt.mp fun insolvent => unsettled (.inl insolvent)

theorem tryReleaseQueuedClaim_refines {claimId : D}
    (stepped : tryReleaseQueuedClaim s claimId = .ok s') :
    BookStep (computeClaimId host) (claimEvent s claimId .released) (s.books host)
      (s'.books host) := by
  simp [tryReleaseQueuedClaim] at stepped
  obtain ⟨-, claim, listed, reserved, record, stored, own, -, solvent, -, -, -, -, stepped⟩ :=
    stepped
  obtain ⟨status, deadline, fits, admission, after⟩ := admitClaim_books host stepped
  rw [claimEvent_of_get listed, after]
  refine .released listed reserved stored ?_ fits solvent admission
  cases held : record.activeClaimId with
  | none => exact .inl rfl
  | some activeId => simpa [held] using own

theorem expireQueuedClaim_refines {claimId : D}
    (stepped : expireQueuedClaim s claimId = .ok s') :
    BookStep (computeClaimId host) (claimEvent s claimId .queueExpired) (s.books host)
      (s'.books host) := by
  simp [expireQueuedClaim] at stepped
  obtain ⟨-, claim, listed, reserved, -, -, record, stored, rfl⟩ := stepped
  rw [claimEvent_of_get listed]
  exact .queueExpired listed reserved stored

/-! ### Approval and expiry -/

theorem unlockPendingClaim_refines {claimId : D}
    (stepped : unlockPendingClaim s claimId = .ok s') :
    BookStep (computeClaimId host) (claimEvent s claimId .unlocked) (s.books host)
      (s'.books host) := by
  simp [unlockPendingClaim] at stepped
  obtain ⟨-, claim, listed, pending, record, stored, -, gate, -, rfl⟩ := stepped
  rw [claimEvent_of_get listed]
  exact .unlocked listed pending stored gate

theorem approveClaim_refines {claimId : D}
    (stepped : approveClaim host env s claimId = .ok s') :
    BookStep (computeClaimId host) (claimEvent s claimId .approved) (s.books host)
      (s'.books host) := by
  simp [approveClaim, activateClaim] at stepped
  obtain ⟨-, claim, listed, -, awaiting, -, record, stored, unsuspended, -, -, -, -, -, -, rfl⟩ :=
    stepped
  rw [claimEvent_of_get listed]
  exact .approved listed awaiting stored unsuspended

theorem expirePendingApproval_refines {claimId : D}
    (stepped : expirePendingApproval s claimId = .ok s') :
    BookStep (computeClaimId host) (claimEvent s claimId .approvalExpired) (s.books host)
      (s'.books host) := by
  simp [expirePendingApproval] at stepped
  obtain ⟨claim, listed, awaiting, record, stored, -, -, rfl⟩ := stepped
  rw [claimEvent_of_get listed]
  exact .approvalExpired listed awaiting stored

theorem expireStaleClaim_refines {claimId : D}
    (stepped : expireStaleClaim s claimId = .ok s') :
    BookStep (computeClaimId host) (claimEvent s claimId .staleExpired) (s.books host)
      (s'.books host) := by
  simp [expireStaleClaim] at stepped
  obtain ⟨claim, listed, active, unpaid, record, stored, -, -, -, rfl⟩ := stepped
  rw [claimEvent_of_get listed]
  exact .staleExpired listed active unpaid stored

/-! ### Payout -/

omit [DecidableEq D] in
theorem vestedTotal_le {claim : Claim} {vested : Int} (nonneg : 0 ≤ claim.entitlement)
    (schedule : claim.vestingEndsLedger = claim.cooldownEndsLedger + vestingLedgers)
    (computed : vestedTotal s claim = .ok vested) : vested ≤ claim.entitlement := by
  simp [vestedTotal] at computed
  obtain ⟨-, rfl⟩ := computed
  have elapsed : min s.sequence claim.vestingEndsLedger - claim.cooldownEndsLedger ≤
      vestingLedgers := by omega
  have product : claim.entitlement *
      ((min s.sequence claim.vestingEndsLedger - claim.cooldownEndsLedger : Nat) : Int) ≤
      claim.entitlement * vestingLedgers :=
    Int.mul_le_mul_of_nonneg_left (by exact_mod_cast elapsed) nonneg
  calc _ ≤ (claim.entitlement * (vestingLedgers : Int)).tdiv vestingLedgers :=
        Int.tdiv_le_tdiv (by decide) product
    _ = claim.entitlement := Int.mul_tdiv_cancel _ (by decide)

omit [DecidableEq D] in
theorem transferAmount_ok {claim : Claim} {amount : Int}
    (computed : transferAmount s claim = .ok amount) :
    0 < amount ∧ ∃ vested, vestedTotal s claim = .ok vested ∧
      claim.streamed + amount ≤ vested := by
  simp [transferAmount] at computed
  obtain ⟨vested, vestedNow, -, due, cap, -, ⟨-, available⟩, rfl⟩ := computed
  refine ⟨lt_min (sub_pos.mpr due) available, vested, vestedNow, ?_⟩
  have atMost := min_le_left (vested - claim.streamed)
    (saturatingSub cap (getDailyOutflow s (currentDay s)))
  omega

theorem claimStream_refines {claimId : D} {beneficiary : Address} {paid : Int}
    (stepped : claimStream host env s claimId beneficiary = .ok (paid, s')) :
    BookStep (computeClaimId host) (streamEvent host s claimId beneficiary) (s.books host)
      (s'.books host) := by
  obtain ⟨claim, record, streamed⟩ := claimStream_eq_ok.mp stepped
  obtain ⟨positive, vested, vestedNow, within⟩ := transferAmount_ok streamed.computed
  rw [streamed.state]
  simp only [streamEvent, streamed.listed, streamed.computed]
  refine .streamed streamed.listed streamed.active streamed.unpaid positive ?_ streamed.covered ?_
  · intro nonneg schedule
    exact within.trans (vestedTotal_le nonneg schedule vestedNow)
  · by_cases own : beneficiary = host.contract
    · simp [State.books, State.afterStream, liquidBalance, moved_payer, own]
    · simp only [State.books, State.afterStream, liquidBalance, moved_payer, own, ne_eq,
        not_false_eq_true, decide_true, if_true, if_false, true_and]
      omega

/-! ### Reversal -/

theorem cancelClaim_refines {claimId : D}
    (stepped : cancelClaim host env s claimId = .ok s') :
    BookStep (computeClaimId host) (claimEvent s claimId .cancelled) (s.books host)
      (s'.books host) := by
  simp [cancelClaim] at stepped
  obtain ⟨-, claim, listed, cancellable, -, record, stored, record', rest, restored, rfl⟩ := stepped
  rw [claimEvent_of_get listed]
  by_cases active : claim.status = .active
  · simp [restoreStake, active] at restored
    obtain ⟨-, fits, -, rfl, rfl⟩ := restored
    exact @BookStep.reversed D _ _ (s.books host) claimId claim record _ listed active stored fits
  · simp [restoreStake, active] at restored
    obtain ⟨rfl, rfl⟩ := restored
    refine .droppedPending listed ?_ stored
    by_cases pending : claim.status = .pendingTime
    · simp [ClaimStatus.isPending, pending]
    · simp [ClaimStatus.isPending, cancellable active pending]

/-! ### Overrides -/

omit [DecidableEq D] in
theorem releasedAllocation_ok (host : Host D) {existing : Option Claim} {released : Int}
    (computed : releasedAllocation s existing = .ok released) :
    released = (s.books host).afterRelease existing := by
  cases existing with
  | none => simpa [releasedAllocation, Books.afterRelease, State.books, eq_comm] using computed
  | some claim =>
      by_cases live : claim.status.isLive = true
      · simp [releasedAllocation, live] at computed
        simp [Books.afterRelease, live, ← computed.2, State.books]
      · simp [releasedAllocation, live] at computed
        simp [Books.afterRelease, live, ← computed, State.books]

omit [DecidableEq D] in
theorem effectiveTotalStaked_ok {record : StakeRecord D} {effective : Int}
    (computed : effectiveTotalStaked s record = .ok effective) :
    effective = if record.withdrawn then s.totalStaked + record.amount else s.totalStaked := by
  by_cases withdrawn : record.withdrawn = true
  · simp [effectiveTotalStaked, withdrawn] at computed
    simp [withdrawn, computed]
  · simp [effectiveTotalStaked, withdrawn] at computed
    simp [withdrawn, computed]

/-- Either way of putting an override into effect forfeits the deposit exactly
once and starts the clocks over. -/
theorem overrideActivation_ok (host : Host D) {record : StakeRecord D} {claim : Claim}
    {activation : Activation D} (stake : claim.stake = record.amount)
    (active : claim.status = .active)
    (activated : overrideActivation s record claim = .ok activation) :
    activation.record = { record with withdrawn := true } ∧
      activation.claim =
        claim.activated record.amount s.totalStaked (s.sequence + cooldownLedgers) ∧
      activation.state.books host =
        { s.books host with
          totalStaked :=
            if record.withdrawn then s.totalStaked else s.totalStaked - record.amount
          totalStakers :=
            if record.withdrawn then s.totalStakers else s.totalStakers - 1 } := by
  by_cases withdrawn : record.withdrawn = true
  · simp [overrideActivation, withdrawn, reexecuteClaim] at activated
    obtain ⟨-, -, rfl⟩ := activated
    refine ⟨?_, ?_, ?_⟩
    · rw [← withdrawn]
    · simp [Claim.activated, ← stake, ← active]
    · simp [State.books, withdrawn]
  · simp [overrideActivation, withdrawn, activateClaim] at activated
    obtain ⟨-, -, -, -, -, -, rfl⟩ := activated
    refine ⟨rfl, rfl, ?_⟩
    simp [State.books, withdrawn, liquidBalance]

theorem executeOverride_refines (host : Host D) {claimId : D} {req : OverrideRequest}
    (positive : 0 < req.entitlement) (stepped : executeOverride s claimId req = .ok s') :
    BookStep (computeClaimId host) (.overridden req.wallet claimId req.entitlement) (s.books host)
      (s'.books host) := by
  simp only [executeOverride, bind_eq_ok, rejectIf_eq_ok, okOr_eq_ok, i128_eq_ok,
    Except.ok.injEq] at stepped
  obtain ⟨_, unfinished, _, releases, record, stored, _, foreign, _, funded, cap, capped, _,
    covered, _, counts, _, ⟨fits, rfl⟩, _, solvent, activation, activated, rfl⟩ := stepped
  obtain rfl := releasedAllocation_ok host releases
  obtain rfl := effectiveTotalStaked_ok counts
  obtain ⟨record', claim', state'⟩ := overrideActivation_ok host rfl rfl activated
  have unsettled : ∀ claim, s.claims.get claimId = some claim → claim.status ≠ .completed := by
    intro claim listed completed
    exact unfinished (by simp [listed, completed])
  have own : record.activeClaimId = none ∨ record.activeClaimId = some claimId := by
    cases held : record.activeClaimId with
    | none => exact .inl rfl
    | some activeId => simpa [held] using foreign
  show BookStep _ _ _
    { activation.state.books host with
      stakes := s.stakes.set req.wallet
        { activation.record with
          activeClaimId := some claimId
          reservedClaimId :=
            if activation.record.reservedClaimId = some claimId then none
            else activation.record.reservedClaimId }
      claims := s.claims.set claimId activation.claim }
  rw [record', claim', state']
  exact @BookStep.overridden D _ _ (s.books host) claimId req record cap unsettled stored
    own (not_le.mp funded) positive capped (not_lt.mp covered) fits (not_lt.mp solvent)

theorem approveOverride_refines {caller wallet : Address} {txHash : BytesN 32}
    {entitlement : Int} {tier : Nat}
    (stepped : approveOverride host env s caller wallet txHash entitlement tier = .ok s') :
    BookStep (computeClaimId host) (overrideEvent host s caller wallet txHash entitlement tier)
      (s.books host) (s'.books host) := by
  simp only [approveOverride, bind_eq_ok, rejectIf_eq_ok] at stepped
  obtain ⟨-, -, -, -, -, -, -, positive, -, -, -, agrees, outcome⟩ := stepped
  have sameEntitlement : (overrideRequest host s caller wallet txHash entitlement tier).entitlement
      = entitlement := by
    by_contra differs
    exact agrees (.inl differs)
  by_cases ready : overrideReady s (overrideRequest host s caller wallet txHash entitlement tier)
      = true
  · have outcome := (if_pos ready).symm.trans outcome
    simp only [bind_eq_ok, Except.ok.injEq] at outcome
    obtain ⟨executed, stepped, rfl⟩ := outcome
    rw [overrideEvent, if_pos ready]
    have entry := executeOverride_refines host (sameEntitlement.symm ▸ not_le.mp positive) stepped
    exact entry
  · have outcome := (if_neg ready).symm.trans outcome
    simp only [Except.ok.injEq] at outcome
    obtain rfl := outcome
    rw [overrideEvent, if_neg ready]
    exact .kept

/-! ### The vault -/

theorem depositAndBook_books {vault : Address} {amount minSharesOut gained : Int}
    (stepped : depositAndBook host env s vault amount minSharesOut = .ok (gained, s')) :
    BookStep (computeClaimId host) (.deployed amount env.vault.pulled) (s.books host)
      (s'.books host) := by
  simp [depositAndBook] at stepped
  obtain ⟨⟨-, -, afforded⟩, -, -, -, -, -, rfl⟩ := stepped
  refine .deployed afforded ?_
  simp only [State.books, liquidBalance, Function.update_self, true_and]
  omega

theorem deployToVault_refines {amount minSharesOut gained : Int}
    (stepped : deployToVault host env s amount minSharesOut = .ok (gained, s')) :
    BookStep (computeClaimId host) (.deployed amount env.vault.pulled) (s.books host)
      (s'.books host) := by
  simp only [deployToVault, bind_eq_ok] at stepped
  obtain ⟨-, -, -, -, -, -, vault, -, -, -, -, -, -, -, -, -, -, -, stepped⟩ := stepped
  exact depositAndBook_books stepped

theorem autoDeployLiquidity_refines {gained : Int}
    (stepped : autoDeployLiquidity host env s = .ok (gained, s')) :
    BookStep (computeClaimId host) (autoDeployEvent host env s) (s.books host)
      (s'.books host) := by
  simp only [autoDeployLiquidity, bind_eq_ok] at stepped
  obtain ⟨-, -, -, -, amount, computed, outcome⟩ := stepped
  rcases ite_eq_ok.mp outcome with ⟨none, outcome⟩ | ⟨some, outcome⟩
  · simp only [Except.ok.injEq, Prod.mk.injEq] at outcome
    simp only [autoDeployEvent, computed, none, if_true, ← outcome.2]
    exact .kept
  · simp only [bind_eq_ok] at outcome
    obtain ⟨vault, -, _, -, _, -, _, -, stepped⟩ := outcome
    simp only [autoDeployEvent, computed, some, if_false]
    exact depositAndBook_books stepped

omit [DecidableEq D] in
/-- What a redemption does to the books, and how much more than its principal
it brought in. -/
theorem redeem_books {vault : Address} {shares minXlmOut : Int} {redemption : Redemption D}
    (stepped : redeem host env s vault shares minXlmOut = .ok redemption) :
    (redemption.principal = principalOf s shares ∧ redemption.received = env.vault.paid) ∧
      (0 ≤ env.vault.paid ∧ i128Min ≤ s.totalDeployedXlm - principalOf s shares) ∧
      redemption.state.books host =
        { s.books host with
          totalStaked :=
            if 0 < redemptionLoss env s shares then
              saturatingSub s.totalStaked (redemptionLoss env s shares)
            else s.totalStaked
          liquid := (s.books host).liquid + env.vault.paid
          funds := (s.books host).funds + (env.vault.paid - principalOf s shares) } := by
  simp only [redeem, bind_eq_ok, i128_eq_ok, vaultWithdraw_eq_ok, Except.ok.injEq] at stepped
  obtain ⟨_, -, _, -, _, -, _, -, paid, ⟨-, nonneg, rfl⟩, _, ⟨-, rfl⟩, _, -, _, ⟨-, rfl⟩, _,
    ⟨fits, rfl⟩, _, ⟨-, rfl⟩, rfl⟩ := stepped
  have received : liquidBalance host
      { s with
        xlm := Function.update s.xlm host.contract (s.xlm host.contract + env.vault.paid)
        vaultShares := Function.update s.vaultShares vault
          (s.vaultShares vault - env.vault.burned) } - liquidBalance host s =
      env.vault.paid := by
    simp [liquidBalance]
  refine ⟨⟨rfl, received⟩, ⟨nonneg, fits.1⟩, ?_⟩
  have booked : liquidBalance host s + env.vault.paid +
      (s.totalDeployedXlm - principalOf s shares) =
      liquidBalance host s + s.totalDeployedXlm + (env.vault.paid - principalOf s shares) := by
    omega
  have lossy : env.vault.paid < principalOf s shares ↔ 0 < redemptionLoss env s shares := by
    simp only [redemptionLoss]
    omega
  simp only [received, State.books, ← booked]
  simp only [liquidBalance, Function.update_self]
  by_cases loss : env.vault.paid < principalOf s shares
  · rw [if_pos loss, if_pos (lossy.mp loss), redemptionLoss]
  · rw [if_neg loss, if_neg fun marked => loss (lossy.mpr marked)]

/-- A redemption whose proceeds beyond the principal may leave the pool. -/
private theorem redeemed_of_kept {shares liquid funds : Int} {after : Books D}
    (booked : after =
      { s.books host with
        totalStaked :=
          if 0 < redemptionLoss env s shares then
            saturatingSub s.totalStaked (redemptionLoss env s shares)
          else s.totalStaked
        liquid := liquid
        funds := funds })
    (kept : (s.books host).funds - redemptionLoss env s shares ≤ funds)
    (afforded : 0 ≤ (s.books host).liquid → 0 ≤ liquid) (fits : i128Min ≤ funds - liquid) :
    BookStep (computeClaimId host) (.redeemed (redemptionLoss env s shares)) (s.books host)
      after := by
  rw [booked]
  exact .redeemed (le_max_right _ _) kept afforded fits

/-- A redemption that keeps its proceeds in the pool. -/
theorem redeem_refines {vault : Address} {shares minXlmOut : Int} {redemption : Redemption D}
    (stepped : redeem host env s vault shares minXlmOut = .ok redemption) :
    BookStep (computeClaimId host) (.redeemed (redemptionLoss env s shares)) (s.books host)
      (redemption.state.books host) := by
  obtain ⟨-, ⟨nonneg, fits⟩, booked⟩ := redeem_books stepped
  apply redeemed_of_kept booked
  · simp only [redemptionLoss]
    omega
  · intro liquid
    exact add_nonneg liquid nonneg
  · simp only [State.books]
    omega

theorem provideLiquidity_refines {shares minXlmOut received : Int}
    (stepped : provideLiquidity host env s shares minXlmOut = .ok (received, s')) :
    BookStep (computeClaimId host) (.redeemed (redemptionLoss env s shares)) (s.books host)
      (s'.books host) := by
  simp only [provideLiquidity, bind_eq_ok, Except.ok.injEq, Prod.mk.injEq] at stepped
  obtain ⟨-, -, vault, -, redemption, redeemed, -, rfl⟩ := stepped
  exact redeem_refines redeemed

theorem ensureLiquidity_refines {received : Int}
    (stepped : ensureLiquidity host env s = .ok (received, s')) :
    BookStep (computeClaimId host) (rebalanceEvent host env s) (s.books host)
      (s'.books host) := by
  simp only [ensureLiquidity, bind_eq_ok] at stepped
  obtain ⟨shortfall, wanted, outcome⟩ := stepped
  rcases ite_eq_ok.mp outcome with ⟨none, outcome⟩ | ⟨some, outcome⟩
  · simp only [Except.ok.injEq, Prod.mk.injEq] at outcome
    simp only [rebalanceEvent, wanted, none, if_true, ← outcome.2]
    exact .kept
  · simp only [bind_eq_ok, Except.ok.injEq, Prod.mk.injEq] at outcome
    obtain ⟨_, -, shares, needed, _, -, _, -, vault, -, redemption, redeemed, -, rfl⟩ := outcome
    simp only [rebalanceEvent, wanted, some, if_false, needed]
    exact redeem_refines redeemed

omit [DecidableEq D] in
/-- Sending yield takes at most the yield out of the pool, and no more than it
holds. -/
theorem sendYield_books {treasury : Address} {yieldAmount : Int}
    (sent : sendYield host env s treasury yieldAmount = .ok s') :
    ∃ left, s'.books host =
        { s.books host with
          liquid := (s.books host).liquid - left
          funds := (s.books host).funds - left } ∧
      left ≤ max yieldAmount 0 ∧ (0 ≤ (s.books host).liquid → left ≤ (s.books host).liquid) := by
  rcases sendYield_ok sent with ⟨positive, afforded, rfl⟩ | ⟨-, rfl⟩
  · by_cases own : treasury = host.contract
    · refine ⟨0, ?_, le_max_right _ _, id⟩
      simp only [State.books, State.afterYield, liquidBalance, moved_payer, own, if_true, sub_zero]
    · refine ⟨yieldAmount, ?_, le_max_left _ _, fun _ => afforded⟩
      simp only [State.books, State.afterYield, liquidBalance, moved_payer, own, if_false,
        sub_add_eq_add_sub]
  · refine ⟨0, ?_, le_max_right _ _, id⟩
    simp only [sub_zero]

theorem extractYield_refines {shares minXlmOut sent : Int}
    (stepped : extractYield host env s shares minXlmOut = .ok (sent, s')) :
    BookStep (computeClaimId host) (.redeemed (redemptionLoss env s shares)) (s.books host)
      (s'.books host) := by
  simp only [extractYield, bind_eq_ok, i128_eq_ok, Except.ok.injEq, Prod.mk.injEq] at stepped
  obtain ⟨_, -, vault, -, treasury, -, redemption, redeemed, _, ⟨-, rfl⟩, after, sent, -, rfl⟩ :=
    stepped
  obtain ⟨⟨principal, received⟩, ⟨nonneg, fits⟩, booked⟩ := redeem_books redeemed
  obtain ⟨left, paidOut, atMost, held⟩ := sendYield_books sent
  rw [principal, received] at atMost
  rw [booked] at paidOut held
  apply redeemed_of_kept paidOut
  · simp only [redemptionLoss]
    split_ifs at atMost <;> omega
  · intro liquid
    exact sub_nonneg.mpr (held (add_nonneg liquid nonneg))
  · simp only [State.books]
    omega

theorem withdrawYield_refines {amount : Int}
    (stepped : withdrawYield host env s amount = .ok s') :
    BookStep (computeClaimId host) .other (s.books host) (s'.books host) := by
  obtain ⟨treasury, available, drawn⟩ := withdrawYield_ok stepped
  obtain ⟨-, positive, -, computed, within, afforded, rfl⟩ := drawn
  refine .treasury ?_ ?_
  · intro held
    simp only [State.afterYield, liquidBalance, moved_payer]
    split_ifs
    · exact held
    · exact sub_nonneg.mpr afforded
  simp only [State.books, State.afterYield, liquidBalance, moved_payer]
  simp only [yieldBalance, bind_eq_ok, i128_eq_ok, liquidBalance] at computed
  obtain ⟨total, ⟨-, rfl⟩, reserved, ⟨-, rfl⟩, surplus⟩ := computed
  rcases ite_eq_ok.mp surplus with ⟨some, surplus⟩ | ⟨-, surplus⟩
  · have available := (i128_eq_ok.mp surplus).2
    split_ifs <;> omega
  · have available := (Except.ok.inj surplus).symm
    split_ifs <;> omega

/-! ### The suspension of a stake -/

theorem suspendStake_refines {wallet : Address}
    (stepped : suspendStake host env s wallet = .ok s') :
    BookStep (computeClaimId host) .other (s.books host) (s'.books host) := by
  simp only [suspendStake, bind_eq_ok, okOr_eq_ok, Except.ok.injEq] at stepped
  obtain ⟨_, -, record, stored, _, -, _, -, rfl⟩ := stepped
  exact .amended stored

omit [DecidableEq D] in
/-- Restarting a clock touches nothing else of the claim. -/
theorem restartClock_ok {claim restarted : Claim}
    (computed : restartClock s claim = .ok restarted) :
    ∃ deadline collected, restarted =
      { claim with approveDeadlineLedger := deadline, lastCollectedLedger := collected } := by
  unfold restartClock at computed
  split at computed
  · simp only [bind_eq_ok, u32_eq_ok, Except.ok.injEq] at computed
    obtain ⟨deadline, -, rfl⟩ := computed
    exact ⟨_, _, rfl⟩
  · exact ⟨_, _, (Except.ok.inj computed).symm⟩
  · exact ⟨_, _, (Except.ok.inj computed).symm⟩

theorem unsuspendStake_refines {wallet : Address} {claimId : Option D}
    (stepped : unsuspendStake host env s wallet claimId = .ok s') :
    BookStep (computeClaimId host) .other (s.books host) (s'.books host) := by
  simp only [unsuspendStake, bind_eq_ok, okOr_eq_ok, Except.ok.injEq] at stepped
  obtain ⟨_, -, record, stored, _, -, claims, reset, rfl⟩ := stepped
  cases claimId with
  | none =>
      obtain rfl := Except.ok.inj reset
      exact .amended stored
  | some id =>
      cases listed : s.claims.get id with
      | none =>
          simp only [resetClaimClock, listed, Except.ok.injEq] at reset
          obtain rfl := reset
          exact .amended stored
      | some claim =>
          simp only [resetClaimClock, listed] at reset
          rcases ite_eq_ok.mp reset with ⟨-, reset⟩ | ⟨-, reset⟩
          · obtain rfl := Except.ok.inj reset
            exact .amended stored
          · simp only [bind_eq_ok, Except.ok.injEq] at reset
            obtain ⟨restarted, computed, rfl⟩ := reset
            obtain ⟨deadline, collected, rfl⟩ := restartClock_ok computed
            exact .restarted stored listed

/-! ### Every step -/

theorem moveXlm_refines {holder : Address} {balance : Int}
    (stepped : moveXlm host s holder balance = .ok s') :
    BookStep (computeClaimId host) .other (s.books host) (s'.books host) := by
  obtain ⟨nonneg, kept, rfl⟩ := moveXlm_eq_ok.mp stepped
  refine .treasury ?_ ?_
  · intro held
    by_cases own : holder = host.contract
    · simp only [liquidBalance, own, Function.update_self]
      exact nonneg
    · simpa only [State.books, liquidBalance, Function.update_of_ne (Ne.symm own)] using held
  by_cases own : holder = host.contract
  · have grown := kept own
    simp only [State.books, liquidBalance, own, Function.update_self] at grown ⊢
    omega
  · simp only [State.books, liquidBalance, Function.update_of_ne (Ne.symm own)]
    omega

/-- Every entry point makes the entry named for it. -/
theorem dispatch_refines {call : Call D} {output : Output D}
    (stepped : dispatch host env s call = .ok (output, s')) :
    BookStep (computeClaimId host) (bookEvent host s (.invoke env call)) (s.books host)
      (s'.books host) := by
  cases call with
  | stake => exact stake_refines (returningUnit_eq_ok.mp stepped).1
  | withdraw => exact withdraw_refines (returningUnit_eq_ok.mp stepped).1
  | setBeneficiary => exact setBeneficiary_refines (returningUnit_eq_ok.mp stepped).1
  | emergencyExit => exact emergencyExit_refines (returningUnit_eq_ok.mp stepped).1
  | submitClaim =>
      obtain ⟨claimId, stepped, -⟩ := returning_eq_ok.mp stepped
      exact submitClaim_refines stepped
  | tryReleaseQueuedClaim => exact tryReleaseQueuedClaim_refines (returningUnit_eq_ok.mp stepped).1
  | expireQueuedClaim => exact expireQueuedClaim_refines (returningUnit_eq_ok.mp stepped).1
  | unlockPendingClaim => exact unlockPendingClaim_refines (returningUnit_eq_ok.mp stepped).1
  | approveClaim => exact approveClaim_refines (returningUnit_eq_ok.mp stepped).1
  | expirePendingApproval => exact expirePendingApproval_refines (returningUnit_eq_ok.mp stepped).1
  | expireStaleClaim => exact expireStaleClaim_refines (returningUnit_eq_ok.mp stepped).1
  | claimStream =>
      obtain ⟨paid, stepped, -⟩ := returning_eq_ok.mp stepped
      exact claimStream_refines stepped
  | cancelClaim => exact cancelClaim_refines (returningUnit_eq_ok.mp stepped).1
  | approveOverride => exact approveOverride_refines (returningUnit_eq_ok.mp stepped).1
  | suspendStake => exact suspendStake_refines (returningUnit_eq_ok.mp stepped).1
  | unsuspendStake => exact unsuspendStake_refines (returningUnit_eq_ok.mp stepped).1
  | deployToVault =>
      obtain ⟨gained, stepped, -⟩ := returning_eq_ok.mp stepped
      exact deployToVault_refines stepped
  | autoDeployLiquidity =>
      obtain ⟨gained, stepped, -⟩ := returning_eq_ok.mp stepped
      exact autoDeployLiquidity_refines stepped
  | provideLiquidity =>
      obtain ⟨received, stepped, -⟩ := returning_eq_ok.mp stepped
      exact provideLiquidity_refines stepped
  | ensureLiquidity =>
      obtain ⟨received, stepped, -⟩ := returning_eq_ok.mp stepped
      exact ensureLiquidity_refines stepped
  | extractYield =>
      obtain ⟨sent, stepped, -⟩ := returning_eq_ok.mp stepped
      exact extractYield_refines stepped
  | withdrawYield => exact withdrawYield_refines (returningUnit_eq_ok.mp stepped).1
  | revokeApproval =>
      simp [dispatch, revokeApproval] at stepped
      obtain ⟨⟨-, -, -, rfl⟩, -⟩ := stepped
      exact .kept
  | cancelPendingOverride =>
      simp [dispatch, cancelPendingOverride] at stepped
      obtain ⟨⟨-, -, -, rfl⟩, -⟩ := stepped
      exact .kept
  | setCoSigner | setPoolCap | setDeployBps =>
      simp [dispatch, setCoSigner, setPoolCap, setDeployBps] at stepped
      obtain ⟨⟨-, -, -, rfl⟩, -⟩ := stepped
      exact .kept
  | setOracle | setOracleIdentity | transferAdmin | setVault =>
      simp [dispatch, setOracle, setOracleIdentity, transferAdmin, setVault] at stepped
      obtain ⟨⟨-, -, rfl⟩, -⟩ := stepped
      exact .kept
  | setOraclePubkey | pause | unpause | setTreasury =>
      simp [dispatch, setOraclePubkey, setPaused, setTreasury] at stepped
      obtain ⟨⟨-, rfl⟩, -⟩ := stepped
      exact .kept

/-- Every step of the deployed contract makes the entry that the state before
it and the action name. -/
theorem step_refines {action : Action D} {output : Output D}
    (stepped : poolStep host s action = .ok (output, s')) :
    BookStep (computeClaimId host) (bookEvent host s action) (s.books host) (s'.books host) := by
  cases action with
  | invoke env call => exact dispatch_refines stepped
  | closeLedger sequence timestamp =>
      obtain ⟨⟨sequenceAdvances, -⟩, ⟨timestampAdvances, -⟩, rfl⟩ :=
        closeLedger_eq_ok.mp (returningUnit_eq_ok.mp stepped).1
      exact .clock sequenceAdvances timestampAdvances
  | moveXlm holder balance => exact moveXlm_refines (returningUnit_eq_ok.mp stepped).1
  | moveShares vault balance =>
      obtain rfl := moveShares_eq_ok.mp (returningUnit_eq_ok.mp stepped).1
      exact .kept

omit [DecidableEq D] in
/-- The books of a pool just deployed are empty. -/
theorem deployed_books {host : Host D} {s : State D} (deployed : Deployed host s) :
    s.stakes = Store.empty ∧ s.claims = Store.empty ∧ s.totalStaked = 0 ∧
      s.totalAllocated = 0 ∧ s.totalStakers = 0 ∧ 0 ≤ (s.books host).liquid ∧
      0 ≤ (s.books host).funds := by
  obtain ⟨env, _, _, xlm, _, _, _, _, _, _, _, -, -, nonneg, built⟩ := deployed
  simp [initializePool] at built
  obtain ⟨-, -, -, -, rfl⟩ := built
  have held := nonneg host.contract
  exact ⟨rfl, rfl, rfl, rfl, rfl, held, by simpa [State.books, liquidBalance] using held⟩

end ProtectionPool
