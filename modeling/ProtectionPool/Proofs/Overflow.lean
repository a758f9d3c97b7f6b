/-
Module: ProtectionPool.Proofs.Overflow
Purpose: Which caps keep the arithmetic of the pool in range.  The build traps on an
  overflow, and a cap is only checked to be positive: while no deposit can be so large
  that its points over the longest tenure overflow, and the aggregates leave room for
  basis points, none of the staking and claim calls traps; a larger cap makes even the
  withdrawal of a deposit trap.
Trusted boundary: none
Main exports: Call.underCap, arithmetic_in_range, withdraw_traps_beyond
-/
import ProtectionPool.Proofs.Ranges

namespace ProtectionPool

open Checked

variable {D : Type} {host : Host D} {env : Env} {s : State D}
  {record : StakeRecord D} {claim : Claim}

/-! ### The checks of the host -/

@[simp] theorem requireNotPaused_avoids : Avoids .overflow (requireNotPaused s) := by
  simp [requireNotPaused]

@[simp] theorem requireAuth_avoids {a : Address} : Avoids .overflow (requireAuth host env a) := by
  simp [requireAuth]

@[simp] theorem requireLiquidity_avoids {amount : Int} :
    Avoids .overflow (requireLiquidity host s amount) := by
  simp [requireLiquidity]

@[simp] theorem transfer_avoids {payer payee : Address} {amount : Int} :
    Avoids .overflow (transfer env s payer payee amount) := by
  simp [transfer]

/-! ### Amounts of a state in range -/

theorem limits_inHalf : stakeLimit < 2 ^ 126 ∧ coverLimit * (2 * tierCoverageBps) < 2 ^ 126 := by
  decide

variable [DecidableEq D]

theorem State.InRange.deposit_inHalf (inRange : s.InRange) (kept : (s.books host).WellKept)
    {wallet : Address} (stored : s.stakes.get wallet = some record) : InHalf record.amount := by
  have nonneg := kept.amounts _ _ stored
  have limited := inRange.deposits _ _ stored
  have limits := limits_inHalf.1
  exact ⟨by omega, by omega⟩

/-- What is left of the stakes without one of them fits. -/
theorem remainingStaked_fits (inRange : s.InRange) (fits : Representable s)
    (kept : (s.books host).WellKept) {wallet : Address}
    (stored : s.stakes.get wallet = some record) : InI128 (s.totalStaked - record.amount) := by
  have staked := fits.staked.inHalf (by decide)
  exact staked.sub (inRange.deposit_inHalf kept stored)

/-- Shares of the cap fit. -/
theorem poolCap_fits (inRange : s.InRange) (fits : Representable s) :
    InI128 (s.poolCap * maxStakeBps) := by
  have positive : 0 < s.poolCap * maxStakeBps := Int.mul_pos inRange.cap (by decide)
  have limits := limits_inHalf.1
  have most := fits.cap
  have room : (stakeLimit + 1) * stakeBpsDenominator ≤ i128Max := by decide
  refine ⟨le_trans (by decide) positive.le, ?_⟩
  rw [Int.tdiv_eq_ediv_of_nonneg positive.le] at most
  have below := Int.lt_mul_of_ediv_lt (by decide) (Int.lt_add_one_of_le most)
  omega

/-! ### Deposits -/

theorem minStake_avoids (inRange : s.InRange) (fits : Representable s) :
    Avoids .overflow (minStake s) := by
  simpa [minStake] using (poolCap_fits inRange fits).scale (by decide) (by decide)

theorem computePointsForRecord_avoids (inRange : s.InRange) (fits : Representable s)
    (kept : (s.books host).WellKept) {wallet : Address}
    (stored : s.stakes.get wallet = some record) :
    Avoids .overflow (computePointsForRecord s record) := by
  have earned := tenurePoints_accrual.nonneg (s.sequence - record.stakedAtLedger)
  have product : InI128 (tenurePoints (s.sequence - record.stakedAtLedger) * record.amount) := by
    have limit : stakeLimit * tenurePoints (s.sequence - record.stakedAtLedger) ≤ i128Max :=
      stakeLimit_mul_le (lt_of_le_of_lt (Nat.sub_le _ _) fits.sequence)
    have below := Int.mul_le_mul_of_nonneg_left (inRange.deposits _ _ stored) earned
    refine ⟨le_trans (by decide) (Int.mul_nonneg earned (kept.amounts _ _ stored)), ?_⟩
    rw [mul_comm stakeLimit] at limit
    exact below.trans limit
  refine computePointsForRecord_avoids_iff.mpr fun _ _ => ?_
  exact ⟨poolCap_fits inRange fits, fun _ => product⟩

theorem computePoints_avoids (inRange : s.InRange) (fits : Representable s)
    (kept : (s.books host).WellKept) (wallet : Address) :
    Avoids .overflow (computePoints s wallet) := by
  cases stored : s.stakes.get wallet with
  | none => simp [computePoints, stored]
  | some record =>
      simp only [computePoints, stored]
      exact computePointsForRecord_avoids inRange fits kept stored

/-- The lifetime points of a wallet fit. -/
theorem lifetimePoints_fit (inRange : s.InRange) (fits : Representable s)
    (kept : (s.books host).WellKept) {wallet : Address} {points : Int}
    (stored : s.stakes.get wallet = some record)
    (computed : computePointsForRecord s record = .ok points) :
    InI128 (getPointsBalance s wallet + points) := by
  have banked := inRange.points wallet
  have nonneg := computePointsForRecord_nonneg computed
  have together := banked.add_le stored (kept.amounts _ _ stored) (inRange.deposits _ _ stored)
    (inRange.dated _ _ stored) computed
  exact ⟨le_trans (by decide) (add_nonneg banked.1 nonneg),
    together.trans (stakeLimit_mul_le fits.sequence)⟩

theorem stake_avoids (inRange : s.InRange) (fits : Representable s) {staker beneficiary : Address}
    {amount : Int} : Avoids .overflow (stake host env s staker amount beneficiary) := by
  simp [stake, maxStake, minStake_avoids inRange fits]
  intro _ _ _ positive _ _ _
  refine ⟨poolCap_fits inRange fits, ?_⟩
  intro _ most _
  have limits := limits_inHalf.1
  have limit := fits.cap
  exact ⟨(fits.staked.inHalf (by decide)).add ⟨by omega, by omega⟩, fun _ _ _ _ _ _ => fits.stakers⟩

theorem withdraw_avoids (inRange : s.InRange) (fits : Representable s)
    (kept : (s.books host).WellKept) {staker beneficiary : Address} :
    Avoids .overflow (withdraw host env s staker beneficiary) := by
  simp [withdraw, bankPoints, avoids_ite, computePoints_avoids inRange fits kept]
  intro _ _ _ record stored _ _ _ _ _ points computed _
  rw [computePoints, stored] at computed
  exact ⟨fun _ => lifetimePoints_fit inRange fits kept stored computed,
    fun _ _ => remainingStaked_fits inRange fits kept stored⟩

omit [DecidableEq D] in
theorem setPoolCap_avoids {newCap : Int} : Avoids .overflow (setPoolCap host env s newCap) := by
  simp [setPoolCap]

/-! ### Submission -/

theorem tierRatio_avoids (tier : Nat) : Avoids .overflow (tierRatio tier) := by
  unfold tierRatio
  split <;> simp

theorem tierCap_avoids (inRange : s.InRange) (kept : (s.books host).WellKept) {wallet : Address}
    (stored : s.stakes.get wallet = some record) (tier : Nat) :
    Avoids .overflow (tierCap record.amount tier) := by
  have nonneg := kept.amounts _ _ stored
  have limits := limits_inHalf.2
  have product : ∀ ratio, tierRatio tier = .ok ratio →
      0 ≤ record.amount * ratio ∧ record.amount * ratio ≤ coverLimit := by
    intro ratio rated
    have bounds := tierRatio_bounds rated
    exact ⟨Int.mul_nonneg nonneg bounds.1,
      mul_le_mul (inRange.deposits _ _ stored) bounds.2 bounds.1 stakeLimit_bounds.1.le⟩
  simp [tierCap, tierRatio_avoids]
  intro ratio rated
  obtain ⟨lower, upper⟩ := product ratio rated
  unfold tierCoverageBps at *
  exact ⟨⟨le_trans (by decide) lower, by unfold i128Max; omega⟩,
    fun _ => ⟨by unfold i128Min; omega, by unfold i128Max; omega⟩⟩

/-- What a tier admits leaves room for a sum. -/
theorem entitlement_inHalf (inRange : s.InRange) (kept : (s.books host).WellKept)
    {wallet : Address} (stored : s.stakes.get wallet = some record) {tier : Nat}
    {cap entitlement : Int} (capped : tierCap record.amount tier = .ok cap)
    (positive : 0 < entitlement) (covered : entitlement ≤ cap) : InHalf entitlement := by
  have limit := covered_le (kept.amounts _ _ stored) (inRange.deposits _ _ stored) capped
  have limits := limits_inHalf.2
  unfold tierCoverageBps at limits
  exact ⟨by omega, by omega⟩

omit [DecidableEq D] in
theorem stressCap_avoids (fits : Representable s) : Avoids .overflow (stressCap s) := by
  simp [stressCap, avoids_ite, fits.allocated]
  intro _
  split_ifs
  · exact fits.staked
  · exact fits.staked.scale (by decide) (by decide)
  · exact fits.staked.scale (by decide) (by decide)

omit [DecidableEq D] in
theorem requireOpenDeadline_avoids (fits : Representable s) {deadline : Nat} :
    Avoids .overflow (requireOpenDeadline s deadline) := by
  have room := fits.timestamp
  simp [requireOpenDeadline]
  unfold claimWindowSeconds secondsPerDay at room
  unfold maxApprovalWindowSeconds
  omega

theorem verifyCaller_avoids (fits : Representable s) {caller wallet : Address}
    {txHash : BytesN 32} {entitlement : Int} {tier hackTimestamp deadline : Nat}
    {signature : BytesN 64} :
    Avoids .overflow (verifyCaller host s caller wallet txHash entitlement tier hackTimestamp
      deadline signature) := by
  simp [verifyCaller, verifyOracleSignature, avoids_ite, requireOpenDeadline_avoids fits]

theorem requireEligibleStake_avoids (inRange : s.InRange) (fits : Representable s)
    (kept : (s.books host).WellKept) {wallet : Address}
    (stored : s.stakes.get wallet = some record) {entitlement : Int} {tier hackTimestamp : Nat} :
    Avoids .overflow (requireEligibleStake s record entitlement tier hackTimestamp) := by
  have room := fits.timestamp
  simp [requireEligibleStake, tierCap_avoids inRange kept stored]
  intros
  omega

omit [DecidableEq D] in
theorem admissionStatus_avoids (fits : Representable s) :
    Avoids .overflow (admissionStatus s record) := by
  have clock := fits.sequence
  simp [admissionStatus, avoids_ite]
  unfold ledgerLimit at clock
  unfold approveWindowLedgers ledgersPerDay
  omega

/-- What was admitted today is in range. -/
theorem State.InRange.admittedToday (inRange : s.InRange) :
    AdmissionsWithin (getDailyEntitlement s (currentDay s)) :=
  inRange.admissions.read (currentDay s)

/-- What was admitted today leaves room for a claim. -/
theorem dailyEntitlement_fits (inRange : s.InRange) {entitlement : Int}
    (claimed : InHalf entitlement) :
    InI128 ((getDailyEntitlement s (currentDay s)).1 + entitlement) := by
  obtain ⟨nonneg, scaled⟩ := inRange.admittedToday.entitlement
  have admitted : InI128 ((getDailyEntitlement s (currentDay s)).1 * bpsDenominator) :=
    ⟨le_trans (by decide) (Int.mul_nonneg nonneg (by decide)), scaled⟩
  exact (admitted.inHalf (by decide)).add claimed

theorem admitClaim_avoids (inRange : s.InRange) (fits : Representable s) {wallet : Address}
    {txHash : BytesN 32} {claimId : D} {entitlement : Int} {tier hackTimestamp : Nat}
    {countTowardOracleLimit : Bool} (claimed : InHalf entitlement)
    (unlimited : countTowardOracleLimit = true →
      (getDailyEntitlement s (currentDay s)).2 < max (s.totalStakers / 10) 1) :
    Avoids .overflow (admitClaim s wallet txHash claimId entitlement tier hackTimestamp record
      countTowardOracleLimit) := by
  have counted := inRange.admittedToday.count
  have stakers := fits.stakers
  simp [admitClaim, admissionStatus_avoids fits]
  refine ⟨dailyEntitlement_fits inRange claimed, fun _ => ⟨?_, fun _ =>
    (fits.allocated.inHalf (by decide)).add claimed⟩⟩
  split_ifs with counts
  · have limit := unlimited counts
    omega
  · omega

theorem submitClaim_avoids (inRange : s.InRange) (fits : Representable s)
    (kept : (s.books host).WellKept) {caller wallet : Address} {txHash : BytesN 32}
    {entitlement : Int} {tier hackTimestamp deadline : Nat} {signature : BytesN 64} :
    Avoids .overflow (submitClaim host env s caller wallet txHash entitlement tier hackTimestamp
      deadline signature) := by
  simp [submitClaim, avoids_ite, tierRatio_avoids, verifyCaller_avoids fits,
    stressCap_avoids fits]
  intro _ _ _ _ positive _ _ _ _ record stored
  refine ⟨requireEligibleStake_avoids inRange fits kept stored, fun _ eligible => ?_⟩
  obtain ⟨cap, capped, covered⟩ := (requireEligibleStake_ok host positive eligible).covered
  have claimed : InHalf entitlement :=
    entitlement_inHalf inRange kept stored capped positive covered
  refine ⟨(fits.allocated.inHalf (by decide)).add claimed, fun _ =>
    ⟨dailyEntitlement_fits inRange claimed, fun _ stress _ _ _ _ unlimited => ?_⟩⟩
  refine admitClaim_avoids inRange fits claimed fun counts => ?_
  rw [oracleRateLimited, counts, Bool.true_and, decide_eq_false_iff_not] at unlimited
  exact not_le.mp unlimited

/-! ### Approval -/

/-- Activation traps on nothing but what it adds up. -/
theorem activateClaim_avoids (points : Avoids .overflow (computePointsForRecord s record))
    (lifetime : ∀ earned, computePointsForRecord s record = .ok earned →
      InI128 (getPointsBalance s claim.wallet + earned))
    (staked : InI128 (s.totalStaked - record.amount)) (clock : s.sequence < ledgerLimit) :
    Avoids .overflow (activateClaim s record claim) := by
  unfold ledgerLimit at clock
  simp [activateClaim, points]
  intro earned computed
  refine ⟨lifetime earned computed, fun _ => ⟨staked, fun _ => ?_⟩⟩
  unfold cooldownLedgers vestingLedgers ledgersPerDay
  omega

theorem approveClaim_avoids (inRange : s.InRange) (fits : Representable s)
    (kept : (s.books host).WellKept) {claimId : D} :
    Avoids .overflow (approveClaim host env s claimId) := by
  simp [approveClaim]
  intro _ claim _ _ _ _ _ record stored _
  exact activateClaim_avoids (computePointsForRecord_avoids inRange fits kept stored)
    (fun _ => lifetimePoints_fit inRange fits kept stored)
    (remainingStaked_fits inRange fits kept stored) fits.sequence

/-! ### Overrides -/

/-- The parts of a claim leave room for a sum, and so does what is not paid of it. -/
theorem claim_inHalf (inRange : s.InRange) (kept : (s.books host).WellKept) {claimId : D}
    (listed : s.claims.get claimId = some claim) :
    InHalf claim.entitlement ∧ InHalf claim.streamed ∧
      (-coverLimit ≤ claim.entitlement - claim.streamed ∧
        claim.entitlement - claim.streamed ≤ coverLimit) := by
  have claimKept := kept.claims _ _ listed
  have positive := claimKept.positive
  have paid := claimKept.streamedNonneg
  have limit := (inRange.claims _ _ listed).entitlement
  have streamed := (inRange.claims _ _ listed).streamed
  have limits := limits_inHalf.2
  unfold tierCoverageBps at limits
  exact ⟨⟨by omega, by omega⟩, ⟨by omega, by omega⟩, by omega, by omega⟩

theorem releasedAllocation_avoids (inRange : s.InRange) (kept : (s.books host).WellKept)
    (claimId : D) : Avoids .overflow (releasedAllocation s (s.claims.get claimId)) := by
  cases listed : s.claims.get claimId with
  | none => simp [releasedAllocation]
  | some claim =>
      obtain ⟨entitlement, streamed, -⟩ := claim_inHalf inRange kept listed
      simp [releasedAllocation, avoids_ite]
      exact fun _ => entitlement.sub streamed

/-- What is allocated once a reservation is released leaves room for a sum. -/
theorem released_inHalf (inRange : s.InRange) (fits : Representable s)
    (kept : (s.books host).WellKept) {claimId : D} {released : Int}
    (computed : releasedAllocation s (s.claims.get claimId) = .ok released) :
    InHalf released := by
  have allocated := fits.allocated.inHalf (by decide)
  cases listed : s.claims.get claimId with
  | none =>
      rw [listed] at computed
      exact Except.ok.inj computed ▸ allocated
  | some claim =>
      rw [listed] at computed
      rcases ite_eq_ok.mp computed with ⟨live, computed⟩ | ⟨ended, computed⟩
      · obtain ⟨-, -, lower, upper⟩ := claim_inHalf inRange kept listed
        simp only [bind_eq_ok, i128_eq_ok, Except.ok.injEq] at computed
        obtain ⟨unstreamed, ⟨-, rfl⟩, rfl⟩ := computed
        have bounds := fits.allocated
        have limits := limits_inHalf.2
        unfold InI128 i128Min i128Max bpsDenominator at bounds
        unfold tierCoverageBps at limits
        have exact : InI128 (s.totalAllocated - (claim.entitlement - claim.streamed)) :=
          ⟨by unfold i128Min; omega, by unfold i128Max; omega⟩
        rw [saturatingSub, saturateI128_of_fits exact]
        exact ⟨by omega, by omega⟩
      · exact Except.ok.inj computed ▸ allocated

theorem effectiveTotalStaked_avoids (inRange : s.InRange) (fits : Representable s)
    (kept : (s.books host).WellKept) {wallet : Address}
    (stored : s.stakes.get wallet = some record) :
    Avoids .overflow (effectiveTotalStaked s record) := by
  simp [effectiveTotalStaked, avoids_ite]
  exact fun _ => (fits.staked.inHalf (by decide)).add (inRange.deposit_inHalf kept stored)

omit [DecidableEq D] in
theorem reexecuteClaim_avoids (clock : s.sequence < ledgerLimit) :
    Avoids .overflow (reexecuteClaim s record claim) := by
  unfold ledgerLimit at clock
  simp [reexecuteClaim]
  unfold cooldownLedgers vestingLedgers ledgersPerDay
  omega

/-- Either way of putting an override into effect traps on nothing but what it adds
up. -/
theorem overrideActivation_avoids (points : Avoids .overflow (computePointsForRecord s record))
    (lifetime : ∀ earned, computePointsForRecord s record = .ok earned →
      InI128 (getPointsBalance s claim.wallet + earned))
    (staked : InI128 (s.totalStaked - record.amount)) (clock : s.sequence < ledgerLimit) :
    Avoids .overflow (overrideActivation s record claim) :=
  avoids_ite.mpr ⟨fun _ => reexecuteClaim_avoids clock,
    fun _ => activateClaim_avoids points lifetime staked clock⟩

theorem executeOverride_avoids (inRange : s.InRange) (fits : Representable s)
    (kept : (s.books host).WellKept) {claimId : D} {req : OverrideRequest}
    (positive : 0 < req.entitlement) : Avoids .overflow (executeOverride s claimId req) := by
  simp [executeOverride, releasedAllocation_avoids inRange kept]
  intro _ released computed record stored _ _
  refine ⟨tierCap_avoids inRange kept stored _, fun cap capped covered =>
    ⟨effectiveTotalStaked_avoids inRange fits kept stored, fun _ _ => ⟨?_, fun _ _ => ?_⟩⟩⟩
  · exact (released_inHalf inRange fits kept computed).add
      (entitlement_inHalf inRange kept stored capped positive covered)
  · -- the activation finds the new allocation, which the points do not depend on
    have points := computePointsForRecord_avoids inRange fits kept stored
    have lifetime : ∀ earned, computePointsForRecord s record = .ok earned →
        InI128 (getPointsBalance s req.wallet + earned) :=
      fun _ => lifetimePoints_fit inRange fits kept stored
    have staked := remainingStaked_fits inRange fits kept stored
    exact overrideActivation_avoids points lifetime staked fits.sequence

theorem approveOverride_avoids (inRange : s.InRange) (fits : Representable s)
    (kept : (s.books host).WellKept) {caller wallet : Address} {txHash : BytesN 32}
    {entitlement : Int} {tier : Nat} :
    Avoids .overflow (approveOverride host env s caller wallet txHash entitlement tier) := by
  simp [approveOverride, avoids_ite, tierRatio_avoids]
  intro _ _ _ _ positive _ _ asked _ _
  apply executeOverride_avoids inRange fits kept
  show 0 < (pendingRequest _ _ _ _ _ _).entitlement
  rw [asked]
  exact positive

/-! ### Payout -/

theorem vestedTotal_avoids (inRange : s.InRange) (kept : (s.books host).WellKept) {claimId : D}
    (listed : s.claims.get claimId = some claim) (active : claim.status = .active) :
    Avoids .overflow (vestedTotal s claim) := by
  have claimKept := kept.claims _ _ listed
  have schedule := claimKept.schedule active
  have elapsed : min s.sequence claim.vestingEndsLedger - claim.cooldownEndsLedger ≤
      vestingLedgers := by omega
  simp only [vestedTotal, avoids_bind, avoids_i128, avoids_ok, implies_true, and_true,
    forall_const]
  refine ⟨le_trans (by decide) (Int.mul_nonneg claimKept.positive.le (Int.natCast_nonneg _)), ?_⟩
  calc _ ≤ coverLimit * (vestingLedgers : Int) :=
        mul_le_mul (inRange.claims _ _ listed).entitlement (by exact_mod_cast elapsed)
          (Int.natCast_nonneg _) (by decide)
    _ ≤ i128Max := stakeLimit_bounds.2

/-- What has vested is between nothing and the entitlement. -/
theorem vestedTotal_bounds (kept : (s.books host).WellKept) {claimId : D} {vested : Int}
    (listed : s.claims.get claimId = some claim) (active : claim.status = .active)
    (computed : vestedTotal s claim = .ok vested) :
    0 ≤ vested ∧ vested ≤ claim.entitlement := by
  have claimKept := kept.claims _ _ listed
  refine ⟨?_, vestedTotal_le claimKept.positive.le (claimKept.schedule active) computed⟩
  simp only [vestedTotal, bind_eq_ok, i128_eq_ok, Except.ok.injEq] at computed
  obtain ⟨_, ⟨-, rfl⟩, rfl⟩ := computed
  exact Int.tdiv_nonneg (Int.mul_nonneg claimKept.positive.le (Int.natCast_nonneg _)) (by decide)

omit [DecidableEq D] in
theorem dynamicOutflowBps_avoids (fits : Representable s) (base : Int) :
    Avoids .overflow (dynamicOutflowBps s base) := by
  simp [dynamicOutflowBps, avoids_ite, fits.allocated]

omit [DecidableEq D] in
theorem outflowCap_avoids (fits : Representable s)
    (snapshot : InI128 (claim.totalStakedSnapshot * 2500)) :
    Avoids .overflow (outflowCap s claim) := by
  have base : InI128 (capBase s claim * 2500) := by
    rcases max_choice s.totalStaked claim.totalStakedSnapshot with same | same
    · rw [capBase, same]
      exact fits.staked
    · rw [capBase, same]
      exact snapshot
  simp [outflowCap, dynamicOutflowBps_avoids fits]
  intro bps rate
  obtain ⟨nonneg, most⟩ := dynamicOutflowBps_bounds rate
  exact base.scale nonneg (most.trans (by decide))

theorem transferAmount_avoids (inRange : s.InRange) (fits : Representable s)
    (kept : (s.books host).WellKept) {claimId : D} (listed : s.claims.get claimId = some claim)
    (active : claim.status = .active) : Avoids .overflow (transferAmount s claim) := by
  obtain ⟨entitlement, streamed, -⟩ := claim_inHalf inRange kept listed
  simp [transferAmount, vestedTotal_avoids inRange kept listed active,
    outflowCap_avoids fits (inRange.claims _ _ listed).snapshot]
  intro vested computed
  obtain ⟨nonneg, within⟩ := vestedTotal_bounds kept listed active computed
  have vestedHalf : InHalf vested := ⟨le_trans (by decide) nonneg, within.trans_lt entitlement.2⟩
  exact vestedHalf.sub streamed

omit [DecidableEq D] in
/-- The cap is a share of a product that fits. -/
theorem outflowCap_le {cap : Int} (computed : outflowCap s claim = .ok cap) : cap ≤ i128Max := by
  simp only [outflowCap, bind_eq_ok, i128_eq_ok, Except.ok.injEq] at computed
  obtain ⟨_, -, _, ⟨fits, rfl⟩, rfl⟩ := computed
  calc _ ≤ i128Max.tdiv bpsDenominator := Int.tdiv_le_tdiv (by decide) fits.2
    _ ≤ i128Max := by decide

/-- A payout fits in the payments of its claim and in those of its day. -/
theorem payment_fits (inRange : s.InRange) (kept : (s.books host).WellKept) {claimId : D}
    {amount : Int} (listed : s.claims.get claimId = some claim) (active : claim.status = .active)
    (computed : transferAmount s claim = .ok amount) :
    InI128 (claim.streamed + amount) ∧
      InI128 (getDailyOutflow s (currentDay s) + amount) := by
  obtain ⟨entitlement, streamed, -⟩ := claim_inHalf inRange kept listed
  obtain ⟨positive, vested, vestedNow, within⟩ := transferAmount_ok computed
  have most := (vestedTotal_bounds kept listed active vestedNow).2
  have nonneg := (kept.claims _ _ listed).streamedNonneg
  obtain ⟨cap, capped, today⟩ := transferAmount_capped computed
  have paid : 0 ≤ getDailyOutflow s (currentDay s) := by
    rw [getDailyOutflow]
    split_ifs
    · exact le_refl 0
    · exact inRange.outflow
  refine ⟨⟨le_trans (by decide) (add_nonneg nonneg positive.le), ?_⟩,
    ⟨le_trans (by decide) (add_nonneg paid positive.le), ?_⟩⟩
  · have half := entitlement.2
    unfold i128Max
    omega
  · exact today.trans (outflowCap_le capped)

theorem claimStream_avoids (inRange : s.InRange) (fits : Representable s)
    (kept : (s.books host).WellKept) {claimId : D} {beneficiary : Address} :
    Avoids .overflow (claimStream host env s claimId beneficiary) := by
  simp [claimStream]
  intro _ claim listed _ _ active _ _ record stored _ _
  refine ⟨transferAmount_avoids inRange fits kept listed active, ?_⟩
  intro amount computed _
  obtain ⟨streamed, paid⟩ := payment_fits inRange kept listed active computed
  exact ⟨streamed, fun _ => paid⟩

/-! ### Every run -/

/-- The calls whose amounts the cap bounds: staking, submission and approval, payout,
and the setting of the cap itself. -/
def Call.underCap : Call D → Bool
  | .stake _ _ _ | .withdraw _ _ | .setPoolCap _ | .submitClaim _ _ _ _ _ _ _ _
  | .approveClaim _ | .approveOverride _ _ _ _ _ | .claimStream _ _ => true
  | _ => false

theorem dispatch_avoids (inRange : s.InRange) (fits : Representable s)
    (kept : (s.books host).WellKept) {call : Call D} (bounded : call.underCap = true) :
    Avoids .overflow (dispatch host env s call) := by
  cases call with
  | stake => simp [dispatch, returningUnit, stake_avoids inRange fits]
  | withdraw => simp [dispatch, returningUnit, withdraw_avoids inRange fits kept]
  | setPoolCap => simp [dispatch, returningUnit, setPoolCap_avoids]
  | submitClaim => simp [dispatch, returning, submitClaim_avoids inRange fits kept]
  | approveClaim => simp [dispatch, returningUnit, approveClaim_avoids inRange fits kept]
  | approveOverride => simp [dispatch, returningUnit, approveOverride_avoids inRange fits kept]
  | claimStream => simp [dispatch, returning, claimStream_avoids inRange fits kept]
  | _ => cases bounded

theorem pointsBalanceView_avoids (inRange : s.InRange) (fits : Representable s)
    (kept : (s.books host).WellKept) (wallet : Address) :
    Avoids .overflow (pointsBalanceView s wallet) := by
  cases stored : s.stakes.get wallet with
  | none => simp [pointsBalanceView, stored]
  | some record =>
      simp [pointsBalanceView, stored, avoids_ite,
        computePointsForRecord_avoids inRange fits kept stored]

/-- In every run through representable states, no staking or claim call traps on an
overflow in a representable state, and neither does the view of a wallet's points. -/
theorem arithmetic_in_range (host : Host D) {log : Log D} {s : State D}
    (run : (poolSystem host).Run representable log s) (fits : Representable s) :
    (∀ env call, Call.underCap call = true →
        (poolSystem host).step s (.invoke env call) ≠ .error .overflow) ∧
      ∀ wallet, pointsBalanceView s wallet ≠ .error .overflow := by
  have inRange := inRange_of_run run
  have kept := wellKept_of_run run
  constructor
  · intro env call bounded
    exact dispatch_avoids inRange fits kept bounded
  · intro wallet
    exact pointsBalanceView_avoids inRange fits kept wallet

/-- A deposit as large as the cap admits, one ledger before the limit: neither its
withdrawal nor the view of its points traps. -/
theorem arithmetic_in_range_sample :
    ∃ log s, (poolSystem sampleHost).Run representable log s ∧
      (s.sequence = ledgerLimit - 1 ∧ s.totalStaked = 125000) ∧
      (poolSystem sampleHost).step s (callBy 11 (.withdraw (party 11) (party 21))) ≠
        .error .overflow ∧
      pointsBalanceView s (party 11) ≠ .error .overflow := by
  obtain ⟨log, s, run, fits, reached⟩ := System.exists_run_of_replay (poolSystem sampleHost)
    representable samplePool_deployed
    [callBy 11 (.stake (party 11) 125000 (party 21)), .closeLedger (ledgerLimit - 1) 2000000]
    (fun _ s => Representable s ∧ s.sequence = ledgerLimit - 1 ∧ s.totalStaked = 125000)
    (by decide +kernel)
  obtain ⟨calls, views⟩ := arithmetic_in_range sampleHost run fits
  exact ⟨log, s, run, reached, calls _ _ rfl, views _⟩

/-! ### Beyond the range -/

/-- Nothing stands between a deposit and its withdrawal but its points and the funds. -/
def Withdrawable (host : Host D) (env : Env) (s : State D) (staker beneficiary : Address)
    (record : StakeRecord D) : Prop :=
  (s.paused = false ∧ staker ∈ env.signers ∧ staker ≠ host.contract) ∧
    s.stakes.get staker = some record ∧ 0 < record.amount ∧ record.withdrawn = false ∧
      record.activeClaimId = none ∧ record.penaltyLockedUntilLedger ≤ s.sequence ∧
        addressHash host beneficiary = record.beneficiaryHash

instance (host : Host D) (env : Env) (s : State D) (staker beneficiary : Address)
    (record : StakeRecord D) : Decidable (Withdrawable host env s staker beneficiary record) :=
  inferInstanceAs (Decidable (_ ∧ _))

/-- A withdrawal traps where the points of the deposit do. -/
theorem Withdrawable.traps {staker beneficiary : Address}
    (ready : Withdrawable host env s staker beneficiary record)
    (overflows : ¬ Avoids .overflow (computePointsForRecord s record)) :
    withdraw host env s staker beneficiary = .error .overflow := by
  obtain ⟨⟨running, authorized, foreign⟩, stored, funded, standing, inactive, unlocked,
    committed⟩ := ready
  rw [← not_avoids]
  intro avoids
  simp [withdraw] at avoids
  have points := (avoids running authorized foreign record stored funded standing inactive unlocked
    committed).1
  rw [computePoints, stored] at points
  exact overflows points

omit [DecidableEq D] in
/-- The points of a deposit trap where the largest deposit or its own product does not
fit. -/
theorem computePointsForRecord_overflows (funded : 0 < record.amount)
    (standing : record.withdrawn = false)
    (beyond : InI128 (s.poolCap * maxStakeBps) →
      0 < (s.poolCap * maxStakeBps).tdiv stakeBpsDenominator ∧
        ¬ InI128 (tenurePoints (s.sequence - record.stakedAtLedger) * record.amount)) :
    ¬ Avoids .overflow (computePointsForRecord s record) := by
  intro avoids
  obtain ⟨fits, product⟩ := computePointsForRecord_avoids_iff.mp avoids funded standing
  obtain ⟨positive, large⟩ := beyond fits
  exact large (product positive)

/-- A pool deployed at ledger 0 under a cap every account can pay. -/
def widePool (cap : Int) : State Nat :=
  { samplePool with
    poolCap := cap
    sequence := 0
    xlm := fun holder => if holder = sampleHost.contract then 0 else cap }

theorem widePool_deployed {cap : Int} (positive : 0 < cap) :
    Deployed sampleHost (widePool cap) := by
  refine ⟨.of [party 1] ⟨0, 0, 0, 0⟩, 0, 1000000, (widePool cap).xlm,
    samplePool.vaultShares, party 1, party 2, 0, party 3, .contract 1, cap, ?_, ?_, ?_, ?_⟩
  · decide
  · decide
  · intro holder
    simp only [widePool]
    split_ifs
    · exact le_refl 0
    · exact positive.le
  · simp [initializePool, widePool, samplePool, positive]
    decide

/-- The largest deposit the cap of such a pool admits goes through. -/
theorem stake_widePool {cap most : Int} (positive : 0 < cap) (fits : InI128 (cap * maxStakeBps))
    (largest : (cap * maxStakeBps).tdiv stakeBpsDenominator = most) (some : 0 < most) :
    ∃ s', (poolSystem sampleHost).step (widePool cap)
        (callBy 11 (.stake (party 11) most (party 21))) = .ok (.unit, s') ∧
      (s'.poolCap = cap ∧ s'.paused = false ∧ s'.sequence = 0 ∧ s'.timestamp = 1000000) ∧
      s'.stakes.get (party 11) =
        Option.some (freshStake sampleHost (widePool cap) most (party 21)) := by
  have least : (cap * minStakeBps).tdiv stakeBpsDenominator ≤ most := by
    rw [← largest]
    exact Int.tdiv_le_tdiv (by decide)
      (Int.mul_le_mul_of_nonneg_left (by decide) positive.le)
  have within : 0 + most ≤ cap := by
    rw [← largest, Int.tdiv_eq_ediv_of_nonneg (Int.mul_pos positive (by decide)).le,
      maxStakeBps, stakeBpsDenominator]
    omega
  have sum : InI128 (0 + most) := by
    rw [zero_add]
    exact ((mul_one cap) ▸ fits.scale (by decide) (by decide) : InI128 cap).of_le some.le
      (by omega)
  have vacant : (Store.empty : Store Address (StakeRecord Nat)).get (party 11) = none :=
    Store.get_empty _
  have staked : Staked sampleHost (.of [party 11] ⟨0, 0, 0, 0⟩) (widePool cap) (party 11) most
      (party 21) ((widePool cap).afterStake sampleHost (party 11) most (party 21)) := {
    running := rfl
    signed := by decide
    positive := some
    least := by
      refine ⟨(cap * minStakeBps).tdiv stakeBpsDenominator, ?_, least⟩
      simp only [minStake, bind_eq_ok, i128_eq_ok, Except.ok.injEq]
      exact ⟨_, ⟨fits.scale (by decide) (by decide), rfl⟩, rfl⟩
    most := by
      refine ⟨(cap * maxStakeBps).tdiv stakeBpsDenominator, ?_, largest.ge⟩
      simp only [maxStake, bind_eq_ok, i128_eq_ok, Except.ok.injEq]
      exact ⟨_, ⟨fits, rfl⟩, rfl⟩
    vacant := by
      intro record stored
      cases vacant.symm.trans stored
    fits := sum
    withinCap := within
    destination := (by decide : party 21 ≠ party 11 ∧ party 21 ≠ party 2 ∧
      party 21 ≠ party 1 ∧ party 21 ≠ party 3)
    counted := (by decide : 0 + 1 < 2 ^ 32)
    afforded := (zero_add most).ge.trans within
    accepted := rfl
    state := rfl }
  exact ⟨_, returningUnit_eq_ok.mpr ⟨stake_eq_ok.mpr staked, rfl⟩, ⟨rfl, rfl, rfl, rfl⟩,
    Store.get_set_self _ _ _⟩

/-- The points of a deposit beyond the limit overflow after the longest tenure. -/
theorem longest_tenure_overflows {amount : Int} (beyond : stakeLimit < amount) :
    ¬ InI128 (tenurePoints (ledgerLimit - 1) * amount) := by
  have rate : 0 < tenurePoints (ledgerLimit - 1) := by decide
  have above : i128Max < tenurePoints (ledgerLimit - 1) * amount :=
    calc i128Max
        < (i128Max / tenurePoints (ledgerLimit - 1) + 1) * tenurePoints (ledgerLimit - 1) :=
          Int.lt_ediv_add_one_mul_self _ rate
      _ ≤ amount * tenurePoints (ledgerLimit - 1) :=
          Int.mul_le_mul_of_nonneg_right (Int.add_one_le_of_lt beyond) rate.le
      _ = tenurePoints (ledgerLimit - 1) * amount := mul_comm _ _
  exact fun fits => absurd fits.2 (not_le.mpr above)

/-- Some run under the cap leaves a deposit that nothing keeps from its withdrawal but
its points, which overflow before the last ledger considered. -/
def TrapsUnder (cap : Int) : Prop :=
  ∃ log s, (poolSystem sampleHost).Run System.anyStep log s ∧ s.poolCap = cap ∧
    s.sequence < ledgerLimit ∧ ∃ record,
      Withdrawable sampleHost (.of [party 11] ⟨0, 0, 0, 0⟩) s (party 11) (party 21) record ∧
        ¬ Avoids .overflow (computePointsForRecord s record)

/-- A cap whose largest deposit is beyond the limit: that deposit can be made at ledger
0, and its withdrawal traps at the last ledger before the limit. -/
theorem deposit_trapped {cap : Int} (positive : 0 < cap) (fits : InI128 (cap * maxStakeBps))
    (beyond : stakeLimit < (cap * maxStakeBps).tdiv stakeBpsDenominator) : TrapsUnder cap := by
  have some := stakeLimit_bounds.1.trans beyond
  obtain ⟨s, staked, ⟨capped, running, start, opened⟩, stored⟩ :=
    stake_widePool positive fits rfl some
  have made : (poolSystem sampleHost).Run System.anyStep _ s :=
    .step (.start (widePool_deployed positive)) trivial staked
  have closed : (poolSystem sampleHost).step s (.closeLedger (ledgerLimit - 1) 1000000) =
      .ok (.unit, { s with sequence := ledgerLimit - 1, timestamp := 1000000 }) := by
    simp only [poolSystem, poolStep, closeLedger, returningUnit_eq_ok, bind_eq_ok,
      trapUnless_eq_ok, start, opened]
    exact ⟨⟨(), by decide, (), by decide, trivial⟩, trivial⟩
  have waited : (poolSystem sampleHost).Run System.anyStep _
      { s with sequence := ledgerLimit - 1, timestamp := 1000000 } := .step made trivial closed
  refine ⟨_, _, waited, capped, Nat.sub_one_lt (by decide), _,
    ⟨⟨running, by decide⟩, stored, some, rfl, rfl, Nat.zero_le _, rfl⟩, ?_⟩
  apply computePointsForRecord_overflows some rfl
  intro _
  exact ⟨capped ▸ some, longest_tenure_overflows beyond⟩

/-- A cap whose basis points do not fit: a deposit made under a smaller cap cannot be
withdrawn once the cap is set. -/
theorem deposit_trapped_by_cap {cap : Int} (positive : 0 < cap)
    (overflows : ¬ InI128 (cap * maxStakeBps)) : TrapsUnder cap := by
  obtain ⟨log, s, run, ⟨admin, staked, early⟩, record, stored, ready⟩ :=
    System.exists_run_of_replay (poolSystem sampleHost) System.anyStep samplePool_deployed
      [callBy 11 (.stake (party 11) 2000 (party 21))]
      (fun _ s => (s.admin = party 1 ∧ s.totalStaked = 2000 ∧ s.sequence < ledgerLimit) ∧
        ∃ record ∈ s.stakes.get (party 11),
          Withdrawable sampleHost (.of [party 11] ⟨0, 0, 0, 0⟩) s (party 11) (party 21) record)
      (by decide +kernel)
  have large : s.totalStaked ≤ cap := by
    by_contra small
    have bound : cap < 2000 := staked ▸ not_le.mp small
    apply overflows
    unfold InI128 i128Min i128Max maxStakeBps
    omega
  have raised : (poolSystem sampleHost).step s (callBy 1 (.setPoolCap cap)) =
      .ok (.unit, { s with poolCap := cap }) := by
    simp only [poolSystem, poolStep, callBy, dispatch, setPoolCap, returningUnit_eq_ok, bind_eq_ok,
      requireAuth_eq_ok, rejectIf_eq_ok, admin]
    exact ⟨⟨(), by decide, (), not_le.mpr positive, (), not_lt.mpr large, trivial⟩, trivial⟩
  refine ⟨_, _, run.step trivial raised, rfl, early, record, ready, ?_⟩
  exact computePointsForRecord_overflows ready.2.2.1 ready.2.2.2.1
    fun fits => absurd fits overflows

/-- Under every cap whose largest deposit is beyond the limit some run leaves a deposit
whose withdrawal traps on an overflow before the last ledger considered. -/
theorem withdraw_traps_beyond {cap : Int}
    (beyond : stakeLimit < (cap * maxStakeBps).tdiv stakeBpsDenominator) :
    ∃ log s, (poolSystem sampleHost).Run System.anyStep log s ∧ s.poolCap = cap ∧
      s.sequence < ledgerLimit ∧ (∃ record ∈ s.stakes.get (party 11), 0 < record.amount) ∧
        withdraw sampleHost (.of [party 11] ⟨0, 0, 0, 0⟩) s (party 11) (party 21) =
          .error .overflow := by
  have positive : 0 < cap := by
    have product := (tdiv_pos_iff (by decide)).mp (stakeLimit_bounds.1.trans beyond)
    unfold stakeBpsDenominator maxStakeBps at product
    omega
  obtain ⟨log, s, run, capped, early, record, ready, overflows⟩ : TrapsUnder cap := by
    by_cases fits : InI128 (cap * maxStakeBps)
    · exact deposit_trapped positive fits beyond
    · exact deposit_trapped_by_cap positive fits
  exact ⟨log, s, run, capped, early, ⟨record, ready.2.1, ready.2.2.1⟩, ready.traps overflows⟩

/-- The largest cap that is accepted: a deposit made before it was set cannot be
withdrawn. -/
theorem accepted_cap_traps_withdrawal :
    ∃ log s, (poolSystem sampleHost).Run System.anyStep log s ∧ s.poolCap = i128Max ∧
      s.sequence < ledgerLimit ∧ (∃ record ∈ s.stakes.get (party 11), 0 < record.amount) ∧
        withdraw sampleHost (.of [party 11] ⟨0, 0, 0, 0⟩) s (party 11) (party 21) =
          .error .overflow :=
  withdraw_traps_beyond (by decide)

end ProtectionPool
