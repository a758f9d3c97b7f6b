/-
Module: ProtectionPool.Proofs.ReviewerKit
Purpose: The reviewer's kit agrees with the contract it shows.  Its figures foretell each
  payout and explain each refusal, and the deadline it shows is kept by every sweep.
Trusted boundary: none
Main exports: kit_foretells_payout, kit_explains_refusal, kit_deadline_kept
-/
import ProtectionPool.Model.ReviewerKit
import ProtectionPool.Books.StakeCalls
import ProtectionPool.Proofs.ErrorSurface
import ProtectionPool.Proofs.FrozenTime
import ProtectionPool.Proofs.Endings
import ProtectionPool.Proofs.Collections

namespace ProtectionPool

open Checked Utilization

variable {D : Type}

variable {host : Host D} {env : Env} {s s' : State D} {action : Action D} {output : Output D}
  {claimId : D} {claim claim' : Claim} {beneficiary : Address} {log : Log D}

/-! ### The figures agree -/

/-- The kit counts the ledgers of the schedule as the contract does. -/
theorem kit_elapsed (claim : Claim) (now : Nat) :
    (ReviewerKit.vestingSnapshot claim now).elapsedVestingLedgers =
      (min now claim.vestingEndsLedger - claim.cooldownEndsLedger : Nat) := by
  simp only [ReviewerKit.vestingSnapshot]
  omega

/-- The kit's floor is the contract's truncation of what has vested. -/
theorem kit_vested {vested : Int} (nonneg : 0 ≤ claim.entitlement)
    (computed : vestedTotal s claim = .ok vested) :
    (ReviewerKit.vestingSnapshot claim s.sequence).vestedTotal = vested := by
  simp only [vestedTotal, bind_eq_ok, i128_eq_ok, Except.ok.injEq] at computed
  obtain ⟨_, ⟨-, rfl⟩, rfl⟩ := computed
  rw [← kit_elapsed]
  apply Int.fdiv_eq_tdiv_of_nonneg
  · exact Int.mul_nonneg nonneg (le_max_left _ _)
  · decide

theorem kit_claimable {vested : Int} (nonneg : 0 ≤ claim.entitlement)
    (computed : vestedTotal s claim = .ok vested) :
    (ReviewerKit.vestingSnapshot claim s.sequence).claimable = max 0 (vested - claim.streamed) := by
  rw [← kit_vested nonneg computed]
  rfl

/-- Floor and truncation give a base the same rate: they differ below zero only, where the
rate is that of an idle base. -/
theorem kit_rate (allocated : 0 ≤ s.totalAllocated) (base : Int) :
    outflowRate ((s.totalAllocated * ReviewerKit.bpsDenominator).fdiv base) =
      outflowRate (utilization bpsDenominator s.totalAllocated base) := by
  have scaled : 0 ≤ s.totalAllocated * bpsDenominator := Int.mul_nonneg allocated (by decide)
  rcases le_total 0 base with nonneg | nonpos
  · exact congrArg outflowRate (Int.fdiv_eq_tdiv_of_nonneg scaled nonneg)
  · rw [show ReviewerKit.bpsDenominator = bpsDenominator from rfl,
      outflowRate_falls.idle _ (Int.fdiv_nonpos_of_nonneg_of_nonpos scaled nonpos),
      outflowRate_falls.idle _ (utilization_nonpos (by decide) allocated nonpos)]

theorem kit_capToday (allocated : 0 ≤ s.totalAllocated) (claim : Claim) :
    (ReviewerKit.outflowCap s.totalStaked s.totalAllocated claim).capToday =
      (capBase s claim * outflowRate (utilization bpsDenominator s.totalAllocated
        (capBase s claim))).fdiv bpsDenominator := by
  rw [← kit_rate allocated]
  by_cases empty : capBase s claim = 0
  · rw [empty, zero_mul]
    simp only [ReviewerKit.outflowCap]
    rw [show max s.totalStaked claim.totalStakedSnapshot = 0 from empty, zero_mul]
    rfl
  · simp only [ReviewerKit.outflowCap]
    rw [if_neg (show max s.totalStaked claim.totalStakedSnapshot ≠ 0 from empty)]
    rfl

theorem fdiv_le_tdiv (a : Int) {b : Int} (divided : 0 < b) : a.fdiv b ≤ a.tdiv b := by
  rw [Int.fdiv_eq_tdiv, Int.sign_eq_one_of_pos divided]
  split_ifs <;> omega

/-- The cap the kit shows is the contract's for a base that is not negative, and never
more. -/
theorem kit_cap (allocated : 0 ≤ s.totalAllocated) (claim : Claim) :
    (ReviewerKit.outflowCap s.totalStaked s.totalAllocated claim).capToday ≤
        payoutCap (capBase s claim) s.totalAllocated ∧
      (0 ≤ capBase s claim →
        (ReviewerKit.outflowCap s.totalStaked s.totalAllocated claim).capToday =
          payoutCap (capBase s claim) s.totalAllocated) := by
  rw [kit_capToday allocated, payoutCap, share]
  constructor
  · exact fdiv_le_tdiv _ (by decide)
  · intro base
    exact Int.fdiv_eq_tdiv_of_nonneg
      (Int.mul_nonneg base (outflowRate_falls.nonneg _)) (by decide)

variable [DecidableEq D]

theorem check_of_listed (listed : s.claims.get claimId = some claim) :
    ∃ report, ReviewerKit.check s claimId = some report ∧
      report.vesting = ReviewerKit.vestingSnapshot claim s.sequence ∧
      report.cap = ReviewerKit.outflowCap s.totalStaked s.totalAllocated claim ∧
      report.left = claim.lastCollectedLedger + ReviewerKit.collectionInactivityLedgers -
        s.sequence ∧
      report.deadline = claim.lastCollectedLedger + ReviewerKit.collectionInactivityLedgers := by
  rw [ReviewerKit.check, listed]
  exact ⟨_, rfl, rfl, rfl, rfl, rfl⟩

/-! ### Payouts -/

/-- The payouts of a day are never negative. -/
theorem getDailyOutflow_nonneg {guard : System.Guard (State D) (Action D) (Output D)}
    (run : (poolSystem host).Run guard log s) : 0 ≤ getDailyOutflow s (currentDay s) := by
  have counter : 0 ≤ s.register.outflow.total := by
    apply run.invariant (P := fun _ s => 0 ≤ s.register.outflow.total)
    · intro s deployed
      exact (deployed_register deployed).noOutflow.1.ge
    · intro log s action output s' _ nonneg _ stepped
      exact outflow_nonneg_of_step stepped nonneg
  rw [getDailyOutflow]
  split_ifs
  · exact le_refl 0
  · exact counter

/-- A payout is the smaller of what the kit shows as claimable and what is left of the cap
it shows. -/
theorem kit_amount {paid : Int} (kept : (s.books host).WellKept)
    (listed : s.claims.get claimId = some claim)
    (outflow : 0 ≤ getDailyOutflow s (currentDay s))
    (computed : transferAmount s claim = .ok paid) :
    0 < paid ∧
      paid = min (ReviewerKit.vestingSnapshot claim s.sequence).claimable
        ((ReviewerKit.outflowCap s.totalStaked s.totalAllocated claim).capToday -
          getDailyOutflow s (currentDay s)) := by
  have claimKept := kept.claims _ _ listed
  have positive := (transferAmount_ok computed).1
  obtain ⟨vested, cap, vestedNow, capped, rfl⟩ := transferAmount_eq computed
  have due : 0 < vested - claim.streamed := positive.trans_le (min_le_left _ _)
  have room : 0 < saturatingSub cap (getDailyOutflow s (currentDay s)) :=
    positive.trans_le (min_le_right _ _)
  have left : 0 < cap - getDailyOutflow s (currentDay s) :=
    (le_saturateI128_iff (by decide) (by decide)).mp (Int.add_one_le_of_lt room)
  have exactly : saturatingSub cap (getDailyOutflow s (currentDay s)) =
      cap - getDailyOutflow s (currentDay s) :=
    saturateI128_of_fits ⟨le_trans (by decide) left.le, by
      exact le_trans (sub_le_self _ outflow) (outflowCap_le capped)⟩
  have shown : (ReviewerKit.outflowCap s.totalStaked s.totalAllocated claim).capToday = cap := by
    rw [outflowCap_eq capped]
    apply (kit_cap kept.allocated_nonneg claim).2
    by_contra negative
    have none : payoutCap (capBase s claim) s.totalAllocated ≤ 0 :=
      (payoutCap_le kept.allocated_nonneg (le_refl _) (not_le.mp negative).le).trans_eq share_zero
    rw [outflowCap_eq capped] at left
    exact absurd (sub_pos.mp left) (none.trans outflow).not_gt
  rw [kit_claimable claimKept.positive.le vestedNow, max_eq_right due.le, shown, exactly]
  exact ⟨exactly ▸ positive, rfl⟩

/-- In every run a payout is what the kit shows: the smaller of what it calls claimable and of
what the day's payouts leave of the cap it shows.  What the cap held back stays claimable,
and the deadline moves to a full window from now. -/
theorem kit_foretells_payout (host : Host D) {log : Log D} {s s' : State D}
    (run : (poolSystem host).Run System.anyStep log s) {env : Env} {claimId : D}
    {beneficiary : Address} {paid : Int}
    (stepped : claimStream host env s claimId beneficiary = .ok (paid, s')) :
    ∃ report report', ReviewerKit.check s claimId = some report ∧
      ReviewerKit.check s' claimId = some report' ∧
      report.vesting.cooldownPassed = true ∧ 0 < paid ∧
      paid = min report.vesting.claimable
        (report.cap.capToday - getDailyOutflow s (currentDay s)) ∧
      report'.vesting.claimable = report.vesting.claimable - paid ∧
      report'.left = ReviewerKit.collectionInactivityLedgers := by
  have kept := wellKept_of_run run
  obtain ⟨claim, record, streamed⟩ := claimStream_eq_ok.mp stepped
  have listed := streamed.listed
  have computed := streamed.computed
  have sequence : s'.sequence = s.sequence := by
    rw [streamed.state]
    rfl
  have listed' : s'.claims.get claimId = some (claim.paid paid s.sequence) := by
    rw [streamed.state]
    exact Store.get_set_self _ _ _
  obtain ⟨report, checked, vesting, cap, -⟩ := check_of_listed listed
  obtain ⟨report', checked', vesting', -, left', -⟩ := check_of_listed listed'
  obtain ⟨positive, amount⟩ := kit_amount kept listed (getDailyOutflow_nonneg run) computed
  refine ⟨report, report', checked, checked', ?_, positive, ?_, ?_, ?_⟩
  · rw [vesting]
    exact decide_eq_true (Int.ofNat_le.mpr streamed.cooled)
  · rw [vesting, cap]
    exact amount
  · obtain ⟨-, vested, vestedNow, within⟩ := transferAmount_ok computed
    have nonneg := (kept.claims _ _ listed).positive.le
    have nonneg' : 0 ≤ (claim.paid paid s.sequence).entitlement := nonneg
    have vestedThen : vestedTotal s' (claim.paid paid s.sequence) = .ok vested := by
      rw [← vestedNow, vestedTotal, vestedTotal, sequence]
      rfl
    rw [vesting', vesting, kit_claimable nonneg vestedNow, kit_claimable nonneg' vestedThen]
    simp only [Claim.paid]
    omega
  · rw [left', sequence]
    exact add_sub_cancel_left _ _

/-- A claim is paid on its tenth day what the kit shows. -/
theorem kit_foretells_payout_sample :
    ∃ log s s', (poolSystem sampleHost).Run System.anyStep log s ∧ ∃ report report',
      ReviewerKit.check s (computeClaimId sampleHost (party 11) 0) = some report ∧
      ReviewerKit.check s' (computeClaimId sampleHost (party 11) 0) = some report' ∧
      report.vesting.cooldownPassed = true ∧ (0 : Int) < 666 ∧
      666 = min report.vesting.claimable
        (report.cap.capToday - getDailyOutflow s (currentDay s)) ∧
      report'.vesting.claimable = report.vesting.claimable - 666 ∧
      report'.left = ReviewerKit.collectionInactivityLedgers := by
  obtain ⟨log, s, run, ⟨paid, s'⟩, stepped, amount⟩ :=
    System.exists_run_of_replay (poolSystem sampleHost) System.anyStep samplePool_deployed
      (sampleOpening 10000 ++ [afterDays 10])
      (fun _ s => ∃ paid, claimStream sampleHost (.of [party 11] ⟨0, 0, 0, 0⟩) s
        (computeClaimId sampleHost (party 11) 0) (party 21) = .ok paid ∧ paid.1 = 666)
      (by decide +kernel)
  obtain rfl : paid = 666 := amount
  exact ⟨log, s, s', run, kit_foretells_payout sampleHost run stepped⟩

/-! ### Refusals -/

/-- What the kit shows where a payout is refused: the cause of each refusal of the pool that
its figures are about, and of a refusal of the token that there is none. -/
def Shown (host : Host D) (env : Env) (s : State D) (report : ReviewerKit.Report) :
    Failure → Prop
  | .error .cooldownNotPassed =>
      report.vesting.cooldownPassed = false ∧ 0 < report.vesting.ledgersToCooldown
  | .error .nothingVested => report.vesting.claimable = 0
  | .error .dailyOutflowCapReached =>
      0 < report.vesting.claimable ∧ report.cap.capToday ≤ getDailyOutflow s (currentDay s)
  | .error .insufficientLiquidity => liquidBalance host s < report.vesting.claimable
  | .external code =>
      env.refusal = some code ∧ env.tokenAccepts = false ∧
        report.vesting.cooldownPassed = true ∧ 0 < report.vesting.claimable ∧
        getDailyOutflow s (currentDay s) < report.cap.capToday ∧
        min report.vesting.claimable (report.cap.capToday - getDailyOutflow s (currentDay s)) ≤
          liquidBalance host s
  | .error _ | .overflow | .trap => True

omit [DecidableEq D] in
@[simp] theorem shown_overflow {report : ReviewerKit.Report} :
    Shown host env s report .overflow := trivial

omit [DecidableEq D] in
@[simp] theorem shown_trap {report : ReviewerKit.Report} : Shown host env s report .trap := trivial

omit [DecidableEq D] in
theorem shown_error {report : ReviewerKit.Report} {e : PoolError}
    (other : e ∉ [PoolError.cooldownNotPassed, .nothingVested, .dailyOutflowCapReached,
      .insufficientLiquidity]) : Shown host env s report (.error e) := by
  cases e <;> trivial

omit [DecidableEq D] in
/-- The kit has the contract's name for every error of a payout. -/
theorem explainError_of_claimStream {claimId : D} {beneficiary : Address} {e : PoolError}
    (listed : e ∈ (Call.claimStream claimId beneficiary).errors) :
    ReviewerKit.explainError (some e.code) = .named e e.code := by
  simp only [Call.errors, List.mem_cons, List.not_mem_nil, or_false] at listed
  rcases listed with rfl | rfl | rfl | rfl | rfl | rfl | rfl | rfl | rfl | rfl <;> rfl

/-- A number the kit has no word for is shown as it is. -/
theorem explainError_external {given code : Nat}
    (unnamed : ReviewerKit.explainError (some given) = .notAStreamError code) : given = code := by
  rw [ReviewerKit.explainError] at unnamed
  split at unnamed
  · cases unnamed
  · cases unnamed
    rfl

/-- What is refused of an amount is shown. -/
theorem transferAmount_shown (kept : (s.books host).WellKept)
    (listed : s.claims.get claimId = some claim) {report : ReviewerKit.Report}
    (vesting : report.vesting = ReviewerKit.vestingSnapshot claim s.sequence)
    (cap : report.cap = ReviewerKit.outflowCap s.totalStaked s.totalAllocated claim) :
    Within (Shown host env s report) (transferAmount s claim) := by
  have nonneg := (kept.claims _ _ listed).positive.le
  simp only [transferAmount, within_bind, within_i128, within_rejectIf, within_ok, i128_eq_ok,
    rejectIf_eq_ok, Shown, vesting, cap, implies_true, true_and, and_true]
  refine ⟨by simp [vestedTotal, Shown], fun vested vestedNow claimable isDue => ?_⟩
  obtain ⟨-, rfl⟩ := isDue
  rw [kit_claimable nonneg vestedNow]
  refine ⟨fun none => max_eq_left none, fun _ due => ?_⟩
  refine ⟨by simp [outflowCap, dynamicOutflowBps, within_ite, Shown], fun limit capped spent => ?_⟩
  refine ⟨(not_le.mp due).trans_le (le_max_right _ _), ?_⟩
  have nothing : saturatingSub limit (getDailyOutflow s (currentDay s)) ≤ 0 :=
    (min_le_iff.mp spent).resolve_left due
  have within : limit ≤ getDailyOutflow s (currentDay s) := by
    by_contra above
    have room := (le_saturateI128_iff (by decide) (by decide)).mpr
      (Int.add_one_le_of_lt (sub_pos.mpr (not_le.mp above)))
    exact absurd nothing (not_le.mpr (Int.lt_of_add_one_le room))
  calc (ReviewerKit.outflowCap s.totalStaked s.totalAllocated claim).capToday
      ≤ payoutCap (capBase s claim) s.totalAllocated := (kit_cap kept.allocated_nonneg claim).1
    _ = limit := (outflowCap_eq capped).symm
    _ ≤ getDailyOutflow s (currentDay s) := within

omit [DecidableEq D] in
/-- Of a refusal of the token the kit shows no cause. -/
theorem shown_refused {report : ReviewerKit.Report}
    (vesting : report.vesting = ReviewerKit.vestingSnapshot claim s.sequence)
    (cap : report.cap = ReviewerKit.outflowCap s.totalStaked s.totalAllocated claim)
    (cooled : claim.cooldownEndsLedger ≤ s.sequence)
    (due : 0 < min (ReviewerKit.vestingSnapshot claim s.sequence).claimable
      ((ReviewerKit.outflowCap s.totalStaked s.totalAllocated claim).capToday -
        getDailyOutflow s (currentDay s)))
    (covered : min (ReviewerKit.vestingSnapshot claim s.sequence).claimable
      ((ReviewerKit.outflowCap s.totalStaked s.totalAllocated claim).capToday -
        getDailyOutflow s (currentDay s)) ≤ liquidBalance host s)
    (refuses : env.tokenAccepts = false) : Shown host env s report env.refused := by
  obtain ⟨claimable, room⟩ := lt_min_iff.mp due
  rcases env.refused_or with trapped | ⟨code, refusal, typed⟩
  · rw [trapped]
    trivial
  · rw [typed]
    simp only [Shown, vesting, cap]
    exact ⟨refusal, refuses, decide_eq_true (Int.ofNat_le.mpr cooled), claimable,
      sub_pos.mp room, covered⟩

theorem claimStream_shown {guard : System.Guard (State D) (Action D) (Output D)}
    (run : (poolSystem host).Run guard log s) (listed : s.claims.get claimId = some claim)
    {report : ReviewerKit.Report}
    (vesting : report.vesting = ReviewerKit.vestingSnapshot claim s.sequence)
    (cap : report.cap = ReviewerKit.outflowCap s.totalStaked s.totalAllocated claim) :
    Within (Shown host env s report) (claimStream host env s claimId beneficiary) := by
  have kept := wellKept_of_run run
  simp [claimStream, shown_error]
  intro _ found listed' _ _ _
  obtain rfl := Option.mem_unique listed listed'
  refine ⟨fun early => ?_, fun cooled _ _ _ _ _ => ⟨?_, fun amount computed => ⟨fun short => ?_,
    fun covered _ _ refuses => ?_⟩⟩⟩
  · rw [Shown, vesting]
    exact ⟨decide_eq_false (by omega), lt_max_of_lt_right (by omega)⟩
  · exact transferAmount_shown kept listed vesting cap
  · have paid := (kit_amount kept listed (getDailyOutflow_nonneg run) computed).2
    rw [Shown, vesting]
    exact short.trans_le (paid.trans_le (min_le_left _ _))
  · obtain ⟨positive, paid⟩ := kit_amount kept listed (getDailyOutflow_nonneg run) computed
    exact shown_refused vesting cap cooled (paid ▸ positive) (paid ▸ covered)
      (refuses positive.le covered)

/-- In every run the kit has the contract's own name for every error with which the pool
refuses a payout, and its figures show the cause: ledgers left of the cooldown, nothing
claimable, a cap that the day's payouts have reached, or less liquidity than is claimable.
What it calls no error of a payout is the token's error, and where the token refuses its
figures show that nothing of the pool stood in the way. -/
theorem kit_explains_refusal (host : Host D) {log : Log D} {s : State D}
    (run : (poolSystem host).Run System.anyStep log s) {env : Env} {claimId : D}
    {beneficiary : Address} {report : ReviewerKit.Report} {failure : Failure}
    (checked : ReviewerKit.check s claimId = some report)
    (refused : claimStream host env s claimId beneficiary = .error failure) :
    Shown host env s report failure ∧
      (∀ e, failure = .error e →
        ReviewerKit.explainError failure.number = .named e e.code) ∧
      ∀ code, ReviewerKit.explainError failure.number = .notAStreamError code →
        failure = .external code := by
  have dispatched : dispatch host env s (.claimStream claimId beneficiary) = .error failure := by
    rw [dispatch, refused]
    rfl
  have reported := dispatch_within (registered_of_run run) _ _ dispatched
  have named : ∀ e, failure = .error e →
      ReviewerKit.explainError failure.number = .named e e.code := by
    rintro e rfl
    exact explainError_of_claimStream reported
  obtain ⟨claim, listed, rfl⟩ := Option.map_eq_some_iff.mp checked
  refine ⟨claimStream_shown run listed rfl rfl _ refused, named, fun code unnamed => ?_⟩
  cases failure with
  | error e =>
      have clash := (named e rfl).symm.trans unnamed
      cases clash
  | external given => rw [explainError_external unnamed]
  | overflow | trap => cases unnamed

/-- On its tenth day a claim is due, and its beneficiary has no account: the kit shows no
cause, and the number is none of a payout. -/
theorem kit_explains_refusal_sample :
    ∃ log s, ∃ report : ReviewerKit.Report, (poolSystem sampleHost).Run System.anyStep log s ∧
      ReviewerKit.explainError (some 6) = .notAStreamError 6 ∧
      Shown sampleHost
        { Env.of [party 11] ⟨0, 0, 0, 0⟩ with tokenAccepts := false, refusal := some 6 } s report
        (.external 6) ∧
      (∀ e, Failure.external 6 = .error e →
        ReviewerKit.explainError (some 6) = .named e e.code) ∧
      ∀ code, ReviewerKit.explainError (some 6) = .notAStreamError code →
        Failure.external 6 = .external code := by
  obtain ⟨log, s, run, ⟨report, checked, -⟩, refused⟩ :=
    System.exists_run_of_replay (poolSystem sampleHost) System.anyStep samplePool_deployed
      (sampleOpening 10000 ++ [afterDays 10])
      (fun _ s => (∃ report ∈ ReviewerKit.check s (computeClaimId sampleHost (party 11) 0),
          report.left = 97 * ReviewerKit.ledgersPerDay) ∧
        ¬ Avoids (.external 6) (claimStream sampleHost
          { Env.of [party 11] ⟨0, 0, 0, 0⟩ with tokenAccepts := false, refusal := some 6 } s
          (computeClaimId sampleHost (party 11) 0) (party 21))) (by decide +kernel)
  exact ⟨log, s, report, run, rfl,
    kit_explains_refusal sampleHost run checked (not_avoids.mp refused)⟩

/-! ### The collection clock -/

/-- The clock of a claim in effect was started by its cooldown or in the past. -/
def CollectionStarted (r : Register D) : Prop :=
  Store.All (fun _ claim => claim.status = .active →
    claim.lastCollectedLedger ≤ max claim.cooldownEndsLedger r.sequence) r.claims

variable {r r' : Register D}

theorem Claim.restarted_started (claim : Claim) (now : Nat)
    (active : (claim.restarted now).status = .active) :
    (claim.restarted now).lastCollectedLedger ≤
      max (claim.restarted now).cooldownEndsLedger now := by
  cases status : claim.status with
  | active => simp [Claim.restarted, status]
  | _ => simp [Claim.restarted, status] at active

/-- Only a payout and an unsuspension set the clock of a claim in effect to now. -/
theorem CollectionStarted.step (started : CollectionStarted r)
    (step : RegisterStep host action output r r') : CollectionStarted r' := by
  cases step with
  | clock advances =>
      refine started.imp fun _ claim before active => (before active).trans ?_
      exact max_le_max_left _ advances
  | queued | queueExpired | unlocked | approvalExpired | staleExpired | droppedPending
  | reversed => exact started.set nofun
  | admitted _ admission | released _ _ _ _ _ admission =>
      refine started.set fun active => ?_
      rcases admission with ⟨rfl, -⟩ | ⟨rfl, -⟩ <;> cases active
  | approved | overrideExecuted => exact started.set fun _ => le_max_left _ _
  | streamed => exact started.set fun _ => le_max_right _ _
  | restarted => exact started.set (Claim.restarted_started _ _)
  | _ => exact started

theorem collectionStarted_of_run {guard : System.Guard (State D) (Action D) (Output D)}
    (run : (poolSystem host).Run guard log s) : CollectionStarted s.register := by
  apply run.invariant (P := fun _ s => CollectionStarted s.register)
  · intro s deployed
    obtain ⟨-, noClaims, -⟩ := deployed_books deployed
    simp only [CollectionStarted, State.register, noClaims, Store.all_empty]
  · intro log s action output s' _ started _ stepped
    exact started.step (step_registers stepped)

/-- The clock of a claim in effect is not set back behind a ledger. -/
def ClockFrom (claimId : D) (ledger : Nat) (r : Register D) : Prop :=
  ∀ claim, r.claims.get claimId = some claim → claim.status = .active →
    ledger ≤ claim.lastCollectedLedger

theorem clockFrom_of_set {claims : Store D Claim} {owner : D} {written : Claim} {ledger : Nat}
    (listed' : (claims.set owner written).get claimId = some claim')
    (active : claim'.status = .active)
    (before : claims.get claimId = some claim' → ledger ≤ claim'.lastCollectedLedger)
    (now : owner = claimId → written.status = .active → ledger ≤ written.lastCollectedLedger) :
    ledger ≤ claim'.lastCollectedLedger := by
  rcases Store.get_set_eq_some.mp listed' with ⟨same, rfl⟩ | ⟨-, listed⟩
  · exact now same.symm active
  · exact before listed

/-- No step sets the clock of a claim back but an unsuspension that names it. -/
theorem ClockFrom.step {ledger : Nat} (kept : ClockFrom claimId ledger r)
    (started : CollectionStarted r) (near : ledger ≤ r.sequence + cooldownLedgers)
    (unnamed : ∀ wallet, action.restarts ≠ some (wallet, claimId))
    (step : RegisterStep host action output r r') : ClockFrom claimId ledger r' := by
  intro claim' listed' active
  cases step with
  | queued | queueExpired | unlocked | approvalExpired | staleExpired | droppedPending
  | reversed =>
      exact clockFrom_of_set listed' active (fun listed => kept _ listed active) nofun
  | admitted _ admission | released _ _ _ _ _ admission =>
      refine clockFrom_of_set listed' active (fun listed => kept _ listed active) fun _ now => ?_
      rcases admission with ⟨rfl, -⟩ | ⟨rfl, -⟩ <;> cases now
  | approved | overrideExecuted =>
      exact clockFrom_of_set listed' active (fun listed => kept _ listed active) fun _ _ => near
  | streamed _ listed was cooled =>
      refine clockFrom_of_set listed' active (fun listed => kept _ listed active) fun same _ => ?_
      have last := started _ _ listed was
      rw [max_eq_right cooled] at last
      subst same
      exact (kept _ listed was).trans last
  | @restarted _ _ id claim =>
      refine clockFrom_of_set listed' active (fun listed => kept _ listed active) fun same _ => ?_
      subst same
      exact absurd rfl (unnamed claim.wallet)
  | _ => exact kept _ listed' active

/-- A claim is swept a full window after its clock was started. -/
theorem ClockFrom.swept {ledger : Nat} (kept : ClockFrom claimId ledger r)
    (step : RegisterStep host (.invoke env (.expireStaleClaim claimId)) output r r') :
    ledger + collectionInactivityLedgers < r.sequence := by
  cases step with
  | staleExpired listed active _ _ _ late =>
      have started := kept _ listed active
      omega
  | funds fundsOnly => cases fundsOnly

/-- The steps that do not start the clock of a claim over by name. -/
def leavesClock (claimId : D) : System.Guard (State D) (Action D) (Output D) :=
  fun _ _ action => ∀ wallet, action.restarts ≠ some (wallet, claimId)

/-- The clock of a claim in effect stays, in every run from there. -/
theorem clockFrom_of_run {opening : State D} {past : Log D}
    (reached : (poolSystem host).Run System.anyStep past opening)
    (listed : opening.claims.get claimId = some claim)
    (run : ((poolSystem host).startingAt opening).Run (leavesClock claimId) log s) :
    opening.sequence ≤ s.sequence ∧ CollectionStarted s.register ∧
      ClockFrom claimId claim.lastCollectedLedger s.register := by
  have near := ((clocksNear_of_run reached).claims _ _ listed).collected
  apply run.invariant (P := fun _ s => opening.sequence ≤ s.sequence ∧
    CollectionStarted s.register ∧ ClockFrom claimId claim.lastCollectedLedger s.register)
  · rintro s rfl
    refine ⟨le_refl _, collectionStarted_of_run reached, fun other found _ => ?_⟩
    obtain rfl := Option.mem_unique listed found
    exact le_refl _
  · intro log s action output s' _ before unnamed stepped
    obtain ⟨later, started, kept⟩ := before
    have step := step_registers stepped
    refine ⟨later.trans step.sequence_le, started.step step, kept.step started ?_ unnamed step⟩
    exact near.trans (Nat.add_le_add_right later _)

/-! ### The deadline -/

/-- The kit waits as long as the contract. -/
theorem kit_window :
    (collectionInactivityLedgers : Int) = ReviewerKit.collectionInactivityLedgers := rfl

/-- A claim in effect can be swept exactly when the kit shows less than no ledger left, as
long as something of it is unpaid and its stake is not suspended. -/
theorem expireStaleClaim_iff {guard : System.Guard (State D) (Action D) (Output D)}
    (run : (poolSystem host).Run guard log s) (listed : s.claims.get claimId = some claim)
    (active : claim.status = .active) :
    (∃ s', expireStaleClaim s claimId = .ok s') ↔
      (claim.lastCollectedLedger + ReviewerKit.collectionInactivityLedgers - s.sequence < 0 ∧
        claim.streamed < claim.entitlement ∧ isSuspended s.stakes claim.wallet = false) := by
  have kept := wellKept_of_run run
  obtain ⟨record, stored⟩ : ∃ record, s.stakes.get claim.wallet = some record :=
    kept.staked _ _ listed
  have late : collectionInactivityLedgers < s.sequence - claim.lastCollectedLedger ↔
      (claim.lastCollectedLedger + ReviewerKit.collectionInactivityLedgers - s.sequence : Int) <
        0 := by
    rw [← kit_window]
    omega
  have fits : claim.streamed < claim.entitlement →
      InI128 (claim.entitlement - claim.streamed) := by
    intro unpaid
    have outstanding : claim.entitlement - claim.streamed ≤ claim.outstanding := by
      rw [Claim.outstanding, active]
      exact le_max_left _ _
    exact ⟨le_trans (by decide) (sub_pos.mpr unpaid).le,
      (outstanding.trans (kept.outstanding_le listed)).trans kept.allocatedFits⟩
  rw [isSuspended_of_get stored, ← late]
  simp [expireStaleClaim, listed, active, stored]
  constructor
  · rintro ⟨unpaid, unsuspended, stale, -⟩
    exact ⟨Nat.lt_sub_iff_add_lt.mpr stale, unpaid, unsuspended⟩
  · rintro ⟨stale, unpaid, unsuspended⟩
    exact ⟨unpaid, unsuspended, Nat.lt_sub_iff_add_lt.mp stale, fits unpaid⟩

/-- The deadline the kit shows of a claim in effect is kept: the claim can be swept when less
than no ledger is left and not at the deadline itself, where the kit already calls it passed,
and no run from there sweeps it up to the deadline unless the admin starts its clock over
by name. -/
theorem kit_deadline_kept (host : Host D) {past : Log D} {s : State D}
    (reached : (poolSystem host).Run System.anyStep past s) {claimId : D} {claim : Claim}
    {report : ReviewerKit.Report} (listed : s.claims.get claimId = some claim)
    (active : claim.status = .active) (checked : ReviewerKit.check s claimId = some report) :
    ((∃ s', expireStaleClaim s claimId = .ok s') ↔
        report.left < 0 ∧ claim.streamed < claim.entitlement ∧
          isSuspended s.stakes claim.wallet = false) ∧
      ∀ {log : Log D} {s' : State D},
        ((poolSystem host).startingAt s).Run (leavesClock claimId) log s' →
          ∀ e ∈ log, ∀ env, e.action = .invoke env (.expireStaleClaim claimId) →
            report.deadline < e.pre.sequence := by
  rw [ReviewerKit.check, listed] at checked
  obtain rfl := Option.some.inj checked
  refine ⟨expireStaleClaim_iff reached listed active, fun run => ?_⟩
  apply run.entries (P := fun e => ∀ env, e.action = .invoke env (.expireStaleClaim claimId) →
    (claim.lastCollectedLedger + ReviewerKit.collectionInactivityLedgers : Int) < e.pre.sequence)
  intro log s₁ action output s₂ run₁ _ stepped env sweeps
  subst sweeps
  obtain ⟨-, -, kept⟩ := clockFrom_of_run reached listed run₁
  have step : poolStep host s₁ (.invoke env (.expireStaleClaim claimId)) = .ok (output, s₂) :=
    stepped
  have swept : claim.lastCollectedLedger + collectionInactivityLedgers < s₁.sequence :=
    kept.swept (step_registers step)
  rw [← kit_window]
  exact_mod_cast swept

/-- A claim that is collected on its tenth day is swept on the day after its hundredth
without a collection. -/
theorem kit_deadline_kept_sample :
    ∃ past s, ∃ claim : Claim, ∃ report : ReviewerKit.Report,
      (poolSystem sampleHost).Run System.anyStep past s ∧
      report.left = 100 * ReviewerKit.ledgersPerDay ∧
      ((∃ s', expireStaleClaim s (computeClaimId sampleHost (party 11) 0) = .ok s') ↔
        report.left < 0 ∧ claim.streamed < claim.entitlement ∧
          isSuspended s.stakes claim.wallet = false) ∧
      ∀ {log : Log Nat} {s' : State Nat},
        ((poolSystem sampleHost).startingAt s).Run
            (leavesClock (computeClaimId sampleHost (party 11) 0)) log s' →
          ∀ e ∈ log, ∀ env,
            e.action = .invoke env (.expireStaleClaim (computeClaimId sampleHost (party 11) 0)) →
              report.deadline < e.pre.sequence := by
  obtain ⟨past, s, reached, claim, listed, active, report, checked, left⟩ :=
    System.exists_run_of_replay (poolSystem sampleHost) System.anyStep samplePool_deployed
      (sampleOpening 10000 ++
        [afterDays 10,
          callBy 11 (.claimStream (computeClaimId sampleHost (party 11) 0) (party 21))])
      (fun _ s => ∃ claim ∈ s.claims.get (computeClaimId sampleHost (party 11) 0),
        claim.status = .active ∧
          ∃ report ∈ ReviewerKit.check s (computeClaimId sampleHost (party 11) 0),
            report.left = 100 * ReviewerKit.ledgersPerDay) (by decide +kernel)
  exact ⟨past, s, claim, report, reached, left,
    kit_deadline_kept sampleHost reached listed active checked⟩

end ProtectionPool
