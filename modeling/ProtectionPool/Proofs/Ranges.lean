/-
Module: ProtectionPool.Proofs.Ranges
Purpose: How large the amounts of a run become while the cap of the pool is within
  what the points formula can multiply.  A deposit is bounded by the cap it was made
  under, a claim by its deposit, the counters by the aggregates, and the points of a
  wallet by what the largest deposit earns over the whole life of the pool, since
  tenures apart earn no more than one tenure of the same length.
Trusted boundary: none
Main exports: stakeLimit, PointsWithin, Representable, State.InRange, inRange_of_run
-/
import ProtectionPool.Books.Position
import ProtectionPool.Proofs.DailyAdmission
import ProtectionPool.Proofs.DailyOutflow
import ProtectionPool.Proofs.Points
import ProtectionPool.Proofs.StakeBounds

namespace ProtectionPool

open Checked

variable {D : Type}

/-! ### The range -/

/-- The ledger numbers the pool is considered over. -/
def ledgerLimit : Nat := 2 ^ 31

/-- The largest deposit whose points still fit after the longest tenure. -/
def stakeLimit : Int := i128Max / tenurePoints (ledgerLimit - 1)

/-- The largest claim a deposit within the limit carries. -/
def coverLimit : Int := stakeLimit * tierARatio

theorem stakeLimit_bounds : 0 < stakeLimit ∧ coverLimit * vestingLedgers ≤ i128Max := by
  decide

/-- The limit leaves room for the points of any tenure. -/
theorem stakeLimit_mul_le {ledgers : Nat} (within : ledgers < ledgerLimit) :
    stakeLimit * tenurePoints ledgers ≤ i128Max :=
  calc stakeLimit * tenurePoints ledgers
      ≤ stakeLimit * tenurePoints (ledgerLimit - 1) :=
        Int.mul_le_mul_of_nonneg_left (tenurePoints_accrual.mono (Nat.le_sub_one_of_lt within))
          stakeLimit_bounds.1.le
    _ ≤ i128Max := Int.ediv_mul_le _ (by decide)

/-- The cap admits no deposit above the limit, the aggregates leave room for the
basis points of the payout and admission caps, and the counter and the clocks for
what is added to them. -/
structure Representable (s : State D) : Prop where
  cap : (s.poolCap * maxStakeBps).tdiv stakeBpsDenominator ≤ stakeLimit
  staked : InI128 (s.totalStaked * 2500)
  allocated : InI128 (s.totalAllocated * bpsDenominator)
  stakers : s.totalStakers + 1 < 2 ^ 32
  sequence : s.sequence < ledgerLimit
  timestamp : s.timestamp + claimWindowSeconds < 2 ^ 64

instance (s : State D) : Decidable (Representable s) :=
  decidable_of_iff
    ((s.poolCap * maxStakeBps).tdiv stakeBpsDenominator ≤ stakeLimit ∧
      InI128 (s.totalStaked * 2500) ∧ InI128 (s.totalAllocated * bpsDenominator) ∧
      s.totalStakers + 1 < 2 ^ 32 ∧ s.sequence < ledgerLimit ∧
      s.timestamp + claimWindowSeconds < 2 ^ 64)
    ⟨fun ⟨cap, staked, allocated, stakers, sequence, timestamp⟩ =>
        ⟨cap, staked, allocated, stakers, sequence, timestamp⟩,
      fun fits => ⟨fits.cap, fits.staked, fits.allocated, fits.stakers, fits.sequence,
        fits.timestamp⟩⟩

/-- A claim is within what a deposit covers, and its snapshot leaves room for the
basis points of the payout cap. -/
structure Claim.InRange (claim : Claim) : Prop where
  entitlement : claim.entitlement ≤ coverLimit
  streamed : claim.streamed ≤ coverLimit
  snapshot : InI128 (claim.totalStakedSnapshot * 2500)

variable {idOf : Address → BytesN 32 → D} {event : BookEvent D} {b b' : Books D}
  {host : Host D} {s s' : State D} {r r' : Register D} {action : Action D} {output : Output D}

/-! ### Deposits -/

variable [DecidableEq D]

/-- A deposit that is not made above the limit keeps all within it. -/
theorem BookStep.deposits_le (step : BookStep idOf event b b')
    (within : Store.All (fun _ record => record.amount ≤ stakeLimit) b.stakes)
    (deposited : ∀ wallet, event = .staked wallet →
      ∀ record ∈ b'.stakes.get wallet, record.amount ≤ stakeLimit) :
    Store.All (fun _ record => record.amount ≤ stakeLimit) b'.stakes := by
  intro wallet record' stored'
  cases step.depositChange stored' with
  | made deposit => exact deposited wallet deposit record' stored'
  | left stored empty => exact empty.trans_le stakeLimit_bounds.1.le
  | kept stored amount => exact amount.trans_le (within _ _ stored)

/-! ### Claims -/

theorem tierRatio_bounds {tier : Nat} {ratio : Int} (rated : tierRatio tier = .ok ratio) :
    0 ≤ ratio ∧ ratio ≤ tierARatio := by
  rw [tierRatio.eq_def] at rated
  split at rated <;> cases rated <;> decide

/-- A tier covers at most the largest ratio of a deposit. -/
theorem tierCap_le {amount cap : Int} {tier : Nat} (nonneg : 0 ≤ amount)
    (computed : tierCap amount tier = .ok cap) : cap ≤ amount * tierARatio := by
  simp only [tierCap, bind_eq_ok, i128_eq_ok, Except.ok.injEq] at computed
  obtain ⟨ratio, rated, _, ⟨-, rfl⟩, _, ⟨-, rfl⟩, rfl⟩ := computed
  calc _ = amount * ratio := Int.mul_tdiv_cancel _ (by decide)
    _ ≤ amount * tierARatio := Int.mul_le_mul_of_nonneg_left (tierRatio_bounds rated).2 nonneg

/-- What a deposit within the limit covers is within the limit of claims. -/
theorem covered_le {amount cap : Int} {tier : Nat} (nonneg : 0 ≤ amount)
    (within : amount ≤ stakeLimit) (computed : tierCap amount tier = .ok cap) :
    cap ≤ coverLimit :=
  (tierCap_le nonneg computed).trans (Int.mul_le_mul_of_nonneg_right within (by decide))

/-- A claim as it is first recorded is in range with its entitlement. -/
theorem freshClaim_inRange {wallet : Address} {txHash : BytesN 32}
    {hackTimestamp tier deadline : Nat} {entitlement stake : Int} {status : ClaimStatus}
    (covered : entitlement ≤ coverLimit) :
    (freshClaim wallet txHash hackTimestamp entitlement stake tier status deadline).InRange where
  entitlement := covered
  streamed := by
    show 0 ≤ coverLimit
    decide
  snapshot := by
    show InI128 (0 * 2500)
    decide

/-- Activation keeps a claim in range that takes its snapshot within the range. -/
theorem Claim.InRange.activated {claim : Claim} (inRange : claim.InRange) {stake snapshot : Int}
    (fits : InI128 (snapshot * 2500)) (cooldownEnds : Nat) :
    (claim.activated stake snapshot cooldownEnds).InRange :=
  ⟨inRange.entitlement, inRange.streamed, fits⟩

/-- What an override carries over of a claim in range is in range. -/
theorem carriedStreamed_le {existing : Option Claim}
    (inRange : ∀ claim ∈ existing, Claim.InRange claim) :
    carriedStreamed existing ≤ coverLimit := by
  have none : 0 ≤ coverLimit := by decide
  cases existing with
  | none => exact none
  | some claim =>
      simp only [carriedStreamed]
      split_ifs
      · exact (inRange claim rfl).streamed
      · exact none

/-- Every entry keeps the claims in range that is made on deposits within the limit
and takes its snapshot of an aggregate within the range. -/
theorem BookStep.claims_inRange (step : BookStep idOf event b b') (kept : b.WellKept)
    (deposits : Store.All (fun _ record => record.amount ≤ stakeLimit) b.stakes)
    (staked : InI128 (b.totalStaked * 2500))
    (inRange : Store.All (fun _ claim => Claim.InRange claim) b.claims) :
    Store.All (fun _ claim => Claim.InRange claim) b'.claims := by
  cases step with
  | queued _ stored eligible | admitted _ stored eligible =>
      obtain ⟨cap, capped, covered⟩ := eligible.covered
      exact inRange.set (freshClaim_inRange
        (covered.trans (covered_le eligible.funded.le (deposits _ _ stored) capped)))
  | released listed => exact inRange.set (freshClaim_inRange (inRange _ _ listed).entitlement)
  | approved listed => exact inRange.update listed fun claim => claim.activated staked _
  | streamed listed active unpaid positive vested =>
      have claimKept := kept.claims _ _ listed
      have claim := inRange _ _ listed
      refine inRange.set ⟨claim.entitlement, ?_, claim.snapshot⟩
      exact (vested claimKept.positive.le (claimKept.schedule active)).trans claim.entitlement
  | overridden _ stored _ funded _ capped covered =>
      have entitlement := covered.trans (covered_le funded.le (deposits _ _ stored) capped)
      exact inRange.set ⟨entitlement, carriedStreamed_le fun claim listed => inRange _ _ listed,
        staked⟩
  | queueExpired listed | unlocked listed | approvalExpired listed | staleExpired listed
  | droppedPending listed | reversed listed | restarted _ listed =>
      exact inRange.update listed fun claim => ⟨claim.entitlement, claim.streamed, claim.snapshot⟩
  | staked | exited | redeemed | deployed | kept | treasury | clock | amended => exact inRange

/-! ### Points -/

/-- Banked points are at most what the largest deposit earned by then. -/
def PointsWithin (s : State D) (wallet : Address) : Prop :=
  0 ≤ getPointsBalance s wallet ∧ getPointsBalance s wallet ≤
    stakeLimit * tenurePoints (creditedUntil s.sequence (s.stakes.get wallet))

theorem stakeLimit_accrual : Accrual fun ledgers => stakeLimit * tenurePoints ledgers :=
  tenurePoints_accrual.scale stakeLimit_bounds.1.le

/-- The bound is the one of a schedule that starts with the first ledger. -/
theorem pointsWithin_iff {wallet : Address} : PointsWithin s wallet ↔
    0 ≤ getPointsBalance s wallet ∧
      BankedWithin (fun ledgers => stakeLimit * tenurePoints ledgers) 0 0 s wallet := by
  simp only [PointsWithin, BankedWithin, Nat.zero_le, true_and, zero_add, Nat.sub_zero]

omit [DecidableEq D] in
/-- What a deposit within the limit has earned is at most what the largest one
has. -/
theorem computePointsForRecord_le {record : StakeRecord D} {points : Int}
    (nonneg : 0 ≤ record.amount) (within : record.amount ≤ stakeLimit)
    (computed : computePointsForRecord s record = .ok points) :
    points ≤ stakeLimit * tenurePoints (s.sequence - record.stakedAtLedger) := by
  rw [computePointsForRecord_ok computed]
  split_ifs
  · exact stakeLimit_accrual.nonneg _
  · calc _ ≤ tenurePoints (s.sequence - record.stakedAtLedger) * max record.amount 0 :=
          earnedPoints_le
      _ = record.amount * tenurePoints (s.sequence - record.stakedAtLedger) := by
          rw [max_eq_left nonneg, mul_comm]
      _ ≤ _ := Int.mul_le_mul_of_nonneg_right within (tenurePoints_accrual.nonneg _)

/-- What a wallet has banked and what its deposit has earned are together at most what
the largest deposit earned by now. -/
theorem PointsWithin.add_le {wallet : Address} {record : StakeRecord D} {points : Int}
    (within : PointsWithin s wallet) (stored : s.stakes.get wallet = some record)
    (nonneg : 0 ≤ record.amount) (limited : record.amount ≤ stakeLimit)
    (past : record.stakedAtLedger ≤ s.sequence)
    (computed : computePointsForRecord s record = .ok points) :
    getPointsBalance s wallet + points ≤ stakeLimit * tenurePoints s.sequence := by
  have together := (pointsWithin_iff.mp within).2.add_le stakeLimit_accrual stored past computed
    (computePointsForRecord_le nonneg limited computed)
  rwa [zero_add, Nat.sub_zero] at together

/-- Every step keeps the banked points within what was earned by then. -/
theorem pointsWithin_of_step (stepped : poolStep host s action = .ok (output, s'))
    (amounts : Store.All (fun _ record => 0 ≤ record.amount) s.stakes)
    (deposits : Store.All (fun _ record => record.amount ≤ stakeLimit) s.stakes)
    (dated : Store.All (fun _ record => record.stakedAtLedger ≤ s.sequence) s.stakes)
    {wallet : Address} (within : PointsWithin s wallet) : PointsWithin s' wallet := by
  obtain ⟨nonneg, banked⟩ := pointsWithin_iff.mp within
  refine pointsWithin_iff.mpr ⟨balance_nonneg_of_step stepped nonneg, ?_⟩
  refine banked.step stakeLimit_accrual (le_refl 0) dated ?_ stepped
  intro record points stored computed
  exact computePointsForRecord_le (amounts _ _ stored) (deposits _ _ stored) computed

/-! ### Counters -/

/-- Entitlements admitted on a day leave room for basis points of themselves, and the
oracle's submissions fit their counter. -/
structure AdmissionsWithin (counted : Int × Nat) : Prop where
  entitlement : 0 ≤ counted.1 ∧ counted.1 * bpsDenominator ≤ i128Max
  count : counted.2 < 2 ^ 32

theorem AdmissionsWithin.read {counter : Daily.Counter (Int × Nat)}
    (within : AdmissionsWithin counter.total) (today : Nat) :
    AdmissionsWithin (counter.read today) := by
  rw [Daily.Counter.read]
  split_ifs
  · exact ⟨by decide, by decide⟩
  · exact within

omit [DecidableEq D] in
/-- An admission within the limits of its day keeps the counters in range. -/
theorem WithinLimits.admissionsWithin {counted : Int × Nat} (limits : WithinLimits s counted)
    (fits : Representable s) (positive : 0 < counted.1)
    (before : AdmissionsWithin (getDailyEntitlement s (currentDay s))) :
    AdmissionsWithin (getDailyEntitlement s (currentDay s) + counted) := by
  obtain ⟨stress, stressed, within⟩ := limits.stressed
  have total := add_pos_of_nonneg_of_pos before.entitlement.1 positive
  refine ⟨⟨total.le, (stressCap_le stressed total within).trans fits.staked.2⟩, ?_⟩
  rcases Nat.eq_zero_or_pos counted.2 with none | some
  · rw [Prod.snd_add, none, add_zero]
    exact before.count
  · have limited := limits.limited some
    have stakers := fits.stakers
    rw [Prod.snd_add]
    omega

theorem admissionsWithin_of_step (stepped : poolStep host s action = .ok (output, s'))
    (fits : Representable s) (kept : (s.books host).WellKept)
    (within : AdmissionsWithin s.register.admissions.total) :
    AdmissionsWithin s'.register.admissions.total := by
  have step := step_registers stepped
  rw [step.admissions_eq]
  cases admits : action.admission host s.register s'.register with
  | none => exact within
  | some counted =>
      have positive := step.admission_pos (kept.claims.imp fun _ _ claim => claim.positive) admits
      exact (withinLimits_of_admission stepped admits).admissionsWithin fits positive
        (within.read (currentDay s))

/-- The payout counter is not negative. -/
theorem outflow_nonneg_of_step (stepped : poolStep host s action = .ok (output, s'))
    (nonneg : 0 ≤ s.register.outflow.total) : 0 ≤ s'.register.outflow.total := by
  have step := step_registers stepped
  rw [step.outflow_eq]
  cases pays : action.payment output with
  | none => exact nonneg
  | some paid =>
      have before : 0 ≤ s.register.outflow.read s.register.today := by
        rw [Daily.Counter.read]
        split_ifs
        · exact le_refl 0
        · exact nonneg
      exact add_nonneg before (step.payment_pos pays).le

/-! ### Every run -/

/-- What holds of a state while the cap and the aggregates stay in range. -/
structure State.InRange (s : State D) : Prop where
  cap : 0 < s.poolCap
  deposits : Store.All (fun _ record => record.amount ≤ stakeLimit) s.stakes
  dated : Store.All (fun _ record => record.stakedAtLedger ≤ s.sequence) s.stakes
  claims : Store.All (fun _ claim => Claim.InRange claim) s.claims
  points : ∀ wallet, PointsWithin s wallet
  admissions : AdmissionsWithin s.register.admissions.total
  outflow : 0 ≤ s.register.outflow.total

omit [DecidableEq D] in
/-- The cap stays positive. -/
theorem PositionStep.cap_pos {p : Position} (step : PositionStep host s action p)
    (positive : 0 < s.poolCap) : 0 < p.poolCap := by
  cases step with
  | capSet capPositive => exact capPositive
  | kept | vaultSet | deployBpsSet | deposited | redeemed | sharesMoved => exact positive

omit [DecidableEq D] in
/-- A deposit is at most the largest one admitted under the cap. -/
theorem stake_le_limit {env : Env} {staker beneficiary : Address} {amount : Int}
    (fits : Representable s) (stepped : stake host env s staker amount beneficiary = .ok s') :
    ∀ record ∈ s'.stakes.get staker, record.amount ≤ stakeLimit := by
  have staked := stake_eq_ok.mp stepped
  obtain ⟨most, mostIs, belowMost⟩ := staked.most
  simp only [maxStake, bind_eq_ok, i128_eq_ok, Except.ok.injEq] at mostIs
  obtain ⟨_, ⟨-, rfl⟩, rfl⟩ := mostIs
  rw [staked.state]
  rintro record stored
  obtain rfl := Option.some.inj ((Store.get_set_self _ _ _).symm.trans stored)
  exact belowMost.trans fits.cap

/-- Every step from a representable state keeps the state in range. -/
theorem State.InRange.step (inRange : s.InRange) (kept : (s.books host).WellKept)
    (fits : Representable s) (stepped : poolStep host s action = .ok (output, s')) :
    s'.InRange where
  cap := (step_positions stepped).cap_pos inRange.cap
  deposits := by
    refine (step_refines stepped).deposits_le inRange.deposits ?_
    intro wallet staked
    obtain ⟨env, amount, beneficiary, rfl⟩ := stake_of_bookEvent staked
    exact stake_le_limit fits (returningUnit_eq_ok.mp stepped).1
  dated := (step_refines stepped).deposits_dated inRange.dated
  claims := (step_refines stepped).claims_inRange kept inRange.deposits fits.staked inRange.claims
  points wallet :=
    pointsWithin_of_step stepped kept.amounts inRange.deposits inRange.dated (inRange.points wallet)
  admissions := admissionsWithin_of_step stepped fits kept inRange.admissions
  outflow := outflow_nonneg_of_step stepped inRange.outflow

/-- The steps from representable states. -/
def representable : System.Guard (State D) (Action D) (Output D) :=
  fun _ s _ => Representable s

instance (log : Log D) (s : State D) (action : Action D) :
    Decidable (representable log s action) :=
  inferInstanceAs (Decidable (Representable s))

/-- A run through representable states stays in range. -/
theorem inRange_of_run {log : Log D} (run : (poolSystem host).Run representable log s) :
    s.InRange := by
  apply run.invariant (P := fun _ s => s.InRange)
  · intro s deployed
    obtain ⟨noStakes, noClaims, -⟩ := deployed_books deployed
    have new := deployed_register deployed
    refine ⟨(deployed_position deployed).1, ?_, ?_, ?_, ?_, ?_, ?_⟩
    · simp only [noStakes, Store.all_empty]
    · simp only [noStakes, Store.all_empty]
    · simp only [noClaims, Store.all_empty]
    · intro wallet
      rw [PointsWithin, balance_of_deployed deployed]
      exact ⟨le_refl 0, stakeLimit_accrual.nonneg _⟩
    · obtain ⟨noAmount, -, noCount⟩ := new.noAdmissions
      rw [Register.admissions, noAmount, noCount]
      show AdmissionsWithin (0, 0)
      exact ⟨by decide, by decide⟩
    · exact new.noOutflow.1.ge
  · intro log s action output s' run inRange fits stepped
    exact inRange.step (wellKept_of_run run) fits stepped

end ProtectionPool
