/-
Module: ProtectionPool.Proofs.Collections
Purpose: A claim in effect is paid in full.  Once it has vested, its wallet alone
  collects all of what is left in as many days as the daily cap of the first of them
  goes into it: each payout lowers the utilisation and so never the cap, and a new day
  starts with an empty counter.
Trusted boundary: none
Main exports: collections, Due, PaidInFull, claimStream_of_due, vested_claim_collected
-/
import ProtectionPool.Library.Replay
import ProtectionPool.Proofs.Overflow
import ProtectionPool.Proofs.PayoutCap
import ProtectionPool.Proofs.Vesting

namespace ProtectionPool

open Checked Utilization

variable {D : Type}

/-- Collections of a claim on a number of days, one a day. -/
def collections (env : Env) (claimId : D) (beneficiary : Address) (sequence timestamp : Nat) :
    Nat → List (Action D)
  | 0 => []
  | days + 1 =>
      .closeLedger (sequence + ledgersPerDay) (timestamp + secondsPerDay) ::
        .invoke env (.claimStream claimId beneficiary) ::
          collections env claimId beneficiary (sequence + ledgersPerDay)
            (timestamp + secondsPerDay) days

/-- What a claim has still to pay. -/
def Claim.due (claim : Claim) : Int := claim.entitlement - claim.streamed

variable [DecidableEq D]

/-- A claim in effect that its wallet may collect from a day on, with a daily cap of at
least so much. -/
structure Due (host : Host D) (claimId : D) (beneficiary : Address) (cap : Int) (claim : Claim)
    (s : State D) : Prop where
  unpaused : s.paused = false
  listed : s.claims.get claimId = some claim
  active : claim.status = .active
  record : ∃ record ∈ s.stakes.get claim.wallet, record.suspended = false ∧
    addressHash host beneficiary = record.beneficiaryHash
  unpaid : 0 ≤ claim.streamed ∧ claim.streamed < claim.entitlement
  schedule : claim.vestingEndsLedger = claim.cooldownEndsLedger + vestingLedgers
  liquid : claim.due ≤ liquidBalance host s
  allocated : claim.due ≤ s.totalAllocated
  capped : 0 < cap ∧ cap ≤ payoutCap (capBase s claim) s.totalAllocated
  fits : InI128 (claim.entitlement * vestingLedgers) ∧
    InI128 (s.totalAllocated * bpsDenominator) ∧ InI128 (capBase s claim * 2500)

/-- The state after a payout. -/
def State.collected (host : Host D) (s : State D) (claimId : D) (claim : Claim)
    (beneficiary : Address) (amount : Int) : State D :=
  { s with
    totalAllocated := s.totalAllocated - amount
    lastOutflowDay := currentDay s
    dailyOutflow := amount
    claims := s.claims.set claimId (claim.paid amount s.sequence)
    xlm := moved s.xlm host.contract beneficiary amount }

/-- A claim is completed, its beneficiary has what was due, the allocation is free of it
and no stake was touched. -/
structure PaidInFull (claimId : D) (claim : Claim) (beneficiary : Address) (s s' : State D) :
    Prop where
  completed : ∃ claim', s'.claims.get claimId = some claim' ∧ claim'.status = .completed ∧
    claim'.entitlement = claim.entitlement ∧ claim'.streamed = claim.entitlement
  received : s'.xlm beneficiary = s.xlm beneficiary + claim.due
  released : s'.totalAllocated = s.totalAllocated - claim.due
  untouched : s'.stakes = s.stakes ∧ s'.totalStaked = s.totalStaked

variable {host : Host D} {env : Env} {s : State D} {claimId : D} {claim : Claim}
  {beneficiary : Address} {cap amount : Int}

/-! ### One payout -/

omit [DecidableEq D] in
/-- A claim past its vesting has vested in full. -/
theorem vestedTotal_matured (fits : InI128 (claim.entitlement * vestingLedgers))
    (schedule : claim.vestingEndsLedger = claim.cooldownEndsLedger + vestingLedgers)
    (matured : claim.vestingEndsLedger ≤ s.sequence) :
    vestedTotal s claim = .ok claim.entitlement := by
  have elapsed : min s.sequence claim.vestingEndsLedger - claim.cooldownEndsLedger =
      vestingLedgers := by omega
  simp only [vestedTotal, elapsed, bind_eq_ok, i128_eq_ok, Except.ok.injEq]
  exact ⟨_, ⟨fits, rfl⟩, Int.mul_tdiv_cancel _ (by decide)⟩

omit [DecidableEq D] in
/-- A positive cap is computed without overflow. -/
theorem outflowCap_of_fits (positive : 0 < payoutCap (capBase s claim) s.totalAllocated)
    (allocated : InI128 (s.totalAllocated * bpsDenominator))
    (base : InI128 (capBase s claim * 2500)) :
    outflowCap s claim = .ok (payoutCap (capBase s claim) s.totalAllocated) := by
  have funded : capBase s claim ≠ 0 := by
    intro none
    rw [none, payoutCap, share_zero] at positive
    exact lt_irrefl _ positive
  have rate : dynamicOutflowBps s (capBase s claim) = .ok
      (outflowRate (utilization bpsDenominator s.totalAllocated (capBase s claim))) := by
    simp only [dynamicOutflowBps, funded, if_false, bind_eq_ok, i128_eq_ok, Except.ok.injEq]
    exact ⟨_, ⟨allocated, rfl⟩, rfl⟩
  obtain ⟨nonneg, most⟩ := dynamicOutflowBps_bounds rate
  simp only [outflowCap, bind_eq_ok, i128_eq_ok, Except.ok.injEq]
  exact ⟨_, rate, _, ⟨base.scale nonneg (most.trans (by decide)), rfl⟩, rfl⟩

/-- What is due fits in whatever the allocation does. -/
theorem Due.inI128 (due : Due host claimId beneficiary cap claim s) :
    ∀ x, 0 ≤ x → x ≤ s.totalAllocated → InI128 x := by
  intro x nonneg below
  have scaled := due.fits.2.1.2
  refine ⟨le_trans (by decide) nonneg, below.trans (le_trans ?_ scaled)⟩
  have denominator : (1 : Int) ≤ bpsDenominator := by decide
  exact le_mul_of_one_le_right (nonneg.trans below) denominator

/-- On a day on which nothing was paid yet, a claim that has vested is paid what is due up
to the cap. -/
theorem claimStream_of_due (due : Due host claimId beneficiary cap claim s)
    (signed : claim.wallet ∈ env.signers ∧ claim.wallet ≠ host.contract)
    (accepted : env.tokenAccepts = true)
    (matured : claim.vestingEndsLedger ≤ s.sequence)
    (unspent : getDailyOutflow s (currentDay s) = 0)
    (paid : amount = min claim.due (payoutCap (capBase s claim) s.totalAllocated)) :
    claimStream host env s claimId beneficiary =
      .ok (amount, s.collected host claimId claim beneficiary amount) := by
  obtain ⟨record, stored, unsuspended, committed⟩ := due.record
  obtain ⟨nonneg, unpaid⟩ := due.unpaid
  obtain ⟨entitlementFits, allocatedFits, baseFits⟩ := due.fits
  have capPositive : 0 < payoutCap (capBase s claim) s.totalAllocated :=
    due.capped.1.trans_le due.capped.2
  have owed : 0 < claim.due := sub_pos.mpr unpaid
  have positive : 0 < amount := paid ▸ lt_min owed capPositive
  have within : amount ≤ claim.due := paid.trans_le (min_le_left _ _)
  have covered : amount ≤ liquidBalance host s := within.trans due.liquid
  have cooled : claim.cooldownEndsLedger ≤ s.sequence := by
    have schedule := due.schedule
    omega
  have capped := outflowCap_of_fits capPositive allocatedFits baseFits
  have room : saturatingSub (payoutCap (capBase s claim) s.totalAllocated) 0 =
      payoutCap (capBase s claim) s.totalAllocated := by
    rw [saturatingSub, sub_zero]
    exact saturateI128_of_fits ⟨le_trans (by decide) capPositive.le, outflowCap_le capped⟩
  have computed : transferAmount s claim = .ok amount := by
    simp only [transferAmount, bind_eq_ok, i128_eq_ok, rejectIf_eq_ok, Except.ok.injEq]
    refine ⟨_, vestedTotal_matured entitlementFits due.schedule matured, _,
      ⟨due.inI128 _ owed.le due.allocated, rfl⟩, (), not_le.mpr owed, _, capped, (), ?_, ?_⟩
    · rw [unspent, room]
      exact not_le.mpr (paid ▸ positive)
    · rw [unspent, room]
      exact paid.symm
  have released : saturatingSub s.totalAllocated amount = s.totalAllocated - amount := by
    have allocated := due.allocated
    exact saturateI128_of_fits (due.inI128 _ (by omega) (by omega))
  have streamedFits : InI128 (claim.streamed + amount) := by
    refine entitlementFits.of_le (by omega) ?_
    have vesting : (1 : Int) ≤ vestingLedgers := by decide
    have total : claim.streamed + amount ≤ claim.entitlement := by
      rw [Claim.due] at within
      omega
    exact total.trans (le_mul_of_one_le_right (nonneg.trans unpaid.le) vesting)
  have state : s.afterStream host claimId claim beneficiary amount =
      s.collected host claimId claim beneficiary amount := by
    simp only [State.afterStream, State.collected, released, unspent, zero_add]
  rw [← state]
  apply claimStream_eq_ok.mpr
  refine ⟨claim, record, {
    running := due.unpaused, listed := due.listed, signed := signed, active := due.active,
    cooled := cooled, unpaid := unpaid, stored := stored, unsuspended := unsuspended,
    committed := committed, computed := computed, covered := covered,
    streamedFits := streamedFits, outflowFits := ?_, accepted := accepted, state := rfl }⟩
  rw [unspent, zero_add]
  exact due.inI128 _ positive.le (within.trans due.allocated)

/-- The payout, as a step of the pool. -/
theorem collect_step (due : Due host claimId beneficiary cap claim s)
    (signed : claim.wallet ∈ env.signers ∧ claim.wallet ≠ host.contract)
    (accepted : env.tokenAccepts = true)
    (matured : claim.vestingEndsLedger ≤ s.sequence)
    (unspent : getDailyOutflow s (currentDay s) = 0)
    (paid : amount = min claim.due (payoutCap (capBase s claim) s.totalAllocated)) :
    poolStep host s (.invoke env (.claimStream claimId beneficiary)) =
      .ok (.amount amount, s.collected host claimId claim beneficiary amount) := by
  simp only [poolStep, dispatch, claimStream_of_due due signed accepted matured unspent paid]
  rfl

/-! ### Day after day -/

/-- Nothing was paid on the day after today. -/
theorem unspent_tomorrow {log : Log D} (run : (poolSystem host).Run System.anyStep log s)
    {sequence : Nat} (calendar : s.timestamp + secondsPerDay < 2 ^ 32 * secondsPerDay) :
    getDailyOutflow { s with sequence := sequence, timestamp := s.timestamp + secondsPerDay }
      (currentDay { s with sequence := sequence, timestamp := s.timestamp + secondsPerDay }) =
        0 := by
  have tracks := outflow_tracks_payments run
  have tomorrow : (s.timestamp + secondsPerDay) / secondsPerDay = calendarDay s + 1 :=
    Nat.add_div_right _ (by decide)
  have numbered : calendarDay s + 1 < 2 ^ 32 := by
    rw [← tomorrow]
    exact Nat.div_lt_of_lt_mul (by rwa [Nat.mul_comm])
  have alone : ∀ entry ∈ payments log, dayNumber entry.1 = dayNumber (calendarDay s + 1) →
      entry.1 = calendarDay s + 1 := by
    intro entry member same
    have reached := tracks.reached entry member
    rwa [dayNumber, dayNumber, Nat.mod_eq_of_lt (by omega), Nat.mod_eq_of_lt numbered] at same
  have read := tracks.read (calendarDay s + 1) (Nat.le_succ _) alone
  rw [Daily.sumOn_eq_zero fun entry member => by
    have reached := tracks.reached entry member
    omega] at read
  rw [currentDay, tomorrow]
  exact read

/-- A claim that is due stays due as time passes. -/
theorem Due.later (due : Due host claimId beneficiary cap claim s) (sequence timestamp : Nat) :
    Due host claimId beneficiary cap claim
      { s with sequence := sequence, timestamp := timestamp } :=
  { due with }

/-- A claim of which a part was paid is due with the rest, under no lower cap. -/
theorem Due.rest (due : Due host claimId beneficiary cap claim s)
    (other : beneficiary ≠ host.contract) (nonneg : 0 ≤ amount) (part : amount < claim.due) :
    Due host claimId beneficiary cap (claim.paid amount s.sequence)
      (s.collected host claimId claim beneficiary amount) := by
  have left : (claim.paid amount s.sequence).due = claim.due - amount := by
    simp only [Claim.due, Claim.paid]
    omega
  have allocated := due.allocated
  have unfinished : ¬ claim.streamed + amount ≥ claim.entitlement := by
    rw [Claim.due] at part
    omega
  obtain ⟨entitlementFits, allocatedFits, baseFits⟩ := due.fits
  constructor
  · exact due.unpaused
  · exact Store.get_set_self ..
  · simp only [Claim.paid, if_neg unfinished, due.active]
  · exact due.record
  · exact ⟨add_nonneg due.unpaid.1 nonneg, not_le.mp unfinished⟩
  · exact due.schedule
  · have liquid := due.liquid
    have holds : liquidBalance host (s.collected host claimId claim beneficiary amount) =
        liquidBalance host s - amount := by
      simp only [liquidBalance, State.collected]
      rw [moved_payer, if_neg other]
    rw [left, holds]
    omega
  · rw [left]
    exact sub_le_sub_right allocated amount
  · refine ⟨due.capped.1, due.capped.2.trans ?_⟩
    exact payoutCap_le (sub_nonneg.mpr (part.le.trans allocated)) (sub_le_self _ nonneg) le_rfl
  · refine ⟨entitlementFits, ?_, baseFits⟩
    have remains : 0 ≤ s.totalAllocated - amount := sub_nonneg.mpr (part.le.trans allocated)
    have scale : (0 : Int) ≤ bpsDenominator := by decide
    exact allocatedFits.of_le (Int.mul_nonneg remains scale)
      (Int.mul_le_mul_of_nonneg_right (sub_le_self _ nonneg) scale)

/-- A payout of all that is due pays the claim in full. -/
theorem paidInFull_of_last (other : beneficiary ≠ host.contract) (sequence timestamp : Nat) :
    PaidInFull claimId claim beneficiary s
      (State.collected host { s with sequence := sequence, timestamp := timestamp } claimId claim
        beneficiary claim.due) := by
  have total : claim.streamed + claim.due = claim.entitlement := by
    rw [Claim.due]
    omega
  constructor
  · refine ⟨_, Store.get_set_self .., ?_, rfl, total⟩
    exact if_pos total.ge
  · exact moved_payee other
  · rfl
  · exact ⟨rfl, rfl⟩

/-- A payout of a part, and the rest later, pay the claim in full. -/
theorem PaidInFull.after_part {s' : State D} {sequence timestamp : Nat}
    (other : beneficiary ≠ host.contract)
    (rest : PaidInFull claimId (claim.paid amount sequence) beneficiary
      (State.collected host { s with sequence := sequence, timestamp := timestamp } claimId claim
        beneficiary amount) s') :
    PaidInFull claimId claim beneficiary s s' := by
  have left : (claim.paid amount sequence).due = claim.due - amount := by
    simp only [Claim.due, Claim.paid]
    omega
  obtain ⟨completed, received, released, untouched⟩ := rest
  refine ⟨completed, ?_, ?_, untouched⟩
  · rw [received, left]
    simp only [State.collected]
    rw [moved_payee other]
    omega
  · rw [released, left]
    simp only [State.collected]
    omega

/-- A claim that is due is paid in full within a number of days whose caps cover it. -/
theorem collections_pay (signed : claim.wallet ∈ env.signers ∧ claim.wallet ≠ host.contract)
    (accepted : env.tokenAccepts = true) (other : beneficiary ≠ host.contract) {days : Nat} :
    ∀ {log : Log D} {s : State D} {claim' : Claim} {sequence : Nat},
      claim'.wallet = claim.wallet → (poolSystem host).Run System.anyStep log s →
      Due host claimId beneficiary cap claim' s →
      s.sequence ≤ sequence → claim'.vestingEndsLedger ≤ sequence →
      sequence + days * ledgersPerDay < 2 ^ 32 →
      s.timestamp + days * secondsPerDay < 2 ^ 32 * secondsPerDay → claim'.due ≤ days * cap →
      ∃ k ≤ days, ∃ s',
        (poolSystem host).after s (collections env claimId beneficiary sequence s.timestamp k) =
            .ok s' ∧
          PaidInFull claimId claim' beneficiary s s' := by
  induction days with
  | zero =>
      intro log s claim' sequence _ _ due _ _ _ _ enough
      have unpaid := sub_pos.mpr due.unpaid.2
      rw [Nat.cast_zero, zero_mul] at enough
      exact absurd enough (not_le.mpr unpaid)
  | succ days inductionHypothesis =>
      intro log s claim' sequence wallet run due later matured clock calendar enough
      rw [Nat.succ_mul] at clock calendar
      have width : 2 ^ 32 * secondsPerDay < 2 ^ 64 := by decide
      have closes := closeLedger_step host s
        (show s.sequence ≤ sequence + ledgersPerDay by omega) (by omega)
        (Nat.le_add_right s.timestamp secondsPerDay) (by omega)
      have due₁ := due.later (sequence + ledgersPerDay) (s.timestamp + secondsPerDay)
      obtain ⟨amount, paid⟩ : ∃ amount,
          amount = min claim'.due (payoutCap (capBase s claim') s.totalAllocated) := ⟨_, rfl⟩
      have pays := collect_step due₁ (wallet ▸ signed) accepted
        (matured.trans (Nat.le_add_right _ _))
        (unspent_tomorrow run (by omega)) paid
      have day : (poolSystem host).after s
          [.closeLedger (sequence + ledgersPerDay) (s.timestamp + secondsPerDay),
            .invoke env (.claimStream claimId beneficiary)] = .ok _ :=
        (System.after_cons closes).trans (System.after_cons pays)
      have covers := due.capped.2
      by_cases last : claim'.due ≤ payoutCap (capBase s claim') s.totalAllocated
      · obtain rfl : amount = claim'.due := paid.trans (min_eq_left last)
        exact ⟨1, Nat.succ_le_succ (Nat.zero_le _), _, day, paidInFull_of_last other _ _⟩
      · have capped : amount = payoutCap (capBase s claim') s.totalAllocated :=
          paid.trans (min_eq_right (not_le.mp last).le)
        have positive := due.capped.1
        obtain ⟨log', run', -⟩ := System.run_of_after run day
        have due₂ := due₁.rest other (show 0 ≤ amount by omega) (by omega)
        have owed : (claim'.paid amount (sequence + ledgersPerDay)).due ≤ days * cap := by
          rw [Nat.cast_succ, add_mul, one_mul, Claim.due] at enough
          simp only [Claim.due, Claim.paid]
          omega
        obtain ⟨k, few, s', taken, rest⟩ := inductionHypothesis
          (show (claim'.paid amount (sequence + ledgersPerDay)).wallet = claim.wallet from wallet)
          run' due₂ (le_refl (sequence + ledgersPerDay)) (matured.trans (Nat.le_add_right _ _))
          (by omega) (show s.timestamp + secondsPerDay + days * secondsPerDay < _ by omega) owed
        refine ⟨k + 1, Nat.succ_le_succ few, s', ?_, rest.after_part other⟩
        exact (System.after_cons closes).trans ((System.after_cons pays).trans taken)

/-- A claim in effect of an unsuspended wallet is due for what its records say, in every
representable state of a run whose liquid balance covers it. -/
theorem due_of_run {log : Log D} (run : (poolSystem host).Run representable log s)
    (fits : Representable s) (unpaused : s.paused = false)
    (listed : s.claims.get claimId = some claim) (active : claim.status = .active)
    (unpaid : claim.streamed < claim.entitlement)
    (record : ∃ record ∈ s.stakes.get claim.wallet, record.suspended = false ∧
      addressHash host beneficiary = record.beneficiaryHash)
    (liquid : claim.due ≤ liquidBalance host s)
    (positive : 0 < payoutCap (capBase s claim) s.totalAllocated) :
    Due host claimId beneficiary (payoutCap (capBase s claim) s.totalAllocated) claim s := by
  have kept := wellKept_of_run run
  have claimKept := kept.claims _ _ listed
  have inRange := (inRange_of_run run).claims _ _ listed
  have live : claim.status.isLive = true := by rw [active]; rfl
  have allocated : claim.outstanding ≤ s.totalAllocated := kept.outstanding_le listed
  rw [Claim.outstanding, if_pos live, max_eq_left (by omega)] at allocated
  constructor
  · exact unpaused
  · exact listed
  · exact active
  · exact record
  · exact ⟨claimKept.streamedNonneg, unpaid⟩
  · exact claimKept.schedule active
  · exact liquid
  · exact allocated
  · exact ⟨positive, le_refl _⟩
  · refine ⟨⟨?_, ?_⟩, fits.allocated, ?_⟩
    · exact le_trans (by decide)
        (Int.mul_nonneg claimKept.positive.le (Int.natCast_nonneg vestingLedgers))
    · exact le_trans (Int.mul_le_mul_of_nonneg_right inRange.entitlement (by decide))
        stakeLimit_bounds.2
    · rcases max_choice s.totalStaked claim.totalStakedSnapshot with same | same
      · rw [capBase, same]
        exact fits.staked
      · rw [capBase, same]
        exact inRange.snapshot

/-- A wallet collects its claim in full, one collection a day from the end of the vesting
on, in at most as many days as the cap of today goes into what is due: the pool has to be
running and liquid, the wallet must not be suspended, and the token has to accept payments
to the beneficiary, which is not the pool itself. -/
theorem vested_claim_collected (host : Host D) {log : Log D} {s : State D}
    (run : (poolSystem host).Run representable log s) (fits : Representable s) {env : Env}
    {claimId : D} {claim : Claim} {beneficiary : Address} {days : Nat}
    (signed : claim.wallet ∈ env.signers) (accepted : env.tokenAccepts = true)
    (others : claim.wallet ≠ host.contract ∧ beneficiary ≠ host.contract)
    (unpaused : s.paused = false) (listed : s.claims.get claimId = some claim)
    (active : claim.status = .active) (unpaid : claim.streamed < claim.entitlement)
    (record : ∃ record ∈ s.stakes.get claim.wallet, record.suspended = false ∧
      addressHash host beneficiary = record.beneficiaryHash)
    (liquid : claim.due ≤ liquidBalance host s)
    (enough : claim.due ≤ days * payoutCap (capBase s claim) s.totalAllocated)
    (clock : max s.sequence claim.vestingEndsLedger + days * ledgersPerDay < 2 ^ 32)
    (calendar : s.timestamp + days * secondsPerDay < 2 ^ 32 * secondsPerDay) :
    ∃ k ≤ days, ∃ s',
      (poolSystem host).after s (collections env claimId beneficiary
          (max s.sequence claim.vestingEndsLedger) s.timestamp k) = .ok s' ∧
        PaidInFull claimId claim beneficiary s s' := by
  have owed : 0 < claim.due := sub_pos.mpr unpaid
  have positive : 0 < payoutCap (capBase s claim) s.totalAllocated :=
    pos_of_mul_pos_right (owed.trans_le enough) (Int.natCast_nonneg days)
  exact collections_pay ⟨signed, others.1⟩ accepted others.2 rfl (run.mono fun _ _ _ _ => trivial)
    (due_of_run run fits unpaused listed active unpaid record liquid positive) (le_max_left _ _)
    (le_max_right _ _) clock calendar enough

/-- A claim of 30000 against deposits of 200000 is collected within three days. -/
theorem vested_claim_collected_sample :
    ∃ log s claim, (poolSystem sampleHost).Run representable log s ∧ claim.due = 30000 ∧
      ∃ k ≤ 3, ∃ s',
        (poolSystem sampleHost).after s
            (collections (.of [party 11] ⟨0, 0, 0, 0⟩)
              (computeClaimId sampleHost (party 11) 0) (party 21)
              (max s.sequence claim.vestingEndsLedger) s.timestamp k) = .ok s' ∧
          PaidInFull (computeClaimId sampleHost (party 11) 0) claim (party 21) s s' := by
  obtain ⟨log, s, run, fits, unpaused, liquid, calendar, claim, listed, wallet, active, due,
      enough, clock, record⟩ :=
    System.exists_run_of_replay (poolSystem sampleHost) representable samplePool_deployed
      (sampleQueue ++ [callBy 11 (.tryReleaseQueuedClaim (computeClaimId sampleHost (party 11) 0)),
        callBy 11 (.approveClaim (computeClaimId sampleHost (party 11) 0))])
      (fun _ s => Representable s ∧ s.paused = false ∧ 30000 ≤ liquidBalance sampleHost s ∧
        s.timestamp + 3 * secondsPerDay < 2 ^ 32 * secondsPerDay ∧
        ∃ claim ∈ s.claims.get (computeClaimId sampleHost (party 11) 0),
          claim.wallet = party 11 ∧ claim.status = .active ∧ claim.due = 30000 ∧
            claim.due ≤ (3 : Nat) * payoutCap (capBase s claim) s.totalAllocated ∧
            max s.sequence claim.vestingEndsLedger + 3 * ledgersPerDay < 2 ^ 32 ∧
            ∃ record ∈ s.stakes.get claim.wallet, record.suspended = false ∧
              addressHash sampleHost (party 21) = record.beneficiaryHash)
      (by decide +kernel)
  have unpaid : claim.streamed < claim.entitlement := by
    rw [Claim.due] at due
    omega
  refine ⟨log, s, claim, run, due, vested_claim_collected sampleHost run fits ?_ rfl ?_ unpaused
    listed active unpaid record (due ▸ liquid) enough clock calendar⟩
  · rw [wallet]
    exact List.mem_cons_self
  · rw [wallet]
    decide

end ProtectionPool
