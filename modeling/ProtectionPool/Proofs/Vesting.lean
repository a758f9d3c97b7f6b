/-
Module: ProtectionPool.Proofs.Vesting
Purpose: The vesting schedule of a claim its wallet approved.  Its payouts follow
  the linear release of the entitlement after the cooldown, whatever else happens
  to the pool in between: a collection the daily cap does not limit brings what was
  collected to what has vested, so the total depends on the ledger of the last such
  collection alone and not on the earlier ones.
Trusted boundary: none
Main exports: vestedBy, collectedTotal, Uncapped, OnSchedule, FollowsSchedule,
  vesting_schedule
-/
import ProtectionPool.Library.LinearRelease
import ProtectionPool.Proofs.DailyOutflow
import ProtectionPool.Proofs.Lifecycle

namespace ProtectionPool

open Checked LinearRelease

variable {D : Type}

/-- What has vested of an entitlement by a ledger. -/
def vestedBy (entitlement : Int) (cooldownEnds now : Nat) : Int :=
  released entitlement vestingLedgers cooldownEnds now

variable [DecidableEq D]

/-- What was collected under an identifier. -/
def collectedTotal (claimId : D) : Log D → Int
  | [] => 0
  | e :: past =>
      collectedTotal claimId past +
        if e.action.collected = some claimId then (e.action.payment e.result).getD 0 else 0

/-- What is left of the daily cap covers all that is due under a claim. -/
def Uncapped (s : State D) (claim : Claim) : Prop :=
  ∀ vested cap, vestedTotal s claim = .ok vested → outflowCap s claim = .ok cap →
    vested - claim.streamed ≤ saturatingSub cap (getDailyOutflow s (currentDay s))

/-- A claim on schedule: its terms stay, the record of its payments is what was
collected, within what has vested and within the entitlement, and it is completed
exactly when all of it was paid. -/
structure OnSchedule (claimId : D) (entitlement : Int) (cooldownEnds : Nat) (log : Log D)
    (now : Nat) (claim : Claim) : Prop where
  terms : claim.entitlement = entitlement ∧ claim.cooldownEndsLedger = cooldownEnds ∧
    claim.vestingEndsLedger = cooldownEnds + vestingLedgers
  collected : claim.streamed = collectedTotal claimId log
  nonneg : 0 ≤ claim.streamed
  vested : claim.streamed ≤ vestedBy entitlement cooldownEnds now
  within : vestedBy entitlement cooldownEnds now ≤ entitlement
  status : claim.status ∈ [ClaimStatus.active, .completed, .cancelled, .expired]
  completed : claim.status = .completed ↔ claim.streamed = entitlement

/-- A step leaves the claim on schedule and takes no payment back, and a collection
that the daily cap does not limit leaves the record and the total at what has
vested. -/
structure FollowsSchedule (claimId : D) (entitlement : Int) (cooldownEnds : Nat) (past : Log D)
    (e : Entry (State D) (Action D) (Output D)) : Prop where
  after : ∃ claim', e.post.claims.get claimId = some claim' ∧
    OnSchedule claimId entitlement cooldownEnds (e :: past) e.post.sequence claim'
  nondecreasing : ∀ claim ∈ e.pre.claims.get claimId, ∀ claim' ∈ e.post.claims.get claimId,
    claim.streamed ≤ claim'.streamed
  brings : e.action.collected = some claimId → ∀ claim ∈ e.pre.claims.get claimId,
    Uncapped e.pre claim → ∀ claim' ∈ e.post.claims.get claimId,
      claim'.streamed = vestedBy entitlement cooldownEnds e.pre.sequence ∧
        collectedTotal claimId (e :: past) = vestedBy entitlement cooldownEnds e.pre.sequence

variable {host : Host D} {s s' : State D} {r r' : Register D} {action : Action D}
  {output : Output D} {claimId : D} {claim claim' : Claim} {entitlement : Int}
  {cooldownEnds : Nat} {past log : Log D}

/-! ### What a payout amounts to -/

omit [DecidableEq D] in
theorem vestedTotal_eq {vested : Int} (nonneg : 0 ≤ claim.entitlement)
    (schedule : claim.vestingEndsLedger = claim.cooldownEndsLedger + vestingLedgers)
    (computed : vestedTotal s claim = .ok vested) :
    vested = vestedBy claim.entitlement claim.cooldownEndsLedger s.sequence := by
  simp [vestedTotal] at computed
  obtain ⟨-, rfl⟩ := computed
  have elapsed : min s.sequence claim.vestingEndsLedger - claim.cooldownEndsLedger =
      min (s.sequence - claim.cooldownEndsLedger) vestingLedgers := by omega
  rw [elapsed, vestedBy, released]
  exact Int.tdiv_eq_ediv_of_nonneg (Int.mul_nonneg nonneg (Int.natCast_nonneg _))

omit [DecidableEq D] in
/-- A payout is all that is due, or all that is left of the daily cap. -/
theorem transferAmount_eq {amount : Int} (computed : transferAmount s claim = .ok amount) :
    ∃ vested cap, vestedTotal s claim = .ok vested ∧ outflowCap s claim = .ok cap ∧
      amount = min (vested - claim.streamed)
        (saturatingSub cap (getDailyOutflow s (currentDay s))) := by
  simp [transferAmount] at computed
  obtain ⟨vested, vestedNow, -, -, cap, capped, -, rfl⟩ := computed
  exact ⟨vested, cap, vestedNow, capped, rfl⟩

/-! ### Steps -/

/-- A step that leaves the terms and the payments of a claim alone may end it. -/
structure KeepsSchedule (claim claim' : Claim) : Prop where
  terms : claim'.entitlement = claim.entitlement ∧
    claim'.cooldownEndsLedger = claim.cooldownEndsLedger ∧
    claim'.vestingEndsLedger = claim.vestingEndsLedger
  streamed : claim'.streamed = claim.streamed
  status : claim'.status = claim.status ∨
    claim.status = .active ∧ (claim'.status = .expired ∨ claim'.status = .cancelled)

theorem KeepsSchedule.refl (claim : Claim) : KeepsSchedule claim claim :=
  ⟨⟨rfl, rfl, rfl⟩, rfl, .inl rfl⟩

theorem KeepsSchedule.ended {status : ClaimStatus} (active : claim.status = .active)
    (ends : status = .expired ∨ status = .cancelled) :
    KeepsSchedule claim { claim with status := status } :=
  ⟨⟨rfl, rfl, rfl⟩, rfl, .inr ⟨active, ends⟩⟩

theorem Claim.restarted_keeps (claim : Claim) (now : Nat) :
    KeepsSchedule claim (claim.restarted now) := by
  unfold Claim.restarted
  split <;> exact ⟨⟨rfl, rfl, rfl⟩, rfl, .inl rfl⟩

/-- A claim that is written under an identifier keeps the schedule of the claim
under any. -/
theorem keepsSchedule_of_set {claims : Store D Claim} {owner : D} {written : Claim}
    (change : ∀ claim, claims.get owner = some claim → owner = claimId →
      KeepsSchedule claim written)
    (listed : claims.get claimId = some claim) :
    ∃ claim', (claims.set owner written).get claimId = some claim' ∧
      KeepsSchedule claim claim' := by
  by_cases same : claimId = owner
  · subst same
    exact ⟨written, Store.get_set_self _ _ _, change claim listed rfl⟩
  · exact ⟨claim, by rw [Store.get_set_ne _ _ same, listed], .refl claim⟩

/-- A claim that is written from a listed one, whose schedule it keeps. -/
theorem keepsSchedule_of_kept {claims : Store D Claim} {owner : D} {found written : Claim}
    (foundListed : claims.get owner = some found) (keeps : KeepsSchedule found written)
    (listed : claims.get claimId = some claim) :
    ∃ claim', (claims.set owner written).get claimId = some claim' ∧
      KeepsSchedule claim claim' := by
  refine keepsSchedule_of_set ?_ listed
  intro other otherListed _
  obtain rfl := Option.mem_unique foundListed otherListed
  exact keeps

/-- A claim that is written from one that had not taken effect is another one. -/
theorem keepsSchedule_of_ineffective {claims : Store D Claim} {owner : D}
    {found written : Claim} {status : ClaimStatus} (foundListed : claims.get owner = some found)
    (is : found.status = status)
    (out : status ∉ [ClaimStatus.active, .completed, .cancelled, .expired])
    (listed : claims.get claimId = some claim)
    (effective : claim.status ∈ [ClaimStatus.active, .completed, .cancelled, .expired]) :
    ∃ claim', (claims.set owner written).get claimId = some claim' ∧
      KeepsSchedule claim claim' := by
  refine keepsSchedule_of_set ?_ listed
  rintro other otherListed rfl
  obtain rfl := Option.mem_unique foundListed otherListed
  obtain rfl := Option.mem_unique foundListed listed
  exact absurd (is ▸ effective) out

/-- A claim that waits for its approval has not taken effect. -/
theorem ClaimStatus.ineffective_of_isPending {status : ClaimStatus}
    (pending : status.isPending = true) :
    status ∉ [ClaimStatus.active, .completed, .cancelled, .expired] := by
  intro out
  simp only [List.mem_cons, List.not_mem_nil, or_false] at out
  rcases out with is | is | is | is <;> rw [is] at pending <;> cases pending

/-- A claim that took effect is collected under, or keeps its schedule, unless an
override of it is executed. -/
theorem RegisterStep.schedule_change (step : RegisterStep host action output r r')
    (listed : r.claims.get claimId = some claim)
    (effective : claim.status ∈ [ClaimStatus.active, .completed, .cancelled, .expired])
    (untouched : ¬ r'.Executed host action claimId) :
    ∃ claim', r'.claims.get claimId = some claim' ∧
      ((action.collected ≠ some claimId ∧ KeepsSchedule claim claim') ∨
        ∃ amount, action.collected = some claimId ∧ output = .amount amount ∧
          claim.status = .active ∧ 0 < amount ∧ claim' = claim.paid amount r.sequence) := by
  have kept : ∀ {claims' : Store D Claim}, action.collected ≠ some claimId →
      (∃ claim', claims'.get claimId = some claim' ∧ KeepsSchedule claim claim') →
      ∃ claim', claims'.get claimId = some claim' ∧
        ((action.collected ≠ some claimId ∧ KeepsSchedule claim claim') ∨
          ∃ amount, action.collected = some claimId ∧ output = .amount amount ∧
            claim.status = .active ∧ 0 < amount ∧ claim' = claim.paid amount r.sequence) := by
    rintro claims' other ⟨claim', listed', keeps⟩
    exact ⟨claim', listed', .inl ⟨other, keeps⟩⟩
  cases step with
  | queued submission | admitted submission =>
      refine kept (by simp [Action.collected]) (keepsSchedule_of_set ?_ listed)
      rintro other found rfl
      obtain rfl := Option.mem_unique listed found
      rw [submission.unused _ listed] at effective
      simp at effective
  | released _ found status | queueExpired _ found status | unlocked _ found status
  | approved _ found status | approvalExpired found status =>
      exact kept (by simp [Action.collected])
        (keepsSchedule_of_ineffective found status (by decide) listed effective)
  | droppedPending found pending =>
      exact kept (by simp [Action.collected]) (keepsSchedule_of_ineffective found rfl
        (ClaimStatus.ineffective_of_isPending pending) listed effective)
  | staleExpired found active =>
      exact kept (by simp [Action.collected])
        (keepsSchedule_of_kept found (.ended active (.inl rfl)) listed)
  | reversed found active =>
      exact kept (by simp [Action.collected])
        (keepsSchedule_of_kept found (.ended active (.inr rfl)) listed)
  | restarted found =>
      exact kept (by simp [Action.collected])
        (keepsSchedule_of_kept found (Claim.restarted_keeps _ _) listed)
  | @streamed _ _ owner _ found_claim _ amount _ found active _ _ _ _ _ positive =>
      by_cases same : owner = claimId
      · subst same
        obtain rfl := Option.mem_unique listed found
        exact ⟨_, Store.get_set_self _ _ _, .inr ⟨amount, rfl, rfl, active, positive, rfl⟩⟩
      · refine kept (by simpa [Action.collected] using same) (keepsSchedule_of_set ?_ listed)
        rintro _ _ rfl
        exact absurd rfl same
  | @overrideExecuted _ _ caller wallet txHash entitlement tier =>
      refine kept (by simp [Action.collected]) (keepsSchedule_of_set ?_ listed)
      rintro _ _ rfl
      refine absurd ?_ untouched
      exact ⟨caller, ⟨wallet, txHash, entitlement, tier⟩, rfl, rfl, Store.get_remove_self _ _⟩
  | funds fundsOnly =>
      refine kept ?_ ⟨claim, listed, .refl claim⟩
      cases action, fundsOnly using Action.fundsCases <;> simp [Action.collected]
  | clock | oracleSet | pubkeySet | identitySet | coSignerSet | adminTransferred | paused
  | unpaused | staked | beneficiarySet | withdrawn | emergencyExited | suspended | unsuspended
  | overridePending | overrideCancelled | revoked =>
      exact kept (by simp [Action.collected]) ⟨claim, listed, .refl claim⟩

/-- What vests of a positive entitlement is within it and never taken back. -/
theorem vestedBy_mono {now later : Nat} (nonneg : 0 ≤ entitlement) (passes : now ≤ later) :
    vestedBy entitlement cooldownEnds now ≤ vestedBy entitlement cooldownEnds later :=
  released_mono nonneg (by decide) passes

theorem vestedBy_le {now : Nat} (nonneg : 0 ≤ entitlement) :
    vestedBy entitlement cooldownEnds now ≤ entitlement :=
  released_le nonneg (by decide)

/-- A claim stays on schedule as time passes. -/
theorem OnSchedule.later {now later : Nat}
    (schedule : OnSchedule claimId entitlement cooldownEnds past now claim)
    (positive : 0 < entitlement) (passes : now ≤ later) :
    OnSchedule claimId entitlement cooldownEnds past later claim :=
  { schedule with
    vested := schedule.vested.trans (vestedBy_mono positive.le passes)
    within := vestedBy_le positive.le }

/-- A claim that keeps its schedule stays on it. -/
theorem OnSchedule.kept {now : Nat} {e : Entry (State D) (Action D) (Output D)}
    (schedule : OnSchedule claimId entitlement cooldownEnds past now claim)
    (other : e.action.collected ≠ some claimId) (keeps : KeepsSchedule claim claim') :
    OnSchedule claimId entitlement cooldownEnds (e :: past) now claim' := by
  obtain ⟨⟨sameEntitlement, sameCooldown, sameVesting⟩, streamed, status⟩ := keeps
  constructor
  · rw [sameEntitlement, sameCooldown, sameVesting]
    exact schedule.terms
  · rw [streamed, schedule.collected, collectedTotal, if_neg other, add_zero]
  · exact streamed ▸ schedule.nonneg
  · exact streamed ▸ schedule.vested
  · exact schedule.within
  · rcases status with same | ⟨-, ended⟩
    · exact same ▸ schedule.status
    · rcases ended with ended | ended <;> rw [ended] <;> decide
  · rw [streamed, ← schedule.completed]
    rcases status with same | ⟨active, ended⟩
    · rw [same]
    · rw [active]
      rcases ended with ended | ended <;> rw [ended] <;> decide

/-- A payout keeps its claim on schedule, and brings it up to it where the daily
cap does not limit it. -/
theorem OnSchedule.paid (env : Env) (beneficiary : Address) (s' : State D) {amount : Int}
    (schedule : OnSchedule claimId entitlement cooldownEnds past s.sequence claim)
    (positive : 0 < entitlement) (active : claim.status = .active) (paysOut : 0 < amount)
    (computed : transferAmount s claim = .ok amount) :
    OnSchedule claimId entitlement cooldownEnds
        (⟨s, .invoke env (.claimStream claimId beneficiary), .amount amount, s'⟩ :: past)
        s.sequence (claim.paid amount s.sequence) ∧
      (Uncapped s claim →
        (claim.paid amount s.sequence).streamed =
          vestedBy entitlement cooldownEnds s.sequence) := by
  obtain ⟨sameEntitlement, sameCooldown, sameVesting⟩ := schedule.terms
  obtain ⟨vested, cap, vestedNow, capped, paid⟩ := transferAmount_eq computed
  have exact : vested = vestedBy entitlement cooldownEnds s.sequence := by
    have spelled := vestedTotal_eq (by omega) (by omega) vestedNow
    rwa [sameEntitlement, sameCooldown] at spelled
  have due : amount ≤ vested - claim.streamed := paid.trans_le (min_le_left _ _)
  have within : vestedBy entitlement cooldownEnds s.sequence ≤ entitlement :=
    vestedBy_le positive.le
  have nonneg := schedule.nonneg
  refine ⟨⟨schedule.terms, ?_, ?_, ?_, within, ?_, ?_⟩, ?_⟩
  · simp only [Claim.paid, collectedTotal, Action.collected, Action.payment, if_true,
      Option.getD_some, schedule.collected]
  · simp only [Claim.paid]
    omega
  · simp only [Claim.paid]
    omega
  · simp only [Claim.paid, active]
    split_ifs <;> decide
  · simp only [Claim.paid, active, sameEntitlement]
    split_ifs with full
    · simp only [true_iff]
      omega
    · simp only [false_iff]
      omega
  · intro uncapped
    have covers := uncapped vested cap vestedNow capped
    rw [min_eq_left covers] at paid
    simp only [Claim.paid]
    omega

/-- A step keeps a claim on schedule, unless an override of it is executed. -/
theorem OnSchedule.step
    (schedule : OnSchedule claimId entitlement cooldownEnds past s.sequence claim)
    (positive : 0 < entitlement) (listed : s.claims.get claimId = some claim)
    (stepped : poolStep host s action = .ok (output, s'))
    (untouched : ¬ Executes host claimId ⟨s, action, output, s'⟩) :
    FollowsSchedule claimId entitlement cooldownEnds past ⟨s, action, output, s'⟩ := by
  have step := step_registers stepped
  have passes : s.sequence ≤ s'.sequence := step.sequence_le
  obtain ⟨claim', listed', ⟨other, keeps⟩ | ⟨amount, collects, rfl, active, paysOut, rfl⟩⟩ :=
    step.schedule_change listed schedule.status untouched
  · have kept := schedule.kept (e := ⟨s, action, output, s'⟩) other keeps
    refine ⟨⟨claim', listed', kept.later positive passes⟩, ?_,
      fun collects => absurd collects other⟩
    exact (Store.forall_mem_get listed).mpr ((Store.forall_mem_get listed').mpr keeps.streamed.ge)
  · obtain ⟨env, beneficiary, paid, rfl, result, streamed⟩ :=
      claimStream_of_collected stepped collects
    obtain rfl := Output.amount.inj result
    obtain ⟨found, foundListed, computed, -, -⟩ := claimStream_counts streamed
    obtain rfl := Option.mem_unique listed foundListed
    obtain ⟨after, brings⟩ := schedule.paid env beneficiary s' positive active paysOut computed
    refine ⟨⟨_, listed', after.later positive passes⟩, ?_, fun _ => ?_⟩
    · refine (Store.forall_mem_get listed).mpr ((Store.forall_mem_get listed').mpr ?_)
      simp only [Claim.paid]
      omega
    · refine (Store.forall_mem_get listed).mpr fun uncapped =>
        (Store.forall_mem_get listed').mpr ⟨brings uncapped, ?_⟩
      rw [← after.collected]
      exact brings uncapped

/-! ### Runs -/

/-- An approval puts the claim into effect, with its cooldown ahead. -/
theorem RegisterStep.approves {env : Env}
    (step : RegisterStep host (.invoke env (.approveClaim claimId)) output r r')
    (listed : r.claims.get claimId = some claim) :
    claim.status = .awaitingApproval ∧ r'.sequence = r.sequence ∧ ∃ amount snapshot,
      r'.claims.get claimId =
        some (claim.activated amount snapshot (r.sequence + cooldownLedgers)) := by
  cases step with
  | approved _ found awaiting =>
      obtain rfl := Option.mem_unique listed found
      exact ⟨awaiting, rfl, _, _, Store.get_set_self _ _ _⟩
  | funds fundsOnly => cases fundsOnly

/-- A claim starts its schedule when its wallet approves it. -/
theorem Claim.WellKept.onSchedule (kept : claim.WellKept)
    (awaiting : claim.status = .awaitingApproval) (amount snapshot : Int) (cooldownEnds now : Nat) :
    OnSchedule claimId claim.entitlement cooldownEnds [] now
      (claim.activated amount snapshot cooldownEnds) := by
  have positive := kept.positive
  have unpaid : claim.streamed = 0 := kept.unpaid (.inr (by rw [awaiting]; rfl))
  constructor
  · exact ⟨rfl, rfl, rfl⟩
  · exact unpaid
  · exact unpaid.ge
  · exact unpaid.trans_le (released_nonneg positive.le)
  · exact vestedBy_le positive.le
  · exact List.mem_cons_self
  · simp only [Claim.activated, unpaid, reduceCtorEq, false_iff]
    omega

/-- In every run that goes on from the approval of a claim and executes no override
of it, the claim keeps to its schedule: the record of its payments is what was
collected, never falls and stays within what has vested, every collection the daily
cap does not limit brings it to exactly that, and the claim is completed exactly
when all of its entitlement was paid. -/
theorem vesting_schedule (host : Host D) {past log : Log D} {s s₁ s' : State D} {env : Env}
    {claimId : D} {claim : Claim} {output : Output D}
    (before : (poolSystem host).Run System.anyStep past s)
    (listed : s.claims.get claimId = some claim)
    (approved : poolStep host s (.invoke env (.approveClaim claimId)) = .ok (output, s₁))
    (run : ((poolSystem host).startingAt s₁).Run System.anyStep log s')
    (untouched : ∀ e ∈ log, ¬ Executes host claimId e) :
    System.Along
        (FollowsSchedule claimId claim.entitlement (s.sequence + cooldownLedgers)) log ∧
      ∃ claim', s'.claims.get claimId = some claim' ∧
        OnSchedule claimId claim.entitlement (s.sequence + cooldownLedgers) log s'.sequence
          claim' := by
  have kept := (wellKept_of_run before).claims claimId claim listed
  obtain ⟨awaiting, -, amount, snapshot, effective⟩ := (step_registers approved).approves listed
  let untouchedBy : Log D → Prop := fun log => ∀ e ∈ log, ¬ Executes host claimId e
  obtain ⟨along, scheduled⟩ := run.along
    (P := fun past e => untouchedBy (e :: past) →
      FollowsSchedule claimId claim.entitlement (s.sequence + cooldownLedgers) past e)
    (I := fun log s' => untouchedBy log → ∃ claim', s'.claims.get claimId = some claim' ∧
      OnSchedule claimId claim.entitlement (s.sequence + cooldownLedgers) log s'.sequence claim')
    (by
      rintro _ rfl -
      exact ⟨_, effective, kept.onSchedule awaiting _ _ _ _⟩)
    (by
      intro log s₂ action output s₃ _ scheduled _ stepped
      refine imp_and.mp fun untouched => ?_
      obtain ⟨claim', listed', schedule⟩ :=
        scheduled fun e member => untouched e (List.mem_cons_of_mem _ member)
      have follows := schedule.step kept.positive listed' stepped
        (untouched _ List.mem_cons_self)
      exact ⟨follows, follows.after⟩)
  refine ⟨along.of_assumption (A := untouchedBy) ?_ untouched, scheduled untouched⟩
  exact fun e past untouched earlier member => untouched earlier (List.mem_cons_of_mem _ member)

/-- A claim of 1000 is approved and collected on three days, the last of them after
its vesting. -/
theorem vesting_schedule_sample :
    ∃ past s s₁ log s' claim output, (poolSystem sampleHost).Run System.anyStep past s ∧
      s.claims.get (computeClaimId sampleHost (party 11) 0) = some claim ∧
      poolStep sampleHost s
        (callBy 11 (.approveClaim (computeClaimId sampleHost (party 11) 0))) = .ok (output, s₁) ∧
      ((poolSystem sampleHost).startingAt s₁).Run System.anyStep log s' ∧
      (∀ e ∈ log, ¬ Executes sampleHost (computeClaimId sampleHost (party 11) 0) e) ∧
      collectedTotal (computeClaimId sampleHost (party 11) 0) log = 1000 ∧
      System.Along (FollowsSchedule (computeClaimId sampleHost (party 11) 0) claim.entitlement
        (s.sequence + cooldownLedgers)) log := by
  obtain ⟨past, s, output, s₁, log, s', before, approved, run, ends⟩ :=
    System.exists_continuation_of_replay (poolSystem sampleHost) System.anyStep System.anyStep
      samplePool_deployed
      [callBy 11 (.stake (party 11) 2000 (party 21)),
        callBy 12 (.stake (party 12) 100000 (party 22)), afterDays 90,
        callBy 1 (.submitClaim (party 1) (party 11) 0 1000 1 (1000000 + secondsPerDay * 90) 0 0)]
      (callBy 11 (.approveClaim (computeClaimId sampleHost (party 11) 0)))
      [afterDays 100, callBy 11 (.claimStream (computeClaimId sampleHost (party 11) 0) (party 21)),
        afterDays 120, callBy 12 (.withdraw (party 12) (party 22)),
        callBy 11 (.claimStream (computeClaimId sampleHost (party 11) 0) (party 21)),
        afterDays 150, callBy 11 (.claimStream (computeClaimId sampleHost (party 11) 0) (party 21))]
      (fun s _ log _ => (s.claims.get (computeClaimId sampleHost (party 11) 0)).isSome = true ∧
        (∀ e ∈ log, ¬ Executes sampleHost (computeClaimId sampleHost (party 11) 0) e) ∧
        collectedTotal (computeClaimId sampleHost (party 11) 0) log = 1000)
      (by decide +kernel)
  obtain ⟨some, untouched, total⟩ := ends
  obtain ⟨claim, listed⟩ := Option.isSome_iff_exists.mp some
  exact ⟨past, s, s₁, log, s', claim, output, before, listed, approved, run, untouched, total,
    (vesting_schedule sampleHost before listed approved run untouched).1⟩

end ProtectionPool
