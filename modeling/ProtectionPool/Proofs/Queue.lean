/-
Module: ProtectionPool.Proofs.Queue
Purpose: The two ways a claim is admitted.  The release of a queued claim
  checks the pool's capacity again but not the wallet's eligibility, so it
  agrees with a fresh submission of the same terms exactly when the deposit is
  still eligible.
Trusted boundary: none
Main exports: Books.Queued, State.withoutQueued, StillEligible,
  release_agrees_with_submission_iff
-/
import ProtectionPool.Proofs.WellKept

namespace ProtectionPool

open Checked

variable {D : Type}

/-! ### What a queued claim keeps while it waits -/

/-- What the submission of a queued claim checked once and for all. -/
structure Claim.Pinned (idOf : Address → BytesN 32 → D) (now : Nat) (claimId : D)
    (claim : Claim) : Prop where
  named : claimId = idOf claim.wallet claim.txHash
  tiered : ∃ ratio, tierRatio claim.tier = .ok ratio
  past : claim.hackTimestamp ≤ now
  windowFits : claim.hackTimestamp + claimWindowSeconds < 2 ^ 64

variable [DecidableEq D]

/-- An identifier under which a claim is listed that is not queued. -/
def OutOfQueue (claims : Store D Claim) (claimId : D) : Prop :=
  ∃ claim, claims.get claimId = some claim ∧ claim.status ≠ .reserved

/-- No record names a queued claim as active. -/
def ActivesOutOfQueue (stakes : Store Address (StakeRecord D)) (claims : Store D Claim) : Prop :=
  Store.All (fun _ record => ∀ claimId, record.activeClaimId = some claimId →
    OutOfQueue claims claimId) stakes

/-- The invariant of the queue: a queued claim keeps its terms, and no record
names it as active. -/
structure Books.Queued (idOf : Address → BytesN 32 → D) (b : Books D) : Prop where
  pinned : Store.All (fun claimId claim =>
    claim.status = .reserved → claim.Pinned idOf b.timestamp claimId) b.claims
  inactive : ActivesOutOfQueue b.stakes b.claims

variable {idOf : Address → BytesN 32 → D} {event : BookEvent D} {b b' : Books D}

omit [DecidableEq D] in
theorem Claim.Pinned.later {now now' : Nat} {claimId : D} {claim : Claim}
    (pinned : claim.Pinned idOf now claimId) (advances : now ≤ now') :
    claim.Pinned idOf now' claimId :=
  ⟨pinned.named, pinned.tiered, pinned.past.trans advances, pinned.windowFits⟩

theorem tierRatio_of_tierCap {amount cap : Int} {tier : Nat}
    (computed : tierCap amount tier = .ok cap) : ∃ ratio, tierRatio tier = .ok ratio := by
  simp only [tierCap, bind_eq_ok] at computed
  obtain ⟨ratio, valid, -⟩ := computed
  exact ⟨ratio, valid⟩

theorem BookStep.pinned (step : BookStep idOf event b b')
    (pinned : Store.All (fun claimId claim =>
      claim.status = .reserved → claim.Pinned idOf b.timestamp claimId) b.claims) :
    Store.All (fun claimId claim =>
      claim.status = .reserved → claim.Pinned idOf b'.timestamp claimId) b'.claims := by
  cases step with
  | queued named _ eligible =>
      apply pinned.set
      intro _
      obtain ⟨cap, capped, -⟩ := eligible.covered
      exact ⟨named, tierRatio_of_tierCap capped, eligible.past, eligible.windowFits⟩
  | admitted _ _ _ _ _ _ admission | released _ _ _ _ _ _ admission =>
      apply pinned.set
      intro reserved
      exact absurd reserved (ClaimStatus.ne_of_isPending admission.pending rfl)
  | queueExpired | unlocked | approved | approvalExpired | staleExpired | droppedPending
  | reversed | overridden =>
      apply pinned.set
      intro reserved
      cases reserved
  | @streamed _ _ claim amount _ _ _ _ active =>
      apply pinned.set
      intro reserved
      simp only [Claim.paid] at reserved
      split_ifs at reserved
      rw [active] at reserved
      cases reserved
  | restarted _ listed =>
      exact pinned.update listed fun kept reserved =>
        ⟨(kept reserved).named, (kept reserved).tiered, (kept reserved).past,
          (kept reserved).windowFits⟩
  | clock _ advances =>
      intro claimId claim listed reserved
      exact (pinned claimId claim listed reserved).later advances
  | staked | exited | redeemed | deployed | kept | treasury | amended => exact pinned

namespace ActivesOutOfQueue

variable {stakes : Store Address (StakeRecord D)} {claims : Store D Claim} {wallet : Address}
  {record record' : StakeRecord D} {claimId : D} {claim claim' : Claim}

/-- A claim may be replaced by one that is not queued. -/
theorem set_claim (actives : ActivesOutOfQueue stakes claims) (out : claim.status ≠ .reserved) :
    ActivesOutOfQueue stakes (claims.set claimId claim) := by
  intro wallet record stored activeId active
  by_cases same : activeId = claimId
  · exact ⟨claim, by rw [same, Store.get_set_self], out⟩
  · obtain ⟨other, listed, outside⟩ := actives wallet record stored activeId active
    exact ⟨other, by rw [Store.get_set_ne _ _ same, listed], outside⟩

/-- A listed claim may be replaced by one of the same status. -/
theorem update_claim (actives : ActivesOutOfQueue stakes claims)
    (listed : claims.get claimId = some claim) (same : claim'.status = claim.status) :
    ActivesOutOfQueue stakes (claims.set claimId claim') := by
  intro wallet record stored activeId active
  obtain ⟨other, found, outside⟩ := actives wallet record stored activeId active
  by_cases own : activeId = claimId
  · rw [own, listed] at found
    obtain rfl := Option.some.inj found
    exact ⟨claim', by rw [own, Store.get_set_self], same ▸ outside⟩
  · exact ⟨other, by rw [Store.get_set_ne _ _ own, found], outside⟩

/-- A claim may enter the queue under an identifier that is not listed. -/
theorem enqueue (actives : ActivesOutOfQueue stakes claims) (absent : claims.get claimId = none) :
    ActivesOutOfQueue stakes (claims.set claimId claim) := by
  intro wallet record stored activeId active
  obtain ⟨other, found, outside⟩ := actives wallet record stored activeId active
  have distinct : activeId ≠ claimId := by
    rintro rfl
    rw [absent] at found
    cases found
  exact ⟨other, by rw [Store.get_set_ne _ _ distinct, found], outside⟩

/-- A record may be replaced by one that names no claim, the same claim, or one
that is not queued. -/
theorem set_stake (actives : ActivesOutOfQueue stakes claims)
    (names : ∀ activeId, record.activeClaimId = some activeId → OutOfQueue claims activeId) :
    ActivesOutOfQueue (stakes.set wallet record) claims :=
  Store.All.set actives names

theorem update_stake (actives : ActivesOutOfQueue stakes claims)
    (stored : stakes.get wallet = some record)
    (same : record'.activeClaimId = record.activeClaimId) :
    ActivesOutOfQueue (stakes.set wallet record') claims := by
  apply actives.set_stake
  rw [same]
  exact actives wallet record stored

end ActivesOutOfQueue

theorem BookStep.activesOutOfQueue (step : BookStep idOf event b b') (kept : b.WellKept)
    (actives : ActivesOutOfQueue b.stakes b.claims) :
    ActivesOutOfQueue b'.stakes b'.claims := by
  cases step with
  | staked => exact actives.set_stake (by rintro _ ⟨⟩)
  | exited stored | amended stored => exact actives.update_stake stored rfl
  | queued _ stored _ unused =>
      exact (actives.enqueue (kept.absent unused)).update_stake stored rfl
  | admitted _ _ _ _ _ _ admission | released _ _ _ _ _ _ admission =>
      apply (actives.set_claim (ClaimStatus.ne_of_isPending admission.pending rfl)).set_stake
      intro activeId active
      obtain rfl := Option.some.inj active
      exact ⟨_, Store.get_set_self _ _ _, ClaimStatus.ne_of_isPending admission.pending rfl⟩
  | queueExpired _ _ stored | approved _ _ stored =>
      refine ActivesOutOfQueue.update_stake ?_ stored ?_
      · apply actives.set_claim
        rintro ⟨⟩
      · rfl
  | unlocked =>
      apply actives.set_claim
      rintro ⟨⟩
  | approvalExpired | staleExpired | droppedPending | reversed =>
      apply ActivesOutOfQueue.set_stake _ (by rintro _ ⟨⟩)
      apply actives.set_claim
      rintro ⟨⟩
  | streamed _ active =>
      apply actives.set_claim
      simp only [Claim.paid]
      split_ifs
      · simp
      · rw [active]
        rintro ⟨⟩
  | overridden =>
      apply (actives.set_claim _).set_stake
      · intro activeId active
        obtain rfl := Option.some.inj active
        exact ⟨_, Store.get_set_self _ _ _, by rintro ⟨⟩⟩
      · rintro ⟨⟩
  | restarted stored listed =>
      refine ActivesOutOfQueue.update_stake ?_ stored ?_
      · apply actives.update_claim listed
        rfl
      · rfl
  | redeemed | deployed | kept | treasury | clock => exact actives

/-- The queue keeps its invariant in every run. -/
theorem queued_of_run {host : Host D} {guard : System.Guard (State D) (Action D) (Output D)}
    {log : List (Entry (State D) (Action D) (Output D))} {s : State D}
    (run : (poolSystem host).Run guard log s) :
    (s.books host).Queued (computeClaimId host) := by
  apply run.invariant (P := fun _ s => (s.books host).Queued (computeClaimId host))
  · intro s deployed
    obtain ⟨noStakes, noClaims, -⟩ := deployed_books deployed
    constructor
    · simp only [State.books, noClaims, Store.all_empty]
    · simp only [State.books, noStakes, ActivesOutOfQueue, Store.all_empty]
  · intro _ _ _ _ _ run queued _ stepped
    have step := step_refines stepped
    exact ⟨step.pinned queued.pinned, step.activesOutOfQueue (wellKept_of_run run) queued.inactive⟩

/-! ### The two admission paths -/

/-- A record without its reservation of a claim. -/
def StakeRecord.withoutReservation (record : StakeRecord D) (claimId : D) : StakeRecord D :=
  { record with
    reservedClaimId :=
      if record.reservedClaimId = some claimId then none else record.reservedClaimId }

/-- A state without a queued claim and the reservation of it. -/
def State.withoutQueued (s : State D) (claimId : D) (claim : Claim) (record : StakeRecord D) :
    State D :=
  { s with
    stakes := s.stakes.set claim.wallet (record.withoutReservation claimId)
    claims := s.claims.remove claimId }

/-- What a submission requires of the wallet's deposit, beyond what the queue
keeps and the release checks. -/
structure StillEligible (s : State D) (claimId : D) (claim : Claim) (record : StakeRecord D) :
    Prop where
  funded : 0 < record.amount
  standing : record.withdrawn = false
  unsuspended : record.suspended = false
  unqueued : record.reservedClaimId = none ∨ record.reservedClaimId = some claimId
  covered : ∃ cap, tierCap record.amount claim.tier = .ok cap ∧ claim.entitlement ≤ cap
  afterStake : record.stakedAtTimestamp ≤ claim.hackTimestamp
  inWindow : s.timestamp ≤ claim.hackTimestamp + claimWindowSeconds

variable {host : Host D} {env : Env} {s s' : State D} {claimId : D} {claim : Claim}
  {record : StakeRecord D}

/-- Both paths admit through the same routine, which overwrites the queued claim
and the reservation. -/
theorem admitClaim_withoutQueued {entitlement : Int} {tier hackTimestamp : Nat} {counted : Bool}
    {txHash : BytesN 32} :
    admitClaim (s.withoutQueued claimId claim record) claim.wallet txHash claimId entitlement tier
        hackTimestamp (record.withoutReservation claimId) counted =
      admitClaim s claim.wallet txHash claimId entitlement tier hackTimestamp record counted := by
  simp only [admitClaim, State.withoutQueued, Store.set_set, Store.set_remove]
  rfl

/-- The record checks of a submission, on the wallet's record without the
reservation. -/
theorem requireEligibleStake_withoutReservation (claimId : D) (u : Unit)
    (inactive : record.activeClaimId = none) (past : claim.hackTimestamp ≤ s.timestamp)
    (windowFits : claim.hackTimestamp + claimWindowSeconds < 2 ^ 64) :
    requireEligibleStake (s.withoutQueued claimId claim record)
          (record.withoutReservation claimId) claim.entitlement claim.tier claim.hackTimestamp =
        .ok u ↔
      StillEligible s claimId claim record := by
  simp only [requireEligibleStake, bind_eq_ok, rejectIf_eq_ok, u64_eq_ok]
  constructor
  · rintro ⟨_, funded, _, standing, _, unsuspended, _, -, _, unqueued, cap, capped, _, covered, _,
      -, _, afterStake, _, ⟨-, rfl⟩, inWindow⟩
    refine ⟨not_le.mp funded, Bool.eq_false_iff.mpr standing, Bool.eq_false_iff.mpr unsuspended,
      ?_, ⟨cap, capped, not_lt.mp covered⟩, not_lt.mp afterStake, not_lt.mp inWindow⟩
    by_cases own : record.reservedClaimId = some claimId
    · exact .inr own
    · simp only [StakeRecord.withoutReservation, own, if_false, Bool.not_eq_true,
        Option.isSome_eq_false_iff, Option.isNone_iff_eq_none] at unqueued
      exact .inl unqueued
  · rintro ⟨funded, standing, unsuspended, unqueued, ⟨cap, capped, covered⟩, afterStake, inWindow⟩
    refine ⟨(), not_le.mpr funded, (), Bool.eq_false_iff.mp standing, (),
      Bool.eq_false_iff.mp unsuspended, (), ?_, (), ?_, cap, capped, (), not_lt.mpr covered, (),
      not_lt.mpr past, (), not_lt.mpr afterStake, _, ⟨windowFits, rfl⟩, not_lt.mpr inWindow⟩
    · simp only [StakeRecord.withoutReservation, inactive]
      simp
    · rcases unqueued with none | own <;> simp [StakeRecord.withoutReservation, *]

/-- What a successful release checked. -/
theorem tryReleaseQueuedClaim_ok (listed : s.claims.get claimId = some claim)
    (stored : s.stakes.get claim.wallet = some record)
    (released : tryReleaseQueuedClaim s claimId = .ok s') :
    s.paused = false ∧ claim.status = .reserved ∧
      (record.activeClaimId = none ∨ record.activeClaimId = some claimId) ∧
      (InI128 (s.totalAllocated + claim.entitlement) ∧
        s.totalAllocated + claim.entitlement ≤ s.totalStaked) ∧
      InI128 ((getDailyEntitlement s (currentDay s)).1 + claim.entitlement) ∧
      (∃ stress, stressCap s = .ok stress ∧
        (getDailyEntitlement s (currentDay s)).1 + claim.entitlement ≤ stress) ∧
      admitClaim s claim.wallet claim.txHash claimId claim.entitlement claim.tier
        claim.hackTimestamp record false = .ok s' := by
  simp [tryReleaseQueuedClaim, listed, stored] at released
  obtain ⟨running, reserved, own, allocatedFits, solvent, dayFits, stress, stressed, within,
    admitted⟩ := released
  refine ⟨running, reserved, ?_, ⟨allocatedFits, solvent⟩, dayFits, ⟨stress, stressed, within⟩,
    admitted⟩
  cases held : record.activeClaimId with
  | none => exact .inl rfl
  | some activeId => simpa [held] using own

/-- An admission counts toward the oracle's daily limit when it is told to. -/
theorem admitClaim_count {wallet : Address} {txHash : BytesN 32} {entitlement : Int}
    {tier hackTimestamp : Nat} {counted : Bool}
    (admitted : admitClaim s wallet txHash claimId entitlement tier hackTimestamp record counted =
      .ok s') :
    s'.dailyClaimCount =
      (getDailyEntitlement s (currentDay s)).2 + if counted then 1 else 0 := by
  simp only [admitClaim, bind_eq_ok, u32_eq_ok, Except.ok.injEq] at admitted
  obtain ⟨_, -, _, ⟨-, rfl⟩, _, -, _, -, rfl⟩ := admitted
  rfl

/-- An admission takes the claim out of the queue. -/
theorem admitClaim_out_of_queue (host : Host D) {wallet : Address} {txHash : BytesN 32}
    {entitlement : Int} {tier hackTimestamp : Nat} {counted : Bool}
    (admitted : admitClaim s wallet txHash claimId entitlement tier hackTimestamp record counted =
      .ok s') : OutOfQueue s'.claims claimId := by
  obtain ⟨status, deadline, -, admission, after⟩ := admitClaim_books host admitted
  have claims : s'.claims = _ := congrArg Books.claims after
  rw [claims]
  exact ⟨_, Store.get_set_self _ _ _, ClaimStatus.ne_of_isPending admission.pending rfl⟩

/-- A submission that is queued is in the queue. -/
theorem queueClaim_in_queue {wallet : Address} {txHash : BytesN 32} {entitlement : Int}
    {tier hackTimestamp : Nat} :
    ¬ OutOfQueue (queueClaim s wallet txHash claimId entitlement tier hackTimestamp record).claims
      claimId := by
  rintro ⟨other, found, out⟩
  simp only [queueClaim, Store.get_set_self, Option.some.injEq] at found
  rw [← found] at out
  exact out rfl

/-- In every reachable state in which a queued claim is released, the admin's
submission of the same terms, with the queued claim and its reservation removed,
is admitted with the same state exactly when the admin is not the oracle and the
deposit is still eligible. -/
theorem release_agrees_with_submission_iff (host : Host D)
    {log : List (Entry (State D) (Action D) (Output D))} {s s' : State D}
    (run : (poolSystem host).Run System.anyStep log s) {env : Env} {claimId : D} {claim : Claim}
    {record : StakeRecord D} (listed : s.claims.get claimId = some claim)
    (stored : s.stakes.get claim.wallet = some record)
    (released : tryReleaseQueuedClaim s claimId = .ok s')
    (authorized : requireAuth host env s.admin = .ok ()) (deadline : Nat)
    (signature : BytesN 64) :
    submitClaim host env (s.withoutQueued claimId claim record) s.admin claim.wallet claim.txHash
          claim.entitlement claim.tier claim.hackTimestamp deadline signature =
        .ok (claimId, s') ↔
      s.admin ≠ s.oracle ∧ StillEligible s claimId claim record := by
  obtain ⟨running, reserved, own, ⟨allocatedFits, solvent⟩, dayFits, ⟨stress, stressed, within⟩,
    admitted⟩ := tryReleaseQueuedClaim_ok listed stored released
  have queued := queued_of_run run
  have pinned := queued.pinned claimId claim listed reserved
  obtain ⟨ratio, tiered⟩ := pinned.tiered
  have positive := ((wellKept_of_run run).claims claimId claim listed).positive
  have inactive : record.activeClaimId = none := by
    rcases own with none | self
    · exact none
    · obtain ⟨other, found, out⟩ := queued.inactive _ _ stored claimId self
      obtain rfl := Option.mem_unique listed found
      exact absurd reserved out
  have checks := fun u => requireEligibleStake_withoutReservation claimId u inactive pinned.past
    pinned.windowFits
  constructor
  · intro submitted
    simp only [submitClaim, bind_eq_ok, okOr_eq_ok] at submitted
    obtain ⟨_, -, _, -, _, -, _, -, _, -, _, -, record', stored', _, checked, _, -, _, -, _, -, _,
      -, outcome⟩ := submitted
    have own : record.withoutReservation claimId = record' := by
      simpa only [State.withoutQueued, Store.get_set_self, Option.some.injEq] using stored'
    subst own
    refine ⟨?_, (checks _).mp checked⟩
    intro oracle
    rw [← pinned.named] at outcome
    rcases ite_eq_ok.mp outcome with ⟨-, enqueued⟩ | ⟨-, readmitted⟩
    · -- a submission that is queued leaves the claim in the queue
      obtain ⟨-, rfl⟩ := Prod.mk.inj (Except.ok.inj enqueued)
      exact queueClaim_in_queue (admitClaim_out_of_queue host admitted)
    · -- one that is admitted is counted, the release is not
      simp only [bind_eq_ok, Except.ok.injEq, Prod.mk.injEq] at readmitted
      obtain ⟨after, readmitted, -, rfl⟩ := readmitted
      have counted := admitClaim_count (admitClaim_withoutQueued.symm.trans readmitted)
      have uncounted := admitClaim_count admitted
      have told : decide (s.admin = (s.withoutQueued claimId claim record).oracle) = true :=
        decide_eq_true oracle
      rw [counted, told] at uncounted
      simp at uncounted
  · rintro ⟨separate, eligible⟩
    have checked := (checks ()).mpr eligible
    have stillStored : (s.withoutQueued claimId claim record).stakes.get claim.wallet =
        some (record.withoutReservation claimId) := Store.get_set_self _ _ _
    have absent : (s.withoutQueued claimId claim record).claims.get claimId = none :=
      Store.get_remove_self _ _
    have admitted' := admitClaim_withoutQueued.trans admitted
    simp [submitClaim, stillStored, checked, ← pinned.named, absent]
    refine ⟨running, fun _ => rfl, requireAuth_eq_ok.mp authorized, positive, ⟨ratio, tiered⟩,
      ⟨(), if_neg separate⟩, allocatedFits, dayFits, stress, stressed, ?_⟩
    have uncounted : decide (s.admin = (s.withoutQueued claimId claim record).oracle) = false :=
      decide_eq_false separate
    rw [if_neg, uncounted, admitted']
    · rfl
    · rintro (insolvent | stressed | limited)
      · exact absurd insolvent (not_lt.mpr solvent)
      · exact absurd stressed (not_lt.mpr within)
      · simp only [oracleRateLimited, uncounted, Bool.false_and, Bool.false_eq_true] at limited

/-- The claim that waits in the sample queue. -/
def sampleQueued : Claim :=
  freshClaim (party 11) 0 (1000000 + secondsPerDay * 90) 30000 2000 1 .reserved 0

/-- The record of its wallet while it waits. -/
def sampleReservation : StakeRecord Nat where
  beneficiaryHash := addressHash sampleHost (party 21)
  amount := 2000
  stakedAtLedger := 1000
  stakedAtTimestamp := 1000000
  penaltyLockedUntilLedger := 0
  withdrawn := false
  suspended := false
  activeClaimId := none
  reservedClaimId := some (computeClaimId sampleHost (party 11) 0)

/-- The claim of the sample queue is released as it would be submitted. -/
theorem release_agrees_with_submission_sample :
    ∃ log s s', (poolSystem sampleHost).Run System.anyStep log s ∧
      tryReleaseQueuedClaim s (computeClaimId sampleHost (party 11) 0) = .ok s' ∧
      submitClaim sampleHost (.of [party 1] ⟨0, 0, 0, 0⟩)
          (s.withoutQueued (computeClaimId sampleHost (party 11) 0) sampleQueued sampleReservation)
          s.admin (party 11) 0 30000 1 (1000000 + secondsPerDay * 90) 0 0 =
        .ok (computeClaimId sampleHost (party 11) 0, s') := by
  obtain ⟨log, s, run, ends⟩ := System.exists_run_of_replay (poolSystem sampleHost)
    System.anyStep samplePool_deployed sampleQueue
    (fun _ s => s.claims.get (computeClaimId sampleHost (party 11) 0) = some sampleQueued ∧
      s.stakes.get (party 11) = some sampleReservation ∧
      (tryReleaseQueuedClaim s (computeClaimId sampleHost (party 11) 0)).isOk = true ∧
      s.admin = party 1 ∧ s.oracle = party 2 ∧ s.timestamp = 1000000 + secondsPerDay * 90)
    (by decide +kernel)
  obtain ⟨listed, stored, releases, admin, oracle, now⟩ := ends
  obtain ⟨s', released⟩ := exists_eq_ok releases
  refine ⟨log, s, s', run, released, ?_⟩
  apply (release_agrees_with_submission_iff sampleHost run listed stored released _ 0 0).mpr
  · constructor
    · rw [admin, oracle]
      decide
    · exact ⟨by decide, rfl, rfl, .inr rfl, ⟨30000, by decide, by decide⟩, by decide,
        by rw [now]; decide⟩
  · rw [admin]
    rfl

/-- The wallet of the sample queue withdraws before the release: the claim is
admitted without a deposit, and no submission of the same terms would be. -/
theorem release_after_withdrawal :
    ∃ log s claim record, (poolSystem sampleHost).Run System.anyStep log s ∧
      s.claims.get (computeClaimId sampleHost (party 11) 0) = some claim ∧
      s.stakes.get claim.wallet = some record ∧
      (tryReleaseQueuedClaim s (computeClaimId sampleHost (party 11) 0)).isOk = true ∧
      (submitClaim sampleHost (.of [party 1] ⟨0, 0, 0, 0⟩)
        (s.withoutQueued (computeClaimId sampleHost (party 11) 0) claim record) s.admin claim.wallet
        claim.txHash claim.entitlement claim.tier claim.hackTimestamp 0 0).isOk = false := by
  obtain ⟨log, s, run, ends⟩ := System.exists_run_of_replay (poolSystem sampleHost)
    System.anyStep samplePool_deployed
    (sampleQueue ++ [callBy 11 (.withdraw (party 11) (party 21))])
    (fun _ s => s.claims.get (computeClaimId sampleHost (party 11) 0) = some sampleQueued ∧
      s.stakes.get (party 11) =
        some { sampleReservation with withdrawn := true, amount := 0 } ∧
      (tryReleaseQueuedClaim s (computeClaimId sampleHost (party 11) 0)).isOk = true ∧
      (submitClaim sampleHost (.of [party 1] ⟨0, 0, 0, 0⟩)
        (s.withoutQueued (computeClaimId sampleHost (party 11) 0) sampleQueued
          { sampleReservation with withdrawn := true, amount := 0 }) s.admin (party 11) 0 30000 1
        (1000000 + secondsPerDay * 90) 0 0).isOk = false)
    (by decide +kernel)
  obtain ⟨listed, stored, releases, refused⟩ := ends
  exact ⟨log, s, _, _, run, listed, stored, releases, refused⟩

end ProtectionPool
