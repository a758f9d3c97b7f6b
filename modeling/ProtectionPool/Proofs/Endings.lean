/-
Module: ProtectionPool.Proofs.Endings
Purpose: No claim has to wait for anybody.  Unless the admin paused the pool or suspended
  the wallet, every claim that is queued, admitted or not yet paid in full can be brought to
  its end by the passing of time and by calls that need no signature, within a number of
  ledgers known beforehand, and what it holds in the allocation is set free.
Trusted boundary: none
Main exports: endingLedgers, ClocksNear, clocksNear_of_run, Claim.Open, claim_can_end
-/
import ProtectionPool.Proofs.Authority
import ProtectionPool.Proofs.Calendar
import ProtectionPool.Proofs.WellKept
import ProtectionPool.Library.Replay

namespace ProtectionPool

open Checked

variable {D : Type}

/-! ### The clocks are near -/

/-- The ledgers any claim takes to end by itself. -/
def endingLedgers : Nat :=
  max (timeGateLedgers + approveWindowLedgers) (cooldownLedgers + collectionInactivityLedgers) + 1

/-- The clocks of a claim do not lie further ahead than they are ever set. -/
structure Claim.ClocksNear (now : Nat) (claim : Claim) : Prop where
  deadline : claim.approveDeadlineLedger ≤ now + approveWindowLedgers
  collected : claim.lastCollectedLedger ≤ now + cooldownLedgers

theorem Claim.ClocksNear.mono {now later : Nat} {claim : Claim} (near : claim.ClocksNear now)
    (notLater : now ≤ later) : claim.ClocksNear later :=
  ⟨near.deadline.trans (Nat.add_le_add_right notLater _),
    near.collected.trans (Nat.add_le_add_right notLater _)⟩

/-- A claim whose clocks are as they were. -/
theorem Claim.ClocksNear.same {now : Nat} {claim claim' : Claim} (near : claim.ClocksNear now)
    (deadline : claim'.approveDeadlineLedger = claim.approveDeadlineLedger)
    (collected : claim'.lastCollectedLedger = claim.lastCollectedLedger) :
    claim'.ClocksNear now :=
  ⟨deadline.trans_le near.deadline, collected.trans_le near.collected⟩

variable [DecidableEq D]

/-- No deposit was made later than now, and the clocks of all claims are near. -/
structure ClocksNear (r : Register D) : Prop where
  deposits : Store.All (fun _ record => record.stakedAtLedger ≤ r.sequence) r.stakes
  claims : Store.All (fun _ claim => claim.ClocksNear r.sequence) r.claims

variable {host : Host D} {s s' : State D} {action : Action D} {output : Output D}
  {r r' : Register D} {claimId : D} {claim : Claim} {record : StakeRecord D} {now : Nat}

theorem Claim.ClocksNear.restarted (near : claim.ClocksNear now) :
    (claim.restarted now).ClocksNear now := by
  unfold Claim.restarted
  split
  · exact ⟨le_refl _, near.collected⟩
  · exact ⟨near.deadline, Nat.le_add_right _ _⟩
  · exact near

/-- Every step keeps the clocks near. -/
theorem ClocksNear.step (near : ClocksNear r) (step : RegisterStep host action output r r') :
    ClocksNear r' := by
  obtain ⟨deposits, claims⟩ := near
  have rewritten : ∀ {owner : Address} {stored written : StakeRecord D},
      r.stakes.get owner = some stored → written.stakedAtLedger = stored.stakedAtLedger →
      Store.All (fun _ record => record.stakedAtLedger ≤ r.sequence)
        (r.stakes.set owner written) := by
    intro owner stored written found same
    exact deposits.set (same.trans_le (deposits _ _ found))
  cases step with
  | clock advances =>
      refine ⟨deposits.imp fun _ _ earlier => earlier.trans advances, ?_⟩
      exact claims.imp fun _ _ near => near.mono advances
  | staked => exact ⟨deposits.set (le_refl _), claims⟩
  | beneficiarySet _ stored | withdrawn _ stored | emergencyExited stored | suspended stored
  | unsuspended stored => exact ⟨rewritten stored rfl, claims⟩
  | restarted listed stored =>
      exact ⟨rewritten stored rfl, claims.set (claims _ _ listed).restarted⟩
  | queued submission =>
      exact ⟨rewritten submission.stored rfl, claims.set ⟨Nat.zero_le _, Nat.zero_le _⟩⟩
  | admitted submission admission =>
      refine ⟨rewritten submission.stored rfl, claims.set ⟨?_, Nat.zero_le _⟩⟩
      rcases admission with ⟨-, rfl, -⟩ | ⟨-, rfl, -⟩
      · exact le_refl _
      · exact Nat.zero_le _
  | released _ _ _ stored _ admission =>
      refine ⟨rewritten stored rfl, claims.set ⟨?_, Nat.zero_le _⟩⟩
      rcases admission with ⟨-, rfl, -⟩ | ⟨-, rfl, -⟩
      · exact le_refl _
      · exact Nat.zero_le _
  | queueExpired _ listed _ stored | approvalExpired listed _ stored
  | staleExpired listed _ _ stored | droppedPending listed _ stored | reversed listed _ stored =>
      exact ⟨rewritten stored rfl, claims.set ((claims _ _ listed).same rfl rfl)⟩
  | unlocked _ listed =>
      exact ⟨deposits, claims.set ⟨le_refl _, (claims _ _ listed).collected⟩⟩
  | approved _ listed _ _ stored =>
      exact ⟨rewritten stored rfl, claims.set ⟨(claims _ _ listed).deadline, le_refl _⟩⟩
  | overrideExecuted _ _ _ stored =>
      exact ⟨rewritten stored rfl, claims.set ⟨Nat.zero_le _, le_refl _⟩⟩
  | streamed _ listed =>
      exact ⟨deposits, claims.set ⟨(claims _ _ listed).deadline, Nat.le_add_right _ _⟩⟩
  | funds | oracleSet | pubkeySet | identitySet | coSignerSet | adminTransferred | paused
  | unpaused | overridePending | overrideCancelled | revoked => exact ⟨deposits, claims⟩

theorem clocksNear_of_run {guard : System.Guard (State D) (Action D) (Output D)} {log : Log D}
    (run : (poolSystem host).Run guard log s) : ClocksNear s.register := by
  refine run.invariant (P := fun _ s => ClocksNear s.register) ?_ ?_
  · intro s deployed
    obtain ⟨noStakes, noClaims, -⟩ := deployed_books deployed
    constructor
    · simp only [State.register, noStakes, Store.all_empty]
    · simp only [State.register, noClaims, Store.all_empty]
  · intro log s action output s' _ near _ stepped
    exact near.step (step_registers stepped)

/-! ### Calls that end a claim -/

/-- A claim that holds a place in the queue or a part of the allocation. -/
def Claim.Open (claim : Claim) : Prop :=
  claim.status = .reserved ∨ (claim.status.isLive = true ∧ claim.streamed < claim.entitlement)

instance (claim : Claim) : Decidable claim.Open :=
  inferInstanceAs (Decidable (_ ∨ _))

/-- A call nobody signed. -/
def byAnyone (call : Call D) : Action D :=
  .invoke (.of [] ⟨0, 0, 0, 0⟩) call

/-- A deposit without the claim that ended. -/
def StakeRecord.freed (record : StakeRecord D) (status : ClaimStatus) : StakeRecord D :=
  if status = .reserved then { record with reservedClaimId := none }
  else { record with activeClaimId := none }

/-- What the end of a claim leaves behind: what it held is released, and the wallet's
deposit is free of it and otherwise as it was. -/
structure Ended (claimId : D) (claim : Claim) (record : StakeRecord D) (s s' : State D) :
    Prop where
  expired : ∃ claim', s'.claims.get claimId = some claim' ∧ claim'.status = .expired ∧
    claim'.entitlement = claim.entitlement ∧ claim'.streamed = claim.streamed
  released : s'.totalAllocated = s.totalAllocated - claim.reserved
  staked : s'.totalStaked = s.totalStaked
  freed : s'.stakes.get claim.wallet = some (record.freed claim.status)
  soon : s'.sequence ≤ s.sequence + endingLedgers

/-- A claim is brought to its end by actions nobody signed. -/
def EndsUnaided (host : Host D) (claimId : D) (claim : Claim) (record : StakeRecord D)
    (s : State D) : Prop :=
  ∃ actions s', (∀ action ∈ actions, action.signers = []) ∧
    (poolSystem host).after s actions = .ok s' ∧ Ended claimId claim record s s'

theorem expireQueuedClaim_step (host : Host D) (s : State D) (unpaused : s.paused = false)
    (listed : s.claims.get claimId = some claim) (reserved : claim.status = .reserved)
    (stored : s.stakes.get claim.wallet = some record)
    (fits : claim.hackTimestamp + claimWindowSeconds < 2 ^ 64)
    (late : claim.hackTimestamp + claimWindowSeconds < s.timestamp) :
    poolStep host s (byAnyone (.expireQueuedClaim claimId)) = .ok (.unit,
      { s with
        stakes := s.stakes.set claim.wallet { record with reservedClaimId := none }
        claims := s.claims.set claimId { claim with status := .expired } }) := by
  simp only [byAnyone, poolStep, dispatch, returningUnit_eq_ok, expireQueuedClaim, bind_eq_ok,
    requireNotPaused_eq_ok, okOr_eq_ok, rejectIf_eq_ok, u64_eq_ok, and_true]
  exact ⟨(), unpaused, claim, listed, (), not_not.mpr reserved, _, ⟨fits, rfl⟩, (),
    not_le.mpr late, record, stored, rfl⟩

theorem unlockPendingClaim_step (host : Host D) (s : State D) (unpaused : s.paused = false)
    (listed : s.claims.get claimId = some claim) (pending : claim.status = .pendingTime)
    (stored : s.stakes.get claim.wallet = some record)
    (gate : record.stakedAtLedger + timeGateLedgers ≤ s.sequence)
    (fits : s.sequence + approveWindowLedgers < 2 ^ 32) :
    poolStep host s (byAnyone (.unlockPendingClaim claimId)) = .ok (.unit,
      { s with
        claims := s.claims.set claimId
          { claim with
            status := .awaitingApproval
            approveDeadlineLedger := s.sequence + approveWindowLedgers } }) := by
  simp only [byAnyone, poolStep, dispatch, returningUnit_eq_ok, unlockPendingClaim, bind_eq_ok,
    requireNotPaused_eq_ok, okOr_eq_ok, rejectIf_eq_ok, u32_eq_ok, and_true]
  exact ⟨(), unpaused, claim, listed, (), not_not.mpr pending, record, stored, _,
    ⟨by omega, rfl⟩, (), not_lt.mpr gate, _, ⟨fits, rfl⟩, rfl⟩

theorem expirePendingApproval_step (host : Host D) (s : State D)
    (listed : s.claims.get claimId = some claim)
    (awaiting : claim.status = .awaitingApproval)
    (stored : s.stakes.get claim.wallet = some record) (unsuspended : record.suspended = false)
    (late : claim.approveDeadlineLedger < s.sequence) :
    poolStep host s (byAnyone (.expirePendingApproval claimId)) = .ok (.unit,
      { s with
        totalAllocated := saturatingSub s.totalAllocated claim.entitlement
        stakes := s.stakes.set claim.wallet { record with activeClaimId := none }
        claims := s.claims.set claimId { claim with status := .expired } }) := by
  simp only [byAnyone, poolStep, dispatch, returningUnit_eq_ok, expirePendingApproval, bind_eq_ok,
    okOr_eq_ok, rejectIf_eq_ok, and_true]
  exact ⟨claim, listed, (), not_not.mpr awaiting, record, stored, (), by simp [unsuspended], (),
    not_le.mpr late, rfl⟩

theorem expireStaleClaim_step (host : Host D) (s : State D)
    (listed : s.claims.get claimId = some claim)
    (active : claim.status = .active) (unpaid : claim.streamed < claim.entitlement)
    (stored : s.stakes.get claim.wallet = some record) (unsuspended : record.suspended = false)
    (late : collectionInactivityLedgers < s.sequence - claim.lastCollectedLedger)
    (fits : InI128 (claim.entitlement - claim.streamed)) :
    poolStep host s (byAnyone (.expireStaleClaim claimId)) = .ok (.unit,
      { s with
        totalAllocated := saturatingSub s.totalAllocated (claim.entitlement - claim.streamed)
        stakes := s.stakes.set claim.wallet { record with activeClaimId := none }
        claims := s.claims.set claimId { claim with status := .expired } }) := by
  simp only [byAnyone, poolStep, dispatch, returningUnit_eq_ok, expireStaleClaim, bind_eq_ok,
    okOr_eq_ok, rejectIf_eq_ok, i128_eq_ok, and_true]
  exact ⟨claim, listed, (), not_not.mpr active, (), not_le.mpr unpaid, record, stored, (),
    by simp [unsuspended], (), not_le.mpr late, _, ⟨fits, rfl⟩, rfl⟩

/-- What a live claim holds is released exactly. -/
theorem saturatingSub_reserved (kept : (s.books host).WellKept)
    (listed : s.claims.get claimId = some claim) (live : claim.status.isLive = true)
    (unpaid : claim.streamed < claim.entitlement) :
    saturatingSub s.totalAllocated (claim.entitlement - claim.streamed) =
        s.totalAllocated - claim.reserved ∧
      InI128 (claim.entitlement - claim.streamed) := by
  have reserved : claim.reserved = claim.entitlement - claim.streamed := if_pos live
  have covered : claim.outstanding ≤ s.totalAllocated := kept.outstanding_le listed
  have bounded : s.totalAllocated ≤ i128Max := kept.allocatedFits
  rw [Claim.outstanding, if_pos live, max_eq_left (by omega)] at covered
  rw [reserved]
  have fits : ∀ x, 0 ≤ x → x ≤ s.totalAllocated → InI128 x := fun x nonneg below =>
    ⟨le_trans (by decide) nonneg, below.trans bounded⟩
  exact ⟨saturateI128_of_fits (fits _ (by omega) (by omega)), fits _ (by omega) (by omega)⟩

/-! ### The end -/

/-- Time goes on until a ledger. -/
def waitUntil (s : State D) (sequence : Nat) : Action D := .closeLedger sequence s.timestamp

theorem waitUntil_step (host : Host D) (s : State D) {sequence : Nat}
    (later : s.sequence ≤ sequence) (fits : sequence < 2 ^ 32) (time : s.timestamp < 2 ^ 64) :
    poolStep host s (waitUntil s sequence) = .ok (.unit, { s with sequence := sequence }) :=
  closeLedger_step host s later fits (le_refl _) time

omit [DecidableEq D] in
theorem unsigned_pair {first second : Action D} (one : first.signers = [])
    (two : second.signers = []) : ∀ action ∈ [first, second], action.signers = [] := by
  intro action member
  rcases List.mem_pair.mp member with rfl | rfl
  · exact one
  · exact two

theorem endingLedgers_bounds :
    timeGateLedgers + approveWindowLedgers + 1 ≤ endingLedgers ∧
      cooldownLedgers + collectionInactivityLedgers + 1 ≤ endingLedgers := by decide

/-- A queued claim ends once its claim window is over. -/
theorem ends_of_reserved (unpaused : s.paused = false)
    (listed : s.claims.get claimId = some claim) (reserved : claim.status = .reserved)
    (stored : s.stakes.get claim.wallet = some record)
    (clock : s.sequence < 2 ^ 32) (time : s.timestamp < 2 ^ 64)
    (window : claim.hackTimestamp + claimWindowSeconds + 1 < 2 ^ 64) :
    EndsUnaided host claimId claim record s := by
  have waits := closeLedger_step host s (le_refl s.sequence) clock
    (le_max_left s.timestamp (claim.hackTimestamp + claimWindowSeconds + 1)) (by omega)
  have expires := expireQueuedClaim_step host
    { s with
      timestamp := max s.timestamp (claim.hackTimestamp + claimWindowSeconds + 1) }
    unpaused listed reserved stored (by omega) (Nat.lt_of_succ_le (le_max_right _ _))
  refine ⟨[.closeLedger s.sequence
      (max s.timestamp (claim.hackTimestamp + claimWindowSeconds + 1)),
    byAnyone (.expireQueuedClaim claimId)], _, unsigned_pair rfl rfl,
    (System.after_cons waits).trans (System.after_cons expires), ?_⟩
  have nothing : claim.reserved = 0 := by
    rw [Claim.reserved, reserved]
    rfl
  constructor
  · exact ⟨_, Store.get_set_self .., rfl, rfl, rfl⟩
  · rw [nothing, sub_zero]
  · rfl
  · rw [StakeRecord.freed, if_pos reserved]
    exact Store.get_set_self ..
  · exact Nat.le_add_right _ _

/-- A claim awaiting approval ends once its window is over. -/
theorem ends_of_awaiting (kept : (s.books host).WellKept) (near : ClocksNear s.register)
    (clock : s.sequence + approveWindowLedgers + 1 < 2 ^ 32) (time : s.timestamp < 2 ^ 64)
    (listed : s.claims.get claimId = some claim) (awaiting : claim.status = .awaitingApproval)
    (unpaid : claim.streamed < claim.entitlement)
    (stored : s.stakes.get claim.wallet = some record) (unsuspended : record.suspended = false) :
    ∃ actions s', (∀ action ∈ actions, action.signers = []) ∧
      (poolSystem host).after s actions = .ok s' ∧ Ended claimId claim record s s' ∧
      s'.sequence ≤ s.sequence + approveWindowLedgers + 1 := by
  have live : claim.status.isLive = true := by rw [awaiting]; rfl
  have unstreamed : claim.streamed = 0 :=
    (kept.claims _ _ listed).unpaid (.inr (by rw [awaiting]; rfl))
  obtain ⟨released, -⟩ := saturatingSub_reserved kept listed live unpaid
  rw [unstreamed, sub_zero] at released
  have deadline := (near.claims _ _ listed).deadline
  change claim.approveDeadlineLedger ≤ s.sequence + approveWindowLedgers at deadline
  have soon : max s.sequence (claim.approveDeadlineLedger + 1) ≤
      s.sequence + approveWindowLedgers + 1 := by omega
  have waits := waitUntil_step host s
    (le_max_left s.sequence (claim.approveDeadlineLedger + 1)) (by omega) time
  have expires := expirePendingApproval_step host
    { s with sequence := max s.sequence (claim.approveDeadlineLedger + 1) }
    listed awaiting stored unsuspended (Nat.lt_of_succ_le (le_max_right _ _))
  refine ⟨[waitUntil s (max s.sequence (claim.approveDeadlineLedger + 1)),
    byAnyone (.expirePendingApproval claimId)], _, unsigned_pair rfl rfl,
    (System.after_cons waits).trans (System.after_cons expires), ?_, soon⟩
  constructor
  · exact ⟨_, Store.get_set_self .., rfl, rfl, rfl⟩
  · exact released
  · rfl
  · rw [StakeRecord.freed, if_neg (by rw [awaiting]; decide)]
    exact Store.get_set_self ..
  · have bounds := endingLedgers_bounds.1
    exact soon.trans (by omega)

/-- A claim in effect ends once nothing was collected for long enough. -/
theorem ends_of_active (kept : (s.books host).WellKept) (near : ClocksNear s.register)
    (clock : s.sequence + endingLedgers < 2 ^ 32) (time : s.timestamp < 2 ^ 64)
    (listed : s.claims.get claimId = some claim) (active : claim.status = .active)
    (unpaid : claim.streamed < claim.entitlement)
    (stored : s.stakes.get claim.wallet = some record) (unsuspended : record.suspended = false) :
    EndsUnaided host claimId claim record s := by
  have live : claim.status.isLive = true := by rw [active]; rfl
  obtain ⟨released, fits⟩ := saturatingSub_reserved kept listed live unpaid
  have bounds := endingLedgers_bounds.2
  have collected := (near.claims _ _ listed).collected
  change claim.lastCollectedLedger ≤ s.sequence + cooldownLedgers at collected
  have soon : max s.sequence (claim.lastCollectedLedger + collectionInactivityLedgers + 1) ≤
      s.sequence + endingLedgers := by omega
  have waits := waitUntil_step host s
    (le_max_left s.sequence (claim.lastCollectedLedger + collectionInactivityLedgers + 1))
    (by omega) time
  have late : collectionInactivityLedgers <
      max s.sequence (claim.lastCollectedLedger + collectionInactivityLedgers + 1) -
        claim.lastCollectedLedger := by omega
  have expires := expireStaleClaim_step host
    { s with
      sequence := max s.sequence (claim.lastCollectedLedger + collectionInactivityLedgers + 1) }
    listed active unpaid stored unsuspended late fits
  refine ⟨[waitUntil s
      (max s.sequence (claim.lastCollectedLedger + collectionInactivityLedgers + 1)),
    byAnyone (.expireStaleClaim claimId)], _, unsigned_pair rfl rfl,
    (System.after_cons waits).trans (System.after_cons expires), ?_⟩
  constructor
  · exact ⟨_, Store.get_set_self .., rfl, rfl, rfl⟩
  · exact released
  · rfl
  · rw [StakeRecord.freed, if_neg (by rw [active]; decide)]
    exact Store.get_set_self ..
  · exact soon

/-- A claim that waits for its time gate is unlocked first. -/
theorem ends_of_pending {log : Log D} (run : (poolSystem host).Run System.anyStep log s)
    (clock : s.sequence + endingLedgers < 2 ^ 32) (time : s.timestamp < 2 ^ 64)
    (unpaused : s.paused = false) (listed : s.claims.get claimId = some claim)
    (pending : claim.status = .pendingTime) (unpaid : claim.streamed < claim.entitlement)
    (stored : s.stakes.get claim.wallet = some record) (unsuspended : record.suspended = false) :
    EndsUnaided host claimId claim record s := by
  have bounds := endingLedgers_bounds.1
  have deposited := (clocksNear_of_run run).deposits _ _ stored
  change record.stakedAtLedger ≤ s.sequence at deposited
  have reached : max s.sequence (record.stakedAtLedger + timeGateLedgers) ≤
      s.sequence + timeGateLedgers := by omega
  have waits := waitUntil_step host s
    (le_max_left s.sequence (record.stakedAtLedger + timeGateLedgers)) (by omega) time
  have unlocks := unlockPendingClaim_step host
    { s with sequence := max s.sequence (record.stakedAtLedger + timeGateLedgers) }
    unpaused listed pending stored (le_max_right _ _)
    (show max s.sequence (record.stakedAtLedger + timeGateLedgers) + approveWindowLedgers < 2 ^ 32
      by omega)
  have opened : (poolSystem host).after s
      [waitUntil s (max s.sequence (record.stakedAtLedger + timeGateLedgers)),
        byAnyone (.unlockPendingClaim claimId)] = .ok _ :=
    (System.after_cons waits).trans (System.after_cons unlocks)
  obtain ⟨log', run', -⟩ := System.run_of_after run opened
  obtain ⟨actions, s', unsigned, taken, ended, soon⟩ := ends_of_awaiting (wellKept_of_run run')
    (clocksNear_of_run run')
    (show max s.sequence (record.stakedAtLedger + timeGateLedgers) + approveWindowLedgers + 1 <
      2 ^ 32 by omega) time (Store.get_set_self ..) rfl unpaid stored unsuspended
  refine ⟨[waitUntil s (max s.sequence (record.stakedAtLedger + timeGateLedgers)),
    byAnyone (.unlockPendingClaim claimId)] ++ actions, s', ?_, ?_, ?_⟩
  · intro action member
    rcases List.mem_append.mp member with first | later
    · exact unsigned_pair rfl rfl action first
    · exact unsigned action later
  · exact (System.after_cons waits).trans ((System.after_cons unlocks).trans taken)
  · obtain ⟨expired, released, staked, freed, -⟩ := ended
    refine ⟨expired, ?_, staked, ?_, ?_⟩
    · rw [released]
      simp only [Claim.reserved, pending, ClaimStatus.isLive]
    · rw [StakeRecord.freed, if_neg (by rw [pending]; decide)]
      exact freed
    · exact soon.trans (show max s.sequence (record.stakedAtLedger + timeGateLedgers) +
        approveWindowLedgers + 1 ≤ s.sequence + endingLedgers by omega)

/-- Time stays within its width. -/
theorem timestamp_fits {log : Log D} (run : (poolSystem host).Run System.anyStep log s) :
    s.timestamp < 2 ^ 64 := by
  refine run.invariant (P := fun _ s => s.timestamp < 2 ^ 64) ?_ ?_
  · rintro s ⟨env, sequence, timestamp, _, _, _, _, _, _, _, _, -, fits, -, built⟩
    simp [initializePool] at built
    obtain ⟨-, -, -, -, rfl⟩ := built
    exact fits
  · intro log s action output s' _ fits _ stepped
    have step := step_registers stepped
    change s.register.timestamp < 2 ^ 64 at fits
    change s'.register.timestamp < 2 ^ 64
    generalize s.register = r at step fits
    generalize s'.register = r' at step
    cases step with
    | clock _ _ _ timestampFits => exact timestampFits
    | _ => exact fits

/-- Every claim that is queued, admitted or not yet paid in full can be brought to its end by
waiting and by calls that nobody has to sign, within a bounded number of ledgers: what it
holds in the allocation is released, its deposit is free of it, and no stake is lost by
that.  A claim that waits in the queue or for its time gate needs a running pool, a claim
that is admitted an unsuspended wallet. -/
theorem claim_can_end (host : Host D) {log : Log D} {s : State D}
    (run : (poolSystem host).Run System.anyStep log s) {claimId : D} {claim : Claim}
    {record : StakeRecord D} (listed : s.claims.get claimId = some claim)
    (unfinished : claim.Open) (stored : s.stakes.get claim.wallet = some record)
    (unpaused : claim.status = .reserved ∨ claim.status = .pendingTime → s.paused = false)
    (unsuspended : claim.status ≠ .reserved → record.suspended = false)
    (clock : s.sequence + endingLedgers < 2 ^ 32)
    (window : claim.hackTimestamp + claimWindowSeconds + 1 < 2 ^ 64) :
    EndsUnaided host claimId claim record s := by
  have time := timestamp_fits run
  have kept := wellKept_of_run run
  have near := clocksNear_of_run run
  rcases unfinished with reserved | ⟨live, unpaid⟩
  · exact ends_of_reserved (unpaused (.inl reserved)) listed reserved stored (by omega) time window
  · cases status : claim.status with
    | pendingTime =>
        exact ends_of_pending run clock time (unpaused (.inr status)) listed status unpaid stored
          (unsuspended (by rw [status]; decide))
    | awaitingApproval =>
        have bounds := endingLedgers_bounds.1
        obtain ⟨actions, s', unsigned, taken, ended, -⟩ := ends_of_awaiting kept near (by omega)
          time listed status unpaid stored (unsuspended (by rw [status]; decide))
        exact ⟨actions, s', unsigned, taken, ended⟩
    | active =>
        exact ends_of_active kept near clock time listed status unpaid stored
          (unsuspended (by rw [status]; decide))
    | _ =>
        rw [status] at live
        cases live

/-- A claim submitted before the time gate of its deposit has passed. -/
def sampleWaiting : Claim :=
  freshClaim (party 11) 0 (1000000 + secondsPerDay * 30) 1000 2000 1 .pendingTime 0

/-- The deposit of its wallet. -/
def sampleHeld : StakeRecord Nat where
  beneficiaryHash := addressHash sampleHost (party 21)
  amount := 2000
  stakedAtLedger := 1000
  stakedAtTimestamp := 1000000
  penaltyLockedUntilLedger := 0
  withdrawn := false
  suspended := false
  activeClaimId := some (computeClaimId sampleHost (party 11) 0)
  reservedClaimId := none

theorem claim_can_end_sample :
    ∃ log s, (poolSystem sampleHost).Run System.anyStep log s ∧
      EndsUnaided sampleHost (computeClaimId sampleHost (party 11) 0) sampleWaiting sampleHeld
        s := by
  obtain ⟨log, s, run, unpaused, listed, stored, clock⟩ :=
    System.exists_run_of_replay (poolSystem sampleHost) System.anyStep samplePool_deployed
      [callBy 11 (.stake (party 11) 2000 (party 21)),
        callBy 12 (.stake (party 12) 100000 (party 22)), afterDays 30,
        callBy 1 (.submitClaim (party 1) (party 11) 0 1000 1 (1000000 + secondsPerDay * 30) 0 0)]
      (fun _ s => s.paused = false ∧
        s.claims.get (computeClaimId sampleHost (party 11) 0) = some sampleWaiting ∧
        s.stakes.get (party 11) = some sampleHeld ∧ s.sequence + endingLedgers < 2 ^ 32)
      (by decide +kernel)
  exact ⟨log, s, run, claim_can_end sampleHost run listed (by decide) stored (fun _ => unpaused)
    (fun _ => rfl) clock (by decide)⟩

end ProtectionPool
