/-
Module: ProtectionPool.Proofs.Standstill
Purpose: What a pause stops.  As long as the pool stays paused no claim is submitted,
  moved on, put into effect or paid, no points are earned or burned and no day is
  counted.  What still happens are the exits of stakers on their own signature, the end
  of claims, and the admin's own business.
Trusted boundary: none
Main exports: PausedClaim, PausedDeposit, Standstill, paused_pool_stands_still
-/
import ProtectionPool.Books.Registration
import ProtectionPool.Proofs.CashBook

namespace ProtectionPool

open Checked

variable {D : Type}

/-! ### What may change -/

/-- A claim under a pause: it ends or stays in its status, and only the two clocks that
the admin restarts may move. -/
structure PausedClaim (claim claim' : Claim) : Prop where
  terms : claim' =
    { claim with
      status := claim'.status
      approveDeadlineLedger := claim'.approveDeadlineLedger
      lastCollectedLedger := claim'.lastCollectedLedger }
  status : claim'.status = claim.status ∨
    (claim.status.isLive = true ∧ (claim'.status = .expired ∨ claim'.status = .cancelled))

/-- A deposit under a pause: what it earns on stays, it loses no queued claim and gains no
active one, and only the staker's own exit takes it out. -/
structure PausedDeposit (exits : Prop) (record record' : StakeRecord D) : Prop where
  beneficiary : record'.beneficiaryHash = record.beneficiaryHash
  ledger : record'.stakedAtLedger = record.stakedAtLedger
  timestamp : record'.stakedAtTimestamp = record.stakedAtTimestamp
  slot : record'.reservedClaimId = record.reservedClaimId
  active : record'.activeClaimId = record.activeClaimId ∨ record'.activeClaimId = none
  amount : record'.amount = record.amount ∨ (record'.amount = 0 ∧ exits)

/-- A wallet took its deposit out by an emergency exit. -/
def ExitedIn (log : Log D) (wallet : Address) : Prop :=
  ∃ e ∈ log, ∃ env, e.action = .invoke env (.emergencyExit wallet)

variable [DecidableEq D]

/-- What two registers have in common when the pool was paused in between. -/
structure Standstill (log : Log D) (before after : Register D) : Prop where
  paused : after.paused = true
  points : after.pointsBalances = before.pointsBalances
  outflow : after.dailyOutflow = before.dailyOutflow ∧
    after.lastOutflowDay = before.lastOutflowDay
  entitlement : after.dailyEntitlementTotal = before.dailyEntitlementTotal ∧
    after.lastEntitlementDay = before.lastEntitlementDay ∧
    after.dailyClaimCount = before.dailyClaimCount
  requests : ∀ claimId req, after.overrides.get claimId = some req →
    before.overrides.get claimId = some req
  claims : Store.Evolves (fun _ => PausedClaim) before.claims after.claims
  deposits : Store.Evolves (fun wallet => PausedDeposit (ExitedIn log wallet)) before.stakes
    after.stakes

/-- The steps that do not lift the pause. -/
def keepsPause : System.Guard (State D) (Action D) (Output D) :=
  fun _ _ action =>
    match action with
    | .invoke _ .unpause => False
    | _ => True

instance (log : Log D) (s : State D) (action : Action D) :
    Decidable (keepsPause log s action) := by
  induction action using Action.casesOn with
  | invoke env call =>
      induction call using Call.casesOn with
      | unpause => exact inferInstanceAs (Decidable False)
      | _ => exact inferInstanceAs (Decidable True)
  | _ => exact inferInstanceAs (Decidable True)

variable {host : Host D} {s s' : State D} {action : Action D} {output : Output D}
  {r r' : Register D} {log : Log D}

/-! ### The step -/

theorem PausedClaim.refl (claim : Claim) : PausedClaim claim claim := ⟨rfl, .inl rfl⟩

omit [DecidableEq D] in
theorem PausedDeposit.refl {exits : Prop} (record : StakeRecord D) :
    PausedDeposit exits record record :=
  ⟨rfl, rfl, rfl, rfl, .inl rfl, .inl rfl⟩

/-- A live claim ends. -/
theorem PausedClaim.ends {first claim : Claim} {status : ClaimStatus}
    (paused : PausedClaim first claim) (live : claim.status.isLive = true)
    (ended : status = .expired ∨ status = .cancelled) :
    PausedClaim first { claim with status := status } := by
  refine ⟨?_, .inr ⟨?_, ended⟩⟩
  · rw [paused.terms]
  · rcases paused.status with same | ⟨wasLive, -⟩
    · rwa [← same]
    · exact wasLive

/-- The clocks of a claim are restarted. -/
theorem PausedClaim.restarts {first claim : Claim} (paused : PausedClaim first claim)
    (now : Nat) : PausedClaim first (claim.restarted now) := by
  unfold Claim.restarted
  split
  · exact ⟨by rw [paused.terms], paused.status⟩
  · exact ⟨by rw [paused.terms], paused.status⟩
  · exact paused

omit [DecidableEq D] in
/-- A claim pointer of a deposit is cleared. -/
theorem PausedDeposit.released {exits : Prop} {first record : StakeRecord D}
    (paused : PausedDeposit exits first record) :
    PausedDeposit exits first { record with activeClaimId := none } :=
  ⟨paused.beneficiary, paused.ledger, paused.timestamp, paused.slot, .inr rfl, paused.amount⟩

/-- What a longer log tells about a deposit. -/
theorem Standstill.extend {before : Register D} (still : Standstill log before r)
    (e : Entry (State D) (Action D) (Output D)) : Standstill (e :: log) before r := by
  refine { still with deposits := still.deposits.imp ?_ }
  rintro wallet record record' ⟨beneficiary, ledger, timestamp, slot, active, amount⟩
  refine ⟨beneficiary, ledger, timestamp, slot, active, amount.imp id ?_⟩
  rintro ⟨empty, earlier, logged, exited⟩
  exact ⟨empty, earlier, List.mem_cons_of_mem _ logged, exited⟩

/-- Every step that does not lift the pause keeps the standstill. -/
theorem Standstill.step {before : Register D} {e : Entry (State D) (Action D) (Output D)}
    (still : Standstill log before r) (step : RegisterStep host e.action output r r')
    (keeps : keepsPause log e.pre e.action) : Standstill (e :: log) before r' := by
  have exited : ∀ {env : Env} {staker : Address}, e.action = .invoke env (.emergencyExit staker) →
      ExitedIn (e :: log) staker := by
    intro env staker called
    exact ⟨e, List.mem_cons_self, env, called⟩
  replace still := still.extend e
  obtain ⟨paused, points, outflow, entitlement, requests, claims, deposits⟩ := still
  generalize called : e.action = action at step
  cases step with
  | unpaused =>
      rw [called] at keeps
      cases keeps
  | staked running | beneficiarySet running | withdrawn running | released running
  | queueExpired running | unlocked running | approved running | streamed running =>
      rw [running] at paused
      cases paused
  | queued submission | admitted submission =>
      rw [submission.running] at paused
      cases paused
  | overridePending approval | overrideExecuted approval =>
      rw [approval.running] at paused
      cases paused
  | emergencyExited stored =>
      refine ⟨paused, points, outflow, entitlement, requests, claims, deposits.rewrite stored ?_⟩
      rintro first ⟨beneficiary, ledger, timestamp, slot, active, -⟩
      exact ⟨beneficiary, ledger, timestamp, slot, active, .inr ⟨rfl, exited called⟩⟩
  | suspended stored | unsuspended stored =>
      refine ⟨paused, points, outflow, entitlement, requests, claims, deposits.rewrite stored ?_⟩
      rintro first ⟨beneficiary, ledger, timestamp, slot, active, amount⟩
      exact ⟨beneficiary, ledger, timestamp, slot, active, amount⟩
  | restarted listed stored =>
      refine ⟨paused, points, outflow, entitlement, requests,
        claims.rewrite listed fun first same => same.restarts _, deposits.rewrite stored ?_⟩
      rintro first ⟨beneficiary, ledger, timestamp, slot, active, amount⟩
      exact ⟨beneficiary, ledger, timestamp, slot, active, amount⟩
  | approvalExpired listed status stored | staleExpired listed status _ stored =>
      refine ⟨paused, points, outflow, entitlement, requests, claims.rewrite listed ?_,
        deposits.rewrite stored fun first same => same.released⟩
      exact fun first same => same.ends (by rw [status]; rfl) (.inl rfl)
  | droppedPending listed pending stored =>
      refine ⟨paused, points, outflow, entitlement, requests, claims.rewrite listed ?_,
        deposits.rewrite stored fun first same => same.released⟩
      exact fun first same => same.ends (ClaimStatus.isLive_of_isPending pending) (.inr rfl)
  | reversed listed status stored =>
      refine ⟨paused, points, outflow, entitlement, requests, claims.rewrite listed ?_,
        deposits.rewrite stored ?_⟩
      · exact fun first same => same.ends (by rw [status]; rfl) (.inr rfl)
      · rintro first ⟨beneficiary, ledger, timestamp, slot, -, amount⟩
        exact ⟨beneficiary, ledger, timestamp, slot, .inr rfl, amount⟩
  | @overrideCancelled _ _ _ wallet txHash _ role pending =>
      refine ⟨paused, points, outflow, entitlement, ?_, claims, deposits⟩
      intro claimId req stored
      apply requests
      by_cases same : claimId = computeClaimId host wallet txHash
      · rw [same, Store.get_remove_self] at stored
        cases stored
      · rwa [Store.get_remove_ne _ same] at stored
  | paused => exact ⟨rfl, points, outflow, entitlement, requests, claims, deposits⟩
  | funds | clock | oracleSet | pubkeySet | identitySet | coSignerSet | adminTransferred
  | revoked => exact ⟨paused, points, outflow, entitlement, requests, claims, deposits⟩

/-- A pool that stays paused stands still. -/
theorem standstill_of_run {opening : State D} (paused : opening.paused = true)
    (run : ((poolSystem host).startingAt opening).Run keepsPause log s) :
    Standstill log opening.register s.register := by
  induction run with
  | start initial =>
      obtain rfl := initial
      exact ⟨paused, rfl, ⟨rfl, rfl⟩, ⟨rfl, rfl, rfl⟩, fun _ _ => id,
        .refl (fun _ => PausedClaim.refl) _, .refl (fun _ => PausedDeposit.refl) _⟩
  | @step log s s' action output run met stepped inductionHypothesis =>
      exact inductionHypothesis.step (e := ⟨s, action, output, s'⟩) (step_registers stepped) met

/-- A transfer on its grounds while the pool is paused goes to an exiting staker or to the
treasury. -/
theorem Sanctioned.of_paused {env : Env} {call : Call D} {t : Accounts.Transfer Address Int}
    (sanctioned : Sanctioned host env s call t) (paused : s.paused = true) :
    call = .emergencyExit t.payee ∨ s.treasury = some t.payee := by
  cases sanctioned with
  | deposit unpaused | withdrawal unpaused | payout unpaused =>
      rw [unpaused] at paused
      cases paused
  | exit => exact .inl rfl
  | extraction _ recipient | surplus _ recipient => exact .inr recipient

/-- From any paused state on and whatever is called in whatever order, as long as nobody
lifts the pause, the pool stands still, and its transfers go to stakers that exit and to the
treasury only. -/
theorem paused_pool_stands_still (host : Host D) {opening : State D} {log : Log D}
    {s : State D} (paused : opening.paused = true)
    (run : ((poolSystem host).startingAt opening).Run keepsPause log s) :
    Standstill log opening.register s.register ∧
      ∀ e ∈ log, ∀ t ∈ e.action.ordered host e.pre e.result,
        (∃ env, e.action = .invoke env (.emergencyExit t.payee)) ∨
          e.pre.treasury = some t.payee := by
  refine ⟨standstill_of_run paused run, ?_⟩
  refine run.entries (P := fun e => ∀ t ∈ e.action.ordered host e.pre e.result,
    (∃ env, e.action = .invoke env (.emergencyExit t.payee)) ∨
      e.pre.treasury = some t.payee) ?_
  intro log s action output s' run _ stepped t member
  cases action with
  | invoke env call =>
      have sanctioned := dispatch_sanctioned stepped t member
      rcases sanctioned.of_paused (standstill_of_run paused run).paused with rfl | recipient
      · exact .inl ⟨env, rfl⟩
      · exact .inr recipient
  | closeLedger | moveXlm | moveShares => cases member

/-- A claim in effect is cancelled and a staker leaves while the pool is paused. -/
theorem paused_pool_stands_still_sample :
    ∃ opening log s, opening.paused = true ∧
      ((poolSystem sampleHost).startingAt opening).Run keepsPause log s ∧ log.length = 4 ∧
      Standstill log opening.register s.register ∧
      ∀ e ∈ log, ∀ t ∈ e.action.ordered sampleHost e.pre e.result,
        (∃ env, e.action = .invoke env (.emergencyExit t.payee)) ∨
          e.pre.treasury = some t.payee := by
  obtain ⟨_, _, _, opening, log, s, -, -, run, halted, four⟩ :=
    System.exists_continuation_of_replay (poolSystem sampleHost) keepsPause keepsPause
    samplePool_deployed (sampleOpening 20000) (callBy 1 .pause)
    [afterDays 60, callBy 1 (.cancelClaim (computeClaimId sampleHost (party 11) 0)),
      callBy 12 (.emergencyExit (party 12)), callBy 11 (.emergencyExit (party 11))]
    (fun _ s₁ log _ => s₁.paused = true ∧ log.length = 4) (by decide +kernel)
  obtain ⟨still, transfers⟩ := paused_pool_stands_still sampleHost halted run
  exact ⟨opening, log, s, halted, run, four, still, transfers⟩

end ProtectionPool
