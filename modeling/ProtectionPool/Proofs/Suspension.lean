/-
Module: ProtectionPool.Proofs.Suspension
Purpose: How long a suspension lasts.  The mark stands in the wallet's record, so
  it lasts until the admin lifts it as long as the wallet does not replace the
  record by a new deposit.
Trusted boundary: none
Main exports: frozen, HonoursSuspension, FrozenOnFile, suspension_holds
-/
import ProtectionPool.Proofs.Records

namespace ProtectionPool

variable {D : Type}

/-- Whether the last of the wallet's suspensions and unsuspensions is a
suspension. -/
def frozen : Log D → Address → Bool
  | [], _ => false
  | e :: past, wallet => (e.action.suspension wallet).getD (frozen past wallet)

variable [DecidableEq D]

/-- The wallet an action submits, approves or collects a claim for. -/
def Action.claimant (claims : Store D Claim) : Action D → Option Address
  | .invoke _ (.submitClaim _ wallet _ _ _ _ _ _) => some wallet
  | .invoke _ (.approveClaim claimId) => (claims.get claimId).map Claim.wallet
  | .invoke _ (.claimStream claimId _) => (claims.get claimId).map Claim.wallet
  | _ => none

/-- A step makes no use of a claim of a wallet whose suspension was not lifted. -/
def HonoursSuspension (past : Log D) (e : Entry (State D) (Action D) (Output D)) : Prop :=
  ∀ wallet ∈ e.action.claimant e.pre.claims, frozen past wallet = false

instance (past : Log D) (e : Entry (State D) (Action D) (Output D)) :
    Decidable (HonoursSuspension past e) :=
  inferInstanceAs (Decidable (∀ wallet ∈ e.action.claimant e.pre.claims, _))

/-- Whether a wallet's record is marked as suspended. -/
def isSuspended (stakes : Store Address (StakeRecord D)) (wallet : Address) : Bool :=
  (stakes.get wallet).any StakeRecord.suspended

/-- A suspension that was not lifted stands in the record, and no other does. -/
def FrozenOnFile (log : Log D) (s : State D) : Prop :=
  ∀ wallet, isSuspended s.stakes wallet = frozen log wallet

/-- No deposit is made by a wallet whose record is suspended. -/
def noSuspendedDeposit : System.Guard (State D) (Action D) (Output D) :=
  fun _ s action => ∀ staker ∈ action.staker, isSuspended s.stakes staker = false

instance (log : Log D) (s : State D) (action : Action D) :
    Decidable (noSuspendedDeposit log s action) :=
  inferInstanceAs (Decidable (∀ staker ∈ action.staker, _))

variable {host : Host D} {r r' : Register D} {action : Action D} {output : Output D}
  {wallet : Address} {record : StakeRecord D}

omit [DecidableEq D] in
theorem isSuspended_of_get {stakes : Store Address (StakeRecord D)}
    (stored : stakes.get wallet = some record) : isSuspended stakes wallet = record.suspended := by
  rw [isSuspended, stored, Option.any_some]

/-- Whoever submits, approves or collects a claim is not suspended. -/
theorem RegisterStep.claimant_unsuspended (step : RegisterStep host action output r r')
    (concerned : wallet ∈ action.claimant r.claims) : isSuspended r.stakes wallet = false := by
  cases step with
  | queued submission | admitted submission =>
      cases concerned
      rw [isSuspended_of_get submission.stored, submission.unsuspended]
  | approved _ listed _ _ stored unsuspended | streamed _ listed _ _ _ stored unsuspended =>
      simp only [Action.claimant, listed, Option.map_some, Option.mem_some_iff] at concerned
      rw [← concerned, isSuspended_of_get stored, unsuspended]
  | funds fundsOnly => cases action, fundsOnly using Action.fundsCases <;> cases concerned
  | _ => cases concerned

/-- A new deposit is not suspended. -/
theorem RegisterStep.deposit_unsuspended (step : RegisterStep host action output r r')
    (deposited : action.staker = some wallet) : isSuspended r'.stakes wallet = false := by
  cases step with
  | staked =>
      cases deposited
      rw [isSuspended, Store.get_set_self, Option.any_some]
  | funds fundsOnly => cases action, fundsOnly using Action.fundsCases <;> cases deposited
  | _ => cases deposited

/-- Where no deposit is made the mark changes only by suspensions and
unsuspensions. -/
theorem RegisterStep.suspension_kept (step : RegisterStep host action output r r')
    (undeposited : action.staker ≠ some wallet) :
    isSuspended r'.stakes wallet =
      (action.suspension wallet).getD (isSuspended r.stakes wallet) := by
  cases stored : r.stakes.get wallet with
  | none =>
      obtain ⟨absent, quiet⟩ := step.absent_stays stored undeposited
      rw [quiet.suspension, Option.getD_none, isSuspended, isSuspended, stored, absent]
  | some record =>
      obtain ⟨record', stored', -, suspended, -⟩ := step.record_kept stored undeposited
      rw [isSuspended_of_get stored', isSuspended_of_get stored, suspended]

omit [DecidableEq D] in
/-- A deposit neither suspends nor unsuspends. -/
theorem Action.suspension_of_staker {staker : Address} (deposited : action.staker = some staker) :
    action.suspension wallet = none := by
  cases action with
  | invoke env call => cases call <;> first | rfl | cases deposited
  | _ => rfl

/-- A step keeps the suspensions on file exactly when no suspended wallet makes a
deposit in it. -/
theorem frozenOnFile_iff {log : Log D} {e : Entry (State D) (Action D) (Output D)}
    (step : RegisterStep host e.action e.result e.pre.register e.post.register)
    (onFile : FrozenOnFile log e.pre) :
    FrozenOnFile (e :: log) e.post ↔ noSuspendedDeposit log e.pre e.action := by
  constructor
  · intro onFile' staker deposited
    rw [onFile staker]
    have kept := onFile' staker
    rw [frozen, Action.suspension_of_staker deposited, Option.getD_none] at kept
    rw [← kept]
    exact step.deposit_unsuspended deposited
  · intro vacant wallet
    by_cases deposited : e.action.staker = some wallet
    · rw [frozen, Action.suspension_of_staker deposited, Option.getD_none, ← onFile wallet,
        vacant wallet deposited]
      exact step.deposit_unsuspended deposited
    · rw [frozen, ← onFile wallet]
      exact step.suspension_kept deposited

/-- In every run in which no suspended wallet makes a deposit, no claim is
submitted, approved or collected for a wallet whose suspension was not lifted.
A further step keeps the suspensions on file exactly when it is no such deposit. -/
theorem suspension_holds (host : Host D) {log : Log D} {s : State D}
    (run : (poolSystem host).Run noSuspendedDeposit log s) :
    System.Along HonoursSuspension log ∧ FrozenOnFile log s ∧
      ∀ {action output s'}, (poolSystem host).step s action = .ok (output, s') →
        (FrozenOnFile (⟨s, action, output, s'⟩ :: log) s' ↔
          noSuspendedDeposit log s action) := by
  have along : System.Along HonoursSuspension log ∧ FrozenOnFile log s := by
    apply run.along
    · intro s deployed wallet
      have noStakes : s.stakes = Store.empty := (deployed_register deployed).noStakes
      rw [isSuspended, noStakes, Store.get_empty]
      rfl
    · intro log s action output s' _ onFile vacant stepped
      have step := step_registers stepped
      constructor
      · intro wallet concerned
        rw [← onFile wallet]
        exact step.claimant_unsuspended concerned
      · exact (frozenOnFile_iff (e := ⟨s, action, output, s'⟩) step onFile).mpr vacant
  refine ⟨along.1, along.2, fun stepped => ?_⟩
  exact frozenOnFile_iff (e := ⟨_, _, _, _⟩) (step_registers stepped) along.2

/-- In such a run a claim in effect can be suspended. -/
theorem suspension_holds_sample :
    ∃ log s, (poolSystem sampleHost).Run noSuspendedDeposit log s ∧
      frozen log (party 11) = true ∧ System.Along HonoursSuspension log := by
  obtain ⟨log, s, run, ends⟩ := System.exists_run_of_replay (poolSystem sampleHost)
    noSuspendedDeposit samplePool_deployed
    (sampleOpening 10000 ++ [callBy 1 (.suspendStake (party 11)), afterDays 30])
    (fun log _ => frozen log (party 11)) (by decide +kernel)
  exact ⟨log, s, run, ends, (suspension_holds sampleHost run).1⟩

/-- The claim of the opening is suspended; its wallet stakes again and collects. -/
theorem restake_lifts_suspension :
    ∃ log s, (poolSystem sampleHost).Run System.anyStep log s ∧
      ¬ System.Along HonoursSuspension log := by
  obtain ⟨log, s, run, ends⟩ := System.exists_run_of_replay (poolSystem sampleHost)
    System.anyStep samplePool_deployed
    (sampleOpening 10000 ++ [callBy 1 (.suspendStake (party 11)),
      callBy 11 (.stake (party 11) 2000 (party 21)), afterDays 30,
      callBy 11 (.claimStream (computeClaimId sampleHost (party 11) 0) (party 21))])
    (fun log _ => ¬ System.Along HonoursSuspension log) (by decide +kernel)
  exact ⟨log, s, run, ends⟩

end ProtectionPool
