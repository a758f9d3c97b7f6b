/-
Module: ProtectionPool.Proofs.PenaltyLock
Purpose: How far the penalty lock of a restored deposit binds.  A plain
  withdrawal checks it; the exit that is meant for a pause and a new deposit do
  not, so the lock binds exactly as long as neither is used on a locked deposit.
Trusted boundary: none
Main exports: lockedUntil, LockBinds, KeepsLock, penalty_lock_binds
-/
import ProtectionPool.Proofs.Records

namespace ProtectionPool

variable {D : Type} [DecidableEq D]

/-- The ledger until which the last reversal of a claim in effect of the wallet
locks the restored deposit. -/
def lockedUntil : Log D → Address → Nat
  | [], _ => 0
  | e :: past, wallet =>
      (e.pre.register.newLock wallet e.action).getD (lockedUntil past wallet)

/-- The wallet whose principal an action pays out or replaces by a new deposit. -/
def Action.principal : Action D → Option Address
  | .invoke _ (.withdraw staker _) => some staker
  | .invoke _ (.emergencyExit staker) => some staker
  | .invoke _ (.stake staker _ _) => some staker
  | _ => none

/-- While the pool is running no locked deposit is paid out or replaced. -/
def LockBinds (past : Log D) (e : Entry (State D) (Action D) (Output D)) : Prop :=
  ∀ wallet ∈ e.action.principal, e.pre.paused = false →
    lockedUntil past wallet ≤ e.pre.sequence

/-- The lock on file for a wallet. -/
def recordedLock (stakes : Store Address (StakeRecord D)) (wallet : Address) : Nat :=
  ((stakes.get wallet).map StakeRecord.penaltyLockedUntilLedger).getD 0

/-- The wallet whose principal an action pays out or replaces without a look at
the lock: by a new deposit, or by the emergency exit while the pool is running. -/
def Action.bypasses (paused : Bool) : Action D → Option Address
  | .invoke _ (.emergencyExit staker) => if paused then none else some staker
  | .invoke _ (.stake staker _ _) => some staker
  | _ => none

/-- No wallet whose record is locked makes an emergency exit outside a pause or a
new deposit. -/
def KeepsLock (e : Entry (State D) (Action D) (Output D)) : Prop :=
  ∀ wallet ∈ e.action.bypasses e.pre.paused,
    recordedLock e.pre.stakes wallet ≤ e.pre.sequence

instance (past : Log D) (e : Entry (State D) (Action D) (Output D)) :
    Decidable (LockBinds past e) :=
  inferInstanceAs (Decidable (∀ wallet ∈ e.action.principal, _))

instance (e : Entry (State D) (Action D) (Output D)) : Decidable (KeepsLock e) :=
  inferInstanceAs (Decidable (∀ wallet ∈ e.action.bypasses e.pre.paused, _))

variable {host : Host D} {r r' : Register D} {action : Action D} {output : Output D}
  {wallet : Address} {record : StakeRecord D}

omit [DecidableEq D] in
theorem recordedLock_of_get {stakes : Store Address (StakeRecord D)}
    (stored : stakes.get wallet = some record) :
    recordedLock stakes wallet = record.penaltyLockedUntilLedger := by
  rw [recordedLock, stored, Option.map_some, Option.getD_some]

/-! ### What a step does to a lock -/

/-- A new deposit is not locked. -/
theorem RegisterStep.deposit_unlocked (step : RegisterStep host action output r r')
    (deposited : action.staker = some wallet) : recordedLock r'.stakes wallet = 0 := by
  cases step with
  | staked =>
      cases deposited
      exact recordedLock_of_get (Store.get_set_self _ _ _)
  | funds fundsOnly => cases action, fundsOnly using Action.fundsCases <;> cases deposited
  | _ => cases deposited

/-- Where no deposit is made the lock changes only by a reversal. -/
theorem RegisterStep.lock_kept (step : RegisterStep host action output r r')
    (undeposited : action.staker ≠ some wallet) :
    recordedLock r'.stakes wallet =
      (r.newLock wallet action).getD (recordedLock r.stakes wallet) := by
  cases stored : r.stakes.get wallet with
  | none =>
      obtain ⟨absent, quiet⟩ := step.absent_stays stored undeposited
      rw [quiet.lock, Option.getD_none, recordedLock, recordedLock, stored, absent]
  | some record =>
      obtain ⟨record', stored', -, -, lock⟩ := step.record_kept stored undeposited
      rw [recordedLock_of_get stored', recordedLock_of_get stored, lock]

omit [DecidableEq D] in
/-- Bypassing the lock moves the principal. -/
theorem Action.principal_of_bypasses {paused : Bool}
    (bypasses : action.bypasses paused = some wallet) : action.principal = some wallet := by
  cases action with
  | invoke env call =>
      cases call with
      | emergencyExit staker =>
          cases paused with
          | false => exact bypasses
          | true => cases bypasses
      | stake staker amount beneficiary => exact bypasses
      | _ => cases bypasses
  | _ => cases bypasses

omit [DecidableEq D] in
theorem Action.bypasses_of_staker {paused : Bool} (deposited : action.staker = some wallet) :
    action.bypasses paused = some wallet := by
  cases action with
  | invoke env call =>
      cases call with
      | stake staker amount beneficiary => exact deposited
      | _ => cases deposited
  | _ => cases deposited

/-- The lock is bypassed while the pool is running. -/
theorem RegisterStep.bypass_running (step : RegisterStep host action output r r')
    (bypasses : action.bypasses r.paused = some wallet) : r.paused = false := by
  cases step with
  | staked running => exact running
  | emergencyExited =>
      cases running : r.paused with
      | false => rfl
      | true =>
          rw [running] at bypasses
          cases bypasses
  | funds fundsOnly => cases action, fundsOnly using Action.fundsCases <;> cases bypasses
  | _ => cases bypasses

/-- While the pool is running principal moves past the lock or when the lock has
run out. -/
theorem RegisterStep.principal_moves (step : RegisterStep host action output r r')
    (moves : action.principal = some wallet) (running : r.paused = false) :
    action.bypasses r.paused = some wallet ∨ recordedLock r.stakes wallet ≤ r.sequence := by
  cases step with
  | withdrawn _ stored _ _ _ unlocked =>
      cases moves
      rw [recordedLock_of_get stored]
      exact .inr unlocked
  | staked =>
      cases moves
      exact .inl rfl
  | emergencyExited =>
      cases moves
      rw [running]
      exact .inl rfl
  | funds fundsOnly => cases action, fundsOnly using Action.fundsCases <;> cases moves
  | _ => cases moves

/-- A deposit reverses no claim. -/
theorem Register.newLock_of_staker {staker : Address} (deposited : action.staker = some staker) :
    r.newLock wallet action = none := by
  cases action with
  | invoke env call => cases call <;> first | rfl | cases deposited
  | _ => rfl

/-! ### Runs -/

/-- The locks on file are those of the log, as far as they reach beyond the
current ledger. -/
def LocksAgree (log : Log D) (s : State D) : Prop :=
  ∀ wallet, max s.sequence (recordedLock s.stakes wallet) = max s.sequence (lockedUntil log wallet)

/-- A lock on file has run out when the one of the log has. -/
theorem LocksAgree.le_iff {log : Log D} {s : State D} (agree : LocksAgree log s)
    (wallet : Address) :
    recordedLock s.stakes wallet ≤ s.sequence ↔ lockedUntil log wallet ≤ s.sequence := by
  have same := agree wallet
  omega

/-- A step that leaves locked deposits alone keeps the locks in agreement. -/
theorem LocksAgree.step {log : Log D} {e : Entry (State D) (Action D) (Output D)}
    (step : RegisterStep host e.action e.result e.pre.register e.post.register)
    (agree : LocksAgree log e.pre) (keeps : KeepsLock e) : LocksAgree (e :: log) e.post := by
  intro wallet
  have advances : e.pre.sequence ≤ e.post.sequence := step.sequence_le
  have same := agree wallet
  by_cases deposited : e.action.staker = some wallet
  · have unlocked := keeps wallet (Action.bypasses_of_staker deposited)
    have fresh : recordedLock e.post.stakes wallet = 0 := step.deposit_unlocked deposited
    rw [lockedUntil, Register.newLock_of_staker deposited, Option.getD_none, fresh]
    omega
  · have written : recordedLock e.post.stakes wallet =
        (e.pre.register.newLock wallet e.action).getD (recordedLock e.pre.stakes wallet) :=
      step.lock_kept deposited
    rw [lockedUntil, written]
    cases e.pre.register.newLock wallet e.action with
    | none =>
        rw [Option.getD_none, Option.getD_none]
        omega
    | some ledger => rfl

/-- The lock binds in a step exactly when the step leaves locked deposits alone. -/
theorem lockBinds_iff {log : Log D} {e : Entry (State D) (Action D) (Output D)}
    (step : RegisterStep host e.action e.result e.pre.register e.post.register)
    (agree : LocksAgree log e.pre) : LockBinds log e ↔ KeepsLock e := by
  constructor
  · intro binds wallet bypasses
    rw [agree.le_iff]
    exact binds wallet (Action.principal_of_bypasses bypasses) (step.bypass_running bypasses)
  · intro keeps wallet moves running
    rw [← agree.le_iff]
    rcases step.principal_moves moves running with bypasses | unlocked
    · exact keeps wallet bypasses
    · exact unlocked

/-- In every run the penalty locks bind exactly when no wallet whose record is
locked makes an exit outside a pause or a new deposit. -/
theorem penalty_lock_binds (host : Host D) {log : Log D} {s : State D}
    (run : (poolSystem host).Run System.anyStep log s) :
    System.Along LockBinds log ↔ System.Along (fun _ e => KeepsLock e) log := by
  apply run.along_iff (I := LocksAgree)
  · intro s deployed wallet
    have noStakes : s.stakes = Store.empty := (deployed_register deployed).noStakes
    rw [recordedLock, noStakes, Store.get_empty]
    rfl
  · intro log s action output s' _ agree stepped
    exact lockBinds_iff (e := ⟨s, action, output, s'⟩) (step_registers stepped) agree
  · intro log s action output s' _ agree stepped keeps
    exact agree.step (e := ⟨s, action, output, s'⟩) (step_registers stepped) keeps

/-- A deposit can be restored and withdrawn a year later. -/
theorem penalty_lock_binds_sample :
    ∃ log s, (poolSystem sampleHost).Run System.anyStep log s ∧
      0 < lockedUntil log (party 11) ∧ System.Along LockBinds log := by
  obtain ⟨log, s, run, locked, keeps⟩ := System.exists_run_of_replay (poolSystem sampleHost)
    System.anyStep samplePool_deployed
    (sampleOpening 10000 ++ [callBy 1 (.cancelClaim (computeClaimId sampleHost (party 11) 0)),
      afterDays 365, callBy 11 (.withdraw (party 11) (party 21))])
    (fun log _ => 0 < lockedUntil log (party 11) ∧ System.Along (fun _ e => KeepsLock e) log)
    (by decide +kernel)
  exact ⟨log, s, run, locked, (penalty_lock_binds sampleHost run).mpr keeps⟩

/-- The claim of the opening is reversed; a day later its wallet takes the
restored deposit out by the emergency exit although the pool is running. -/
theorem emergency_exit_escapes_lock :
    ∃ log s, (poolSystem sampleHost).Run System.anyStep log s ∧
      ¬ System.Along LockBinds log := by
  obtain ⟨log, s, run, ends⟩ := System.exists_run_of_replay (poolSystem sampleHost)
    System.anyStep samplePool_deployed
    (sampleOpening 10000 ++ [callBy 1 (.cancelClaim (computeClaimId sampleHost (party 11) 0)),
      afterDays 1, callBy 11 (.emergencyExit (party 11))])
    (fun log _ => ¬ System.Along LockBinds log) (by decide +kernel)
  exact ⟨log, s, run, ends⟩

end ProtectionPool
