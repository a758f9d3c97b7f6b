/-
Module: ProtectionPool.Proofs.Records
Purpose: What a step does to a deposit on file: whom it names as beneficiary,
  whether it is suspended, and until when it is locked.  Each of the three is
  decided by the step's action; everything else leaves the deposit as it was or
  replaces it by a new one.
Trusted boundary: none
Main exports: Action.newBeneficiary, Action.suspension, Register.newLock,
  RecordEntry, RegisterStep.recordEntry, RegisterStep.absent_stays,
  RegisterStep.record_kept
-/
import ProtectionPool.Books.Registration

namespace ProtectionPool

variable {D : Type} [DecidableEq D]

/-! ### What an action decides -/

/-- The beneficiary an action names for a standing deposit of a wallet. -/
def Action.newBeneficiary (wallet : Address) : Action D → Option Address
  | .invoke _ (.setBeneficiary staker beneficiary) =>
      if staker = wallet then some beneficiary else none
  | _ => none

/-- Whether an action suspends a wallet's deposit or lifts its suspension. -/
def Action.suspension (wallet : Address) : Action D → Option Bool
  | .invoke _ (.suspendStake owner) => if owner = wallet then some true else none
  | .invoke _ (.unsuspendStake owner _) => if owner = wallet then some false else none
  | _ => none

/-- A cancellation of a claim in effect of the wallet. -/
def Register.Reverses (r : Register D) (wallet : Address) : Action D → Prop
  | .invoke _ (.cancelClaim claimId) =>
      (r.claims.get claimId).any
        (fun claim => decide (claim.wallet = wallet) && decide (claim.status = .active)) = true
  | _ => False

instance (r : Register D) (wallet : Address) (action : Action D) :
    Decidable (r.Reverses wallet action) := by
  induction action using Action.casesOn with
  | invoke _ call =>
      induction call using Call.casesOn with
      | cancelClaim => exact inferInstanceAs (Decidable (Option.any _ _ = true))
      | _ => exact inferInstanceAs (Decidable False)
  | _ => exact inferInstanceAs (Decidable False)

/-- The ledger until which an action locks a wallet's deposit. -/
def Register.newLock (r : Register D) (wallet : Address) (action : Action D) : Option Nat :=
  if r.Reverses wallet action then some (r.sequence + penaltyLockLedgers) else none

/-- The wallet an action makes a deposit for. -/
def Action.staker : Action D → Option Address
  | .invoke _ (.stake staker _ _) => some staker
  | _ => none

/-- An action that names no beneficiary, lifts or sets no suspension, locks
nothing and makes no deposit. -/
structure Register.Quiet (r : Register D) (wallet : Address) (action : Action D) : Prop where
  beneficiary : action.newBeneficiary wallet = none
  suspension : action.suspension wallet = none
  lock : r.newLock wallet action = none
  undeposited : action.staker ≠ some wallet

/-! ### What a step leaves on file -/

/-- How a step leaves the record of a wallet: as a new deposit, or as it was but
for what the action decides. -/
inductive RecordEntry (host : Host D) (r : Register D) (action : Action D) (wallet : Address)
    (record' : StakeRecord D) : Prop where
  | fresh {env : Env} {amount : Int} {beneficiary : Address}
      (call : action = .invoke env (.stake wallet amount beneficiary))
      (beneficiary : record'.beneficiaryHash = addressHash host beneficiary)
      (unlocked : record'.penaltyLockedUntilLedger = 0)
      (unsuspended : record'.suspended = false)
  | kept {record : StakeRecord D} (stored : r.stakes.get wallet = some record)
      (undeposited : action.staker ≠ some wallet)
      (beneficiary : record'.beneficiaryHash =
        ((action.newBeneficiary wallet).map (addressHash host)).getD record.beneficiaryHash)
      (suspended : record'.suspended = (action.suspension wallet).getD record.suspended)
      (lock : record'.penaltyLockedUntilLedger =
        (r.newLock wallet action).getD record.penaltyLockedUntilLedger)

variable {host : Host D} {r r' : Register D} {action : Action D} {output : Output D}
  {wallet owner : Address} {record record' new : StakeRecord D}

/-- A record an action does not touch. -/
theorem RecordEntry.untouched (stored : r.stakes.get wallet = some record')
    (quiet : r.Quiet wallet action) : RecordEntry host r action wallet record' := by
  apply RecordEntry.kept stored quiet.undeposited
  · rw [quiet.beneficiary, Option.map_none, Option.getD_none]
  · rw [quiet.suspension, Option.getD_none]
  · rw [quiet.lock, Option.getD_none]

/-- A record whose other fields an action writes. -/
theorem RecordEntry.rewritten (stored : r.stakes.get owner = some record)
    (stored' : (r.stakes.set owner new).get wallet = some record')
    (beneficiary : new.beneficiaryHash = record.beneficiaryHash)
    (suspended : new.suspended = record.suspended)
    (lock : new.penaltyLockedUntilLedger = record.penaltyLockedUntilLedger)
    (quiet : r.Quiet wallet action) : RecordEntry host r action wallet record' := by
  rcases Store.get_set_eq_some.mp stored' with ⟨rfl, rfl⟩ | ⟨-, before⟩
  · apply RecordEntry.kept stored quiet.undeposited
    · rw [quiet.beneficiary, Option.map_none, Option.getD_none, beneficiary]
    · rw [quiet.suspension, Option.getD_none, suspended]
    · rw [quiet.lock, Option.getD_none, lock]
  · exact .untouched before quiet

/-- Only a cancellation locks a deposit. -/
theorem Register.newLock_eq_none (unreversed : ¬ r.Reverses wallet action) :
    r.newLock wallet action = none := if_neg unreversed

/-- A cancellation reverses the claim in effect that it cancels. -/
theorem Register.reverses_iff {env : Env} {claimId : D} {claim : Claim}
    (listed : r.claims.get claimId = some claim) :
    r.Reverses wallet (.invoke env (.cancelClaim claimId)) ↔
      claim.wallet = wallet ∧ claim.status = .active := by
  simp [Register.Reverses, listed]

/-- Every step leaves a record in one of these ways. -/
theorem RegisterStep.recordEntry (step : RegisterStep host action output r r')
    (stored' : r'.stakes.get wallet = some record') :
    RecordEntry host r action wallet record' := by
  cases step with
  | staked running positive vacant =>
      rcases Store.get_set_eq_some.mp stored' with ⟨rfl, rfl⟩ | ⟨other, before⟩
      · exact .fresh rfl rfl rfl rfl
      · refine .untouched before ⟨rfl, rfl, rfl, ?_⟩
        rintro ⟨⟩
        exact other rfl
  | beneficiarySet running stored funded standing =>
      rcases Store.get_set_eq_some.mp stored' with ⟨rfl, rfl⟩ | ⟨other, before⟩
      · refine .kept stored nofun ?_ rfl rfl
        rw [Action.newBeneficiary, if_pos rfl, Option.map_some, Option.getD_some]
      · exact .untouched before ⟨if_neg (Ne.symm other), rfl, rfl, nofun⟩
  | suspended stored | unsuspended stored | restarted _ stored =>
      rcases Store.get_set_eq_some.mp stored' with ⟨rfl, rfl⟩ | ⟨other, before⟩
      · refine .kept stored nofun rfl ?_ rfl
        rw [Action.suspension, if_pos rfl, Option.getD_some]
      · exact .untouched before ⟨rfl, if_neg (Ne.symm other), rfl, nofun⟩
  | reversed listed active stored =>
      rcases Store.get_set_eq_some.mp stored' with ⟨rfl, rfl⟩ | ⟨other, before⟩
      · refine .kept stored nofun rfl rfl ?_
        rw [Register.newLock, if_pos ((Register.reverses_iff listed).mpr ⟨rfl, active⟩),
          Option.getD_some]
      · refine .untouched before ⟨rfl, rfl, Register.newLock_eq_none ?_, nofun⟩
        rw [Register.reverses_iff listed]
        exact fun reverses => other reverses.1.symm
  | droppedPending listed pending stored =>
      refine .rewritten stored stored' rfl rfl rfl ⟨rfl, rfl, Register.newLock_eq_none ?_, nofun⟩
      rw [Register.reverses_iff listed]
      exact fun reverses => ClaimStatus.ne_of_isPending pending rfl reverses.2
  | withdrawn _ stored | emergencyExited stored | queueExpired _ _ _ stored
  | approved _ _ _ _ stored | approvalExpired _ _ stored | staleExpired _ _ _ stored
  | overrideExecuted _ _ _ stored | released _ _ _ stored =>
      exact .rewritten stored stored' rfl rfl rfl ⟨rfl, rfl, rfl, nofun⟩
  | queued submission | admitted submission =>
      exact .rewritten submission.stored stored' rfl rfl rfl ⟨rfl, rfl, rfl, nofun⟩
  | funds fundsOnly =>
      apply RecordEntry.untouched stored'
      cases action, fundsOnly using Action.fundsCases <;> exact ⟨rfl, rfl, rfl, nofun⟩
  | clock | oracleSet | pubkeySet | identitySet | coSignerSet | adminTransferred | paused
  | unpaused | unlocked | streamed | overridePending | overrideCancelled | revoked =>
      exact .untouched stored' ⟨rfl, rfl, rfl, nofun⟩

/-- A deposit on file is never deleted. -/
theorem RegisterStep.record_stays (step : RegisterStep host action output r r')
    (stored : ∃ record, r.stakes.get wallet = some record) :
    ∃ record, r'.stakes.get wallet = some record := by
  cases step with
  | funds | clock | oracleSet | pubkeySet | identitySet | coSignerSet | adminTransferred | paused
  | unpaused | unlocked | streamed | overridePending | overrideCancelled | revoked => exact stored
  | _ => exact Store.exists_get_set stored

/-- An action that makes no deposit for a wallet without one leaves it without one
and decides nothing about it. -/
theorem RegisterStep.absent_stays (step : RegisterStep host action output r r')
    (absent : r.stakes.get wallet = none) (undeposited : action.staker ≠ some wallet) :
    r'.stakes.get wallet = none ∧ r.Quiet wallet action := by
  have apart : ∀ {owner : Address} {record : StakeRecord D},
      r.stakes.get owner = some record → owner ≠ wallet := by
    rintro owner record stored rfl
    rw [absent] at stored
    cases stored
  have unwritten : ∀ {owner : Address} {record : StakeRecord D} (written : StakeRecord D),
      r.stakes.get owner = some record → (r.stakes.set owner written).get wallet = none := by
    intro owner record written stored
    rw [Store.get_set_ne _ _ (Ne.symm (apart stored)), absent]
  cases step with
  | staked =>
      have other : wallet ≠ _ := fun same => undeposited (congrArg some same.symm)
      exact ⟨by rw [Store.get_set_ne _ _ other, absent], rfl, rfl, rfl, undeposited⟩
  | beneficiarySet _ stored =>
      exact ⟨unwritten _ stored, if_neg (apart stored), rfl, rfl, nofun⟩
  | suspended stored | unsuspended stored | restarted _ stored =>
      exact ⟨unwritten _ stored, rfl, if_neg (apart stored), rfl, nofun⟩
  | reversed listed active stored =>
      refine ⟨unwritten _ stored, rfl, rfl, Register.newLock_eq_none ?_, nofun⟩
      rw [Register.reverses_iff listed]
      exact fun reverses => apart stored reverses.1
  | droppedPending listed pending stored =>
      refine ⟨unwritten _ stored, rfl, rfl, Register.newLock_eq_none ?_, nofun⟩
      rw [Register.reverses_iff listed]
      exact fun reverses => apart stored reverses.1
  | withdrawn _ stored | emergencyExited stored | queueExpired _ _ _ stored
  | approved _ _ _ _ stored | approvalExpired _ _ stored | staleExpired _ _ _ stored
  | overrideExecuted _ _ _ stored | released _ _ _ stored =>
      exact ⟨unwritten _ stored, rfl, rfl, rfl, nofun⟩
  | queued submission | admitted submission =>
      exact ⟨unwritten _ submission.stored, rfl, rfl, rfl, nofun⟩
  | funds fundsOnly =>
      refine ⟨absent, ?_⟩
      cases action, fundsOnly using Action.fundsCases <;> exact ⟨rfl, rfl, rfl, nofun⟩
  | clock | oracleSet | pubkeySet | identitySet | coSignerSet | adminTransferred | paused
  | unpaused | unlocked | streamed | overridePending | overrideCancelled | revoked =>
      exact ⟨absent, rfl, rfl, rfl, nofun⟩

/-- What an action that makes no deposit for a wallet leaves of its record. -/
theorem RegisterStep.record_kept (step : RegisterStep host action output r r')
    (stored : r.stakes.get wallet = some record) (undeposited : action.staker ≠ some wallet) :
    ∃ record', r'.stakes.get wallet = some record' ∧
      record'.beneficiaryHash =
        ((action.newBeneficiary wallet).map (addressHash host)).getD record.beneficiaryHash ∧
      record'.suspended = (action.suspension wallet).getD record.suspended ∧
      record'.penaltyLockedUntilLedger =
        (r.newLock wallet action).getD record.penaltyLockedUntilLedger := by
  obtain ⟨record', stored'⟩ := step.record_stays ⟨record, stored⟩
  cases step.recordEntry stored' with
  | fresh call =>
      subst call
      exact absurd rfl undeposited
  | kept before _ beneficiary suspended lock =>
      obtain rfl := Option.mem_unique stored before
      exact ⟨record', stored', beneficiary, suspended, lock⟩

end ProtectionPool
