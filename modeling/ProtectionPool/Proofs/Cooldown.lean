/-
Module: ProtectionPool.Proofs.Cooldown
Purpose: The cooldown of a claim and its inactivity clock.  Activation and overrides
  set the clock to the end of the cooldown and a payout comes after it, but lifting a
  suspension sets it to now, which may lie inside the cooldown.  As long as it does
  not, no part of the cooldown counts as inactivity.
Trusted boundary: none
Main exports: Claim.CollectedAfterCooldown, CooldownsNotCounted,
  Register.RestartsAfterCooldown, restartsAfterCooldown, cooldown_never_counts
-/
import ProtectionPool.Proofs.FrozenTime

namespace ProtectionPool

variable {D : Type} [DecidableEq D]

/-- The inactivity clock of a claim in effect starts no earlier than its cooldown
ends. -/
def Claim.CollectedAfterCooldown (claim : Claim) : Prop :=
  claim.status = .active → claim.cooldownEndsLedger ≤ claim.lastCollectedLedger

instance (claim : Claim) : Decidable claim.CollectedAfterCooldown :=
  inferInstanceAs (Decidable (_ → _))

/-- No part of a cooldown counts as inactivity. -/
def CooldownsNotCounted (s : State D) : Prop :=
  Store.All (fun _ claim => Claim.CollectedAfterCooldown claim) s.claims

instance (s : State D) : Decidable (CooldownsNotCounted s) :=
  inferInstanceAs (Decidable (Store.All _ _))

/-- An action restarts no clock of a claim in effect during its cooldown. -/
def Register.RestartsAfterCooldown (r : Register D) (action : Action D) : Prop :=
  ∀ target ∈ action.restarts, ∀ claim ∈ r.claims.get target.2, claim.wallet = target.1 →
    claim.status = .active → claim.cooldownEndsLedger ≤ r.sequence

instance (r : Register D) (action : Action D) : Decidable (r.RestartsAfterCooldown action) :=
  inferInstanceAs (Decidable (∀ target ∈ action.restarts, ∀ claim ∈ r.claims.get target.2, _))

variable {host : Host D} {s s' : State D} {r r' : Register D} {action : Action D}
  {output : Output D} {claimId : D} {claim : Claim}

/-! ### Entries -/

/-- A restart leaves the clock after the cooldown exactly when it is made after it. -/
theorem Claim.restarted_collected (claim : Claim) (now : Nat) :
    (claim.restarted now).CollectedAfterCooldown ↔
      (claim.status = .active → claim.cooldownEndsLedger ≤ now) := by
  unfold Claim.restarted Claim.CollectedAfterCooldown
  cases is : claim.status <;> simp [is]

/-- An action that names no claim to restart restarts none. -/
theorem Register.restartsNothing (none : action.restarts = none) :
    r.RestartsAfterCooldown action := by
  intro target member
  rw [none] at member
  cases member

/-- One entry keeps the cooldowns out of the clocks exactly when it restarts none
inside a cooldown. -/
theorem RegisterStep.cooldowns_iff (step : RegisterStep host action output r r')
    (kept : Store.All (fun _ claim => Claim.CollectedAfterCooldown claim) r.claims) :
    Store.All (fun _ claim => Claim.CollectedAfterCooldown claim) r'.claims ↔
      r.RestartsAfterCooldown action := by
  cases step with
  | restarted listed =>
      rw [kept.set_iff, Claim.restarted_collected]
      simp [Register.RestartsAfterCooldown, Action.restarts, listed]
  | @unsuspended _ _ wallet target _ _ stored foreign =>
      refine iff_of_true kept ?_
      intro named member claim listed own
      cases target with
      | none => cases member
      | some claimId =>
          cases member
          exact absurd own (foreign claimId claim rfl listed)
  | approved listed =>
      exact iff_of_true (kept.set fun _ => le_refl _) (Register.restartsNothing rfl)
  | overrideExecuted =>
      exact iff_of_true (kept.set fun _ => le_refl _) (Register.restartsNothing rfl)
  | streamed _ _ _ cooled =>
      exact iff_of_true (kept.set fun _ => cooled) (Register.restartsNothing rfl)
  | queued => exact iff_of_true (kept.set (by rintro ⟨⟩)) (Register.restartsNothing rfl)
  | admitted _ admission =>
      refine iff_of_true (kept.set ?_) (Register.restartsNothing rfl)
      rcases admission with ⟨rfl, -⟩ | ⟨rfl, -⟩ <;> rintro ⟨⟩
  | released _ _ _ _ _ admission =>
      refine iff_of_true (kept.set ?_) (Register.restartsNothing rfl)
      rcases admission with ⟨rfl, -⟩ | ⟨rfl, -⟩ <;> rintro ⟨⟩
  | queueExpired | unlocked | approvalExpired | staleExpired | droppedPending | reversed =>
      exact iff_of_true (kept.set (by rintro ⟨⟩)) (Register.restartsNothing rfl)
  | funds fundsOnly =>
      refine iff_of_true kept (Register.restartsNothing ?_)
      cases action, fundsOnly using Action.fundsCases <;> rfl
  | clock | oracleSet | pubkeySet | identitySet | coSignerSet | adminTransferred | paused
  | unpaused | staked | beneficiarySet | withdrawn | emergencyExited | suspended
  | overridePending | overrideCancelled | revoked =>
      exact iff_of_true kept (Register.restartsNothing rfl)

/-- What is swept for inactivity is past its cooldown by all of the inactivity
period. -/
theorem expireStaleClaim_late (kept : CooldownsNotCounted s)
    (listed : s.claims.get claimId = some claim)
    (expired : expireStaleClaim s claimId = .ok s') :
    claim.cooldownEndsLedger + collectionInactivityLedgers < s.sequence := by
  simp [expireStaleClaim] at expired
  obtain ⟨found, foundListed, active, -, record, -, -, late, -⟩ := expired
  obtain rfl := Option.mem_unique listed foundListed
  have counted := kept claimId claim listed active
  omega

/-! ### Runs -/

/-- The steps that restart no clock of a claim in effect during its cooldown. -/
def restartsAfterCooldown : System.Guard (State D) (Action D) (Output D) :=
  fun _ s action => s.register.RestartsAfterCooldown action

instance (log : Log D) (s : State D) (action : Action D) :
    Decidable (restartsAfterCooldown log s action) :=
  inferInstanceAs (Decidable (Register.RestartsAfterCooldown _ _))

/-- In every run that lifts suspensions of claims in effect after their cooldown only
the cooldown never counts as inactivity, so that a claim is swept no earlier than the
inactivity period after the end of its cooldown.  A further step keeps this exactly
when it restarts no clock inside a cooldown. -/
theorem cooldown_never_counts (host : Host D) {log : Log D} {s : State D}
    (run : (poolSystem host).Run restartsAfterCooldown log s) :
    (CooldownsNotCounted s ∧ ∀ claimId claim s', s.claims.get claimId = some claim →
        expireStaleClaim s claimId = .ok s' →
          claim.cooldownEndsLedger + collectionInactivityLedgers < s.sequence) ∧
      ∀ {action output s'}, (poolSystem host).step s action = .ok (output, s') →
        (CooldownsNotCounted s' ↔ restartsAfterCooldown log s action) := by
  obtain ⟨kept, exactly⟩ := run.invariant_exactly (I := CooldownsNotCounted)
    (by
      intro s deployed
      have noClaims : s.claims = Store.empty := (deployed_register deployed).noClaims
      rw [CooldownsNotCounted, noClaims]
      exact Store.all_empty)
    (fun _ _ _ _ _ _ kept stepped => (step_registers stepped).cooldowns_iff kept)
  exact ⟨⟨kept, fun _ _ _ listed expired => expireStaleClaim_late kept listed expired⟩, exactly⟩

/-- In such a run a suspension is lifted after the cooldown. -/
theorem cooldown_never_counts_sample :
    ∃ log s, (poolSystem sampleHost).Run restartsAfterCooldown log s ∧
      (∃ claim ∈ s.claims.get (computeClaimId sampleHost (party 11) 0),
        claim.lastCollectedLedger = 1000 + ledgersPerDay * 20) ∧ CooldownsNotCounted s := by
  obtain ⟨log, s, run, ends⟩ := System.exists_run_of_replay (poolSystem sampleHost)
    restartsAfterCooldown samplePool_deployed
    (sampleOpening 1000 ++ [callBy 1 (.suspendStake (party 11)), afterDays 20,
      callBy 1 (.unsuspendStake (party 11) (some (computeClaimId sampleHost (party 11) 0)))])
    (fun _ s => ∃ claim ∈ s.claims.get (computeClaimId sampleHost (party 11) 0),
      claim.lastCollectedLedger = 1000 + ledgersPerDay * 20) (by decide +kernel)
  exact ⟨log, s, run, ends, (cooldown_never_counts sampleHost run).1.1⟩

/-- A suspension is lifted on the day the claim took effect, seven days before its
cooldown ends: it is swept on the 101st day, within the inactivity period. -/
theorem unsuspension_inside_cooldown :
    ∃ log s output s', (poolSystem sampleHost).Run System.anyStep log s ∧
      ¬ CooldownsNotCounted s ∧
      poolStep sampleHost s
        (callBy 12 (.expireStaleClaim (computeClaimId sampleHost (party 11) 0))) =
          .ok (output, s') ∧
      ∃ claim ∈ s.claims.get (computeClaimId sampleHost (party 11) 0),
        s.sequence < claim.cooldownEndsLedger + collectionInactivityLedgers := by
  obtain ⟨log, s, output, s', -, -, run, expired, -, counted, early⟩ :=
    System.exists_continuation_of_replay (poolSystem sampleHost) System.anyStep System.anyStep
      samplePool_deployed
      (sampleOpening 1000 ++ [callBy 1 (.suspendStake (party 11)),
        callBy 1 (.unsuspendStake (party 11) (some (computeClaimId sampleHost (party 11) 0))),
        afterDays 101])
      (callBy 12 (.expireStaleClaim (computeClaimId sampleHost (party 11) 0))) []
      (fun s _ _ _ => ¬ CooldownsNotCounted s ∧
        ∃ claim ∈ s.claims.get (computeClaimId sampleHost (party 11) 0),
          s.sequence < claim.cooldownEndsLedger + collectionInactivityLedgers) (by decide +kernel)
  exact ⟨log, s, output, s', run, counted, expired, early⟩

end ProtectionPool
