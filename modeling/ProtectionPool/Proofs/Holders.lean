/-
Module: ProtectionPool.Proofs.Holders
Purpose: What the store of claims shows of the deposits.  A claim that a deposit stands
  behind is stored as one in effect or as one that ended after it, and the ledger its
  cooldown ends at tells that it was put into effect after the deposit was made.
Trusted boundary: none
Main exports: Claim.InEffect, Claim.TookSince, StoredInEffect, HoldersStored,
  HoldersStored.step
-/
import ProtectionPool.Proofs.History

namespace ProtectionPool

open Checked

variable {D : Type}

/-! ### Claims that took a deposit -/

/-- A claim that is in effect, or that has ended by its last payout or by a sweep.  The
claims swept before they were put into effect are among these, with no cooldown. -/
def Claim.InEffect (claim : Claim) : Prop :=
  claim.status = .active ∨ claim.status = .completed ∨ claim.status = .expired

/-- The record of a claim shows that it was put into effect since a deposit was made: its
cooldown ends no sooner than one that starts with the deposit.  A claim put into effect in
the ledger of the deposit counts, whichever came first. -/
def Claim.TookSince (claim : Claim) (record : StakeRecord D) : Prop :=
  claim.InEffect ∧ record.stakedAtLedger + cooldownLedgers ≤ claim.cooldownEndsLedger

instance (claim : Claim) : Decidable claim.InEffect :=
  inferInstanceAs (Decidable (_ ∨ _))

instance (claim : Claim) (record : StakeRecord D) : Decidable (claim.TookSince record) :=
  inferInstanceAs (Decidable (_ ∧ _))

variable [DecidableEq D]

/-- An identifier whose claim of a wallet is in effect or has ended, with the ledger its
cooldown ends at. -/
def StoredInEffect (claims : Store D Claim) (claimId : D) (wallet : Address) (ends : Nat) :
    Prop :=
  ∃ claim, claims.get claimId = some claim ∧ claim.wallet = wallet ∧ claim.InEffect ∧
    claim.cooldownEndsLedger = ends

variable {idOf : Address → BytesN 32 → D} {event : BookEvent D} {b b' : Books D}
  {past : Journal D} {wallet : Address} {n ends : Nat} {claimId : D}

theorem StoredInEffect.of_listed {claims : Store D Claim} {claim : Claim}
    (stored : StoredInEffect claims claimId wallet ends)
    (listed : claims.get claimId = some claim) :
    claim.wallet = wallet ∧ claim.InEffect ∧ claim.cooldownEndsLedger = ends := by
  obtain ⟨found, same, facts⟩ := stored
  obtain rfl := Option.mem_unique listed same
  exact facts

/-- Writing a claim keeps it so, unless the claim is written over by one that is not. -/
theorem StoredInEffect.set {claims : Store D Claim}
    (stored : StoredInEffect claims claimId wallet ends) {otherId : D} {claim : Claim}
    (own : otherId = claimId →
      claim.wallet = wallet ∧ claim.InEffect ∧ claim.cooldownEndsLedger = ends) :
    StoredInEffect (claims.set otherId claim) claimId wallet ends := by
  by_cases same : claimId = otherId
  · exact ⟨claim, by rw [same, Store.get_set_self], own same.symm⟩
  · obtain ⟨old, listed, facts⟩ := stored
    exact ⟨old, by rw [Store.get_set_ne _ _ same, listed], facts⟩

theorem Claim.InEffect.not_reserved {claim : Claim} (inEffect : claim.InEffect) :
    claim.status ≠ .reserved := by
  rcases inEffect with status | status | status <;> rw [status] <;> nofun

theorem Claim.InEffect.not_pending {claim : Claim} (inEffect : claim.InEffect) :
    claim.status.isPending ≠ true := by
  rcases inEffect with status | status | status <;> rw [status] <;> nofun

/-- A claim in effect stays so or ends, unless it is reversed or put into effect anew. -/
theorem StoredInEffect.step (stored : StoredInEffect b.claims claimId wallet ends)
    (step : BookStep idOf event b b') (kept : b.WellKept)
    (inactive : ∀ owner, event.activation ≠ some (owner, claimId))
    (unreversed : event.reversal b ≠ some (wallet, claimId)) :
    StoredInEffect b'.claims claimId wallet ends := by
  cases step with
  | queued _ _ _ unused | admitted _ _ _ unused =>
      apply stored.set
      rintro rfl
      obtain ⟨claim, listed, -⟩ := stored
      rw [kept.absent unused] at listed
      cases listed
  | released listed reserved | queueExpired listed reserved =>
      apply stored.set
      rintro rfl
      exact absurd reserved (stored.of_listed listed).2.1.not_reserved
  | unlocked listed pending | approvalExpired listed pending =>
      apply stored.set
      rintro rfl
      exact absurd (by rw [pending]; rfl) (stored.of_listed listed).2.1.not_pending
  | droppedPending listed pending =>
      apply stored.set
      rintro rfl
      exact absurd pending (stored.of_listed listed).2.1.not_pending
  | approved | overridden =>
      apply stored.set
      rintro rfl
      exact absurd rfl (inactive _)
  | reversed listed active =>
      apply stored.set
      rintro rfl
      obtain ⟨rfl, -⟩ := stored.of_listed listed
      exact absurd (BookEvent.reversal_of_active listed active) unreversed
  | staleExpired listed =>
      apply stored.set
      rintro rfl
      obtain ⟨own, -, same⟩ := stored.of_listed listed
      exact ⟨own, .inr (.inr rfl), same⟩
  | streamed listed active =>
      apply stored.set
      rintro rfl
      obtain ⟨own, -, same⟩ := stored.of_listed listed
      refine ⟨own, ?_, same⟩
      simp only [Claim.InEffect, Claim.paid, active]
      split_ifs
      · exact .inr (.inl rfl)
      · exact .inl rfl
  | restarted _ listed =>
      apply stored.set
      rintro rfl
      obtain ⟨own, inEffect, same⟩ := stored.of_listed listed
      exact ⟨own, inEffect, same⟩
  | staked | exited | redeemed | deployed | kept | treasury | clock | amended => exact stored

/-- A claim put into effect has its cooldown from now on. -/
theorem BookStep.storedInEffect (step : BookStep idOf event b b')
    (activates : event.activation = some (wallet, claimId)) :
    StoredInEffect b'.claims claimId wallet (b.sequence + cooldownLedgers) := by
  cases step with
  | approved | overridden =>
      cases activates
      exact ⟨_, Store.get_set_self _ _ _, rfl, .inl rfl, rfl⟩
  | _ => cases activates

/-! ### The claims behind a deposit -/

/-- The claims the deposits stand behind are stored so, and those of a current deposit have
taken it since it was made. -/
def HoldersStored (past : Journal D) (b : Books D) : Prop :=
  ∀ wallet n, ∀ claimId ∈ holders past wallet n, ∃ ends,
    StoredInEffect b.claims claimId wallet ends ∧
      (n = deposits past wallet → ∀ record, b.stakes.get wallet = some record →
        record.stakedAtLedger + cooldownLedgers ≤ ends)

/-- A claim behind the current deposit is on record as one that took it. -/
theorem HoldersStored.taken (holders : HoldersStored past b) {record : StakeRecord D}
    (stored : b.stakes.get wallet = some record)
    (held : claimId ∈ ProtectionPool.holders past wallet (deposits past wallet)) :
    ∃ claim, b.claims.get claimId = some claim ∧ claim.wallet = wallet ∧
      claim.TookSince record := by
  obtain ⟨ends, ⟨claim, listed, own, inEffect, rfl⟩, since⟩ := holders wallet _ claimId held
  exact ⟨claim, listed, own, inEffect, since rfl record stored⟩

/-- Deposits are on record from no later than now. -/
theorem BookStep.start_le (step : BookStep idOf event b b')
    (dated : Store.All (fun _ record => record.stakedAtLedger ≤ b.sequence) b.stakes)
    {record' : StakeRecord D} (stored' : b'.stakes.get wallet = some record') :
    record'.stakedAtLedger ≤ b.sequence := by
  cases step.depositChange stored' with
  | made _ _ now => exact now.le
  | left stored _ start | kept stored _ start => exact start.trans_le (dated _ _ stored)

/-- An entry that makes no deposit leaves the ledger of the deposit on record. -/
theorem BookStep.start_kept (step : BookStep idOf event b b')
    (undeposited : event.deposit wallet = 0) {record' : StakeRecord D}
    (stored' : b'.stakes.get wallet = some record') :
    ∃ record, b.stakes.get wallet = some record ∧
      record'.stakedAtLedger = record.stakedAtLedger := by
  cases step.depositChange stored' with
  | made deposit =>
      subst deposit
      rw [BookEvent.deposit, if_pos rfl] at undeposited
      cases undeposited
  | left stored _ start | kept stored _ start => exact ⟨_, stored, start⟩

/-- The store keeps showing the claims behind the deposits, as long as no claim is put into
effect under the identifier of another wallet's. -/
theorem HoldersStored.step (holders : HoldersStored past b) (step : BookStep idOf event b b')
    (kept : b.WellKept)
    (dated : Store.All (fun _ record => record.stakedAtLedger ≤ b.sequence) b.stakes)
    (own : ∀ owner claimId claim, event.activation = some (owner, claimId) →
      b.claims.get claimId = some claim → claim.wallet = owner) :
    HoldersStored ((b, event) :: past) b' := by
  intro wallet n claimId holds
  have activated : event.activation = some (wallet, claimId) → ∃ ends,
      StoredInEffect b'.claims claimId wallet ends ∧
        (n = deposits ((b, event) :: past) wallet →
          ∀ record, b'.stakes.get wallet = some record →
            record.stakedAtLedger + cooldownLedgers ≤ ends) := by
    intro activates
    exact ⟨_, step.storedInEffect activates, fun _ record stored' =>
      Nat.add_le_add_right (step.start_le dated stored') _⟩
  rcases mem_holders_cons.mp holds with ⟨activates, -⟩ | ⟨held, unreversed⟩
  · exact activated activates
  · obtain ⟨ends, before, since⟩ := holders wallet n claimId held
    by_cases again : ∃ owner, event.activation = some (owner, claimId)
    · obtain ⟨owner, activates⟩ := again
      obtain ⟨claim, listed, rfl, -⟩ := before
      obtain rfl := own owner claimId claim activates listed
      exact activated activates
    · refine ⟨ends, before.step step kept (not_exists.mp again) unreversed, ?_⟩
      intro current record' stored'
      by_cases undeposited : event.deposit wallet = 0
      · rw [deposits, undeposited, add_zero] at current
        obtain ⟨record, stored, start⟩ := step.start_kept undeposited stored'
        exact start ▸ since current record stored
      · -- a deposit just made stands behind no claim
        rw [deposits] at current
        rw [holders_eq_empty (by omega)] at held
        exact absurd held (Finset.notMem_empty _)

end ProtectionPool
