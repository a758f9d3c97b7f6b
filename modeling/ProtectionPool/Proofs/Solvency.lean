/-
Module: ProtectionPool.Proofs.Solvency
Purpose: What is allocated to claims never exceeds the stake aggregate, as long
  as no step takes more out of that aggregate than its headroom above the
  allocations.  Admissions and overrides check the inequality before the
  principal they forfeit is taken off; exits, approvals and redemptions do not
  check it at all.
Trusted boundary: none
Main exports: Solvent, Books.headroom, BookEvent.WithinHeadroom, withinHeadroom,
  allocations_covered
-/
import ProtectionPool.Proofs.WellKept

namespace ProtectionPool

open Checked

variable {D : Type} [DecidableEq D]

/-- Solvency of the pool: its deposits cover what is allocated to claims. -/
def Solvent (s : State D) : Prop := s.totalAllocated ≤ s.totalStaked

instance (s : State D) : Decidable (Solvent s) := inferInstanceAs (Decidable (_ ≤ _))

/-- The stake the allocations leave free. -/
def Books.headroom (b : Books D) : Int := b.totalStaked - b.totalAllocated

/-- The condition under which an entry keeps the pool solvent: the principal an
exit or an approval takes out, and the loss of a redemption, are within the
headroom; an override's allocation is covered without the principal it forfeits;
and so is the allocation a reversal leaves, which is larger than before when the
claim was paid more than it carries. -/
def BookEvent.WithinHeadroom (b : Books D) : BookEvent D → Prop
  | .exited wallet => ∀ record ∈ b.stakes.get wallet, record.amount ≤ b.headroom
  | .approved wallet _ => ∀ record ∈ b.stakes.get wallet, record.amount ≤ b.headroom
  | .overridden wallet claimId entitlement =>
      ∀ record ∈ b.stakes.get wallet,
        b.afterRelease (b.claims.get claimId) + entitlement ≤
          if record.withdrawn then b.totalStaked else b.totalStaked - record.amount
  | .cancelled _ claimId =>
      ∀ claim ∈ b.claims.get claimId, claim.status = .active →
        saturatingSub b.totalAllocated (claim.entitlement - claim.streamed) ≤
          b.totalStaked + claim.stake
  | .redeemed loss => loss ≤ b.headroom
  | _ => True

instance (b : Books D) (event : BookEvent D) : Decidable (event.WithinHeadroom b) := by
  induction event using BookEvent.casesOn with
  | exited | approved | overridden =>
      exact inferInstanceAs (Decidable (∀ record ∈ b.stakes.get _, _))
  | cancelled => exact inferInstanceAs (Decidable (∀ claim ∈ b.claims.get _, _))
  | redeemed => exact inferInstanceAs (Decidable (_ ≤ _))
  | _ => exact inferInstanceAs (Decidable True)

variable {idOf : Address → BytesN 32 → D} {event : BookEvent D} {b b' : Books D}

/-! ### The two aggregates under an entry -/

/-- A release never raises the allocations. -/
theorem Books.WellKept.release_le (kept : b.WellKept) {amount : Int} (nonneg : 0 ≤ amount) :
    saturatingSub b.totalAllocated amount ≤ b.totalAllocated := by
  apply saturateI128_le_of_le
  · exact le_trans (by decide) kept.allocated_nonneg
  · exact sub_le_self _ nonneg

/-- A mark-down keeps the allocations covered exactly when it is within the
headroom. -/
theorem Books.WellKept.markdown_covered_iff (kept : b.WellKept)
    (solvent : b.totalAllocated ≤ b.totalStaked) {loss : Int} :
    (b.totalAllocated ≤
        if 0 < loss then saturatingSub b.totalStaked loss else b.totalStaked) ↔
      loss ≤ b.headroom := by
  unfold Books.headroom
  by_cases lossy : 0 < loss
  · have above : i128Min < b.totalAllocated := lt_of_lt_of_le (by decide) kept.allocated_nonneg
    rw [if_pos lossy, saturatingSub, le_saturateI128_iff above kept.allocatedFits, le_sub_comm]
  · rw [if_neg lossy]
    constructor
    · intro _
      exact (not_lt.mp lossy).trans (sub_nonneg.mpr solvent)
    · intro _
      exact solvent

/-- One entry keeps the pool solvent exactly when it is within the headroom. -/
theorem BookStep.solvent_iff (step : BookStep idOf event b b') (kept : b.WellKept)
    (solvent : b.totalAllocated ≤ b.totalStaked) :
    b'.totalAllocated ≤ b'.totalStaked ↔ event.WithinHeadroom b := by
  cases step with
  | staked positive =>
      apply iff_of_true _ trivial
      exact solvent.trans (le_add_of_nonneg_right positive.le)
  | exited stored | approved _ _ stored =>
      simp only [BookEvent.WithinHeadroom, Store.forall_mem_get stored, Books.headroom]
      exact le_sub_comm
  | admitted _ _ _ _ _ covered | released _ _ _ _ _ covered =>
      exact iff_of_true covered trivial
  | approvalExpired listed =>
      apply iff_of_true _ trivial
      exact (kept.release_le (kept.claims _ _ listed).positive.le).trans solvent
  | staleExpired _ _ unpaid =>
      apply iff_of_true _ trivial
      exact (kept.release_le (sub_nonneg.mpr unpaid.le)).trans solvent
  | streamed _ _ _ positive =>
      apply iff_of_true _ trivial
      exact (kept.release_le positive.le).trans solvent
  | @droppedPending _ _ claim _ listed pending =>
      have claimKept := kept.claims _ _ listed
      apply iff_of_true
      · have unstreamed : 0 ≤ claim.entitlement - claim.streamed := by
          rw [claimKept.unpaid (.inr pending), sub_zero]
          exact claimKept.positive.le
        exact (kept.release_le unstreamed).trans solvent
      · exact forall_active_of_pending listed pending
  | reversed listed active =>
      simp only [BookEvent.WithinHeadroom, Store.forall_mem_get listed, active, forall_const]
  | overridden _ stored =>
      simp only [BookEvent.WithinHeadroom, Store.forall_mem_get stored]
  | redeemed => exact kept.markdown_covered_iff solvent
  | queued | queueExpired | unlocked | deployed | kept | treasury | clock | amended | restarted =>
      exact iff_of_true solvent trivial

/-! ### Runs -/

/-- The steps that keep the pool solvent: those that take no more out of the
stake aggregate than its headroom. -/
def withinHeadroom (host : Host D) : System.Guard (State D) (Action D) (Output D) :=
  fun _ s action => (bookEvent host s action).WithinHeadroom (s.books host)

instance (host : Host D) (log : List (Entry (State D) (Action D) (Output D))) (s : State D)
    (action : Action D) : Decidable (withinHeadroom host log s action) :=
  inferInstanceAs (Decidable (BookEvent.WithinHeadroom _ _))

/-- In every run whose steps stay within the headroom the pool is solvent.  A
further step keeps it so exactly when it stays within the headroom too. -/
theorem allocations_covered (host : Host D)
    {log : List (Entry (State D) (Action D) (Output D))} {s : State D}
    (run : (poolSystem host).Run (withinHeadroom host) log s) :
    Solvent s ∧
      ∀ {action output s'}, (poolSystem host).step s action = .ok (output, s') →
        (Solvent s' ↔ withinHeadroom host log s action) := by
  have solvent : Solvent s := by
    apply run.invariant (P := fun _ s => Solvent s)
    · intro s deployed
      obtain ⟨-, -, staked, allocated, -⟩ := deployed_books deployed
      rw [Solvent, staked, allocated]
    · intro log s action output s' run solvent within stepped
      exact ((step_refines stepped).solvent_iff (wellKept_of_run run) solvent).mpr within
  constructor
  · exact solvent
  · intro action output s' stepped
    exact (step_refines stepped).solvent_iff (wellKept_of_run run) solvent

/-- Such runs forfeit, pay and exit. -/
theorem allocations_covered_sample :
    ∃ log s, (poolSystem sampleHost).Run (withinHeadroom sampleHost) log s ∧
      s.totalAllocated = 4889 ∧ Solvent s := by
  obtain ⟨log, s, run, ends⟩ := System.exists_run_of_replay (poolSystem sampleHost)
    (withinHeadroom sampleHost) samplePool_deployed
    ([callBy 13 (.stake (party 13) 5000 (party 23))] ++ sampleOpening 10000 ++
      [callBy 13 (.emergencyExit (party 13)), afterDays 30,
        callBy 11 (.claimStream (computeClaimId sampleHost (party 11) 0) (party 21))])
    (fun _ s => s.totalAllocated = 4889) (by decide +kernel)
  exact ⟨log, s, run, ends, (allocations_covered sampleHost run).1⟩

/-- An override of the only staker's deposit is checked against the principal it
then forfeits: 2000 are allocated and nothing is staked. -/
theorem override_allocates_forfeited_principal :
    ∃ log s, (poolSystem sampleHost).Run System.anyStep log s ∧ ¬ Solvent s := by
  obtain ⟨log, s, run, ends⟩ := System.exists_run_of_replay (poolSystem sampleHost)
    System.anyStep samplePool_deployed
    ([callBy 11 (.stake (party 11) 2000 (party 21))] ++ overrideBoth 11 0 2000 1)
    (fun _ s => ¬ Solvent s) (by decide +kernel)
  exact ⟨log, s, run, ends⟩

end ProtectionPool
