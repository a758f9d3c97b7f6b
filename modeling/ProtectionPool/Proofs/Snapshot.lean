/-
Module: ProtectionPool.Proofs.Snapshot
Purpose: The forfeited deposit of a claim inside the snapshot its daily payout cap
  is a share of.  Activation takes the snapshot before the deposit leaves the stake
  aggregate, but an override of a claim already in effect takes it afterwards, when
  the deposit is not in the aggregate any more: of a sole staker's claim nothing is
  left to take a share of.
Trusted boundary: none
Main exports: Claim.InSnapshot, SnapshotsHoldStakes, BookEvent.FindsStake,
  findsStake, snapshots_hold_stakes
-/
import ProtectionPool.Proofs.DailyOutflow
import ProtectionPool.Proofs.WellKept

namespace ProtectionPool

open Checked

variable {D : Type}

/-- A claim has a deposit, and its snapshot contains it. -/
def Claim.InSnapshot (claim : Claim) : Prop :=
  0 < claim.stake ∧ claim.stake ≤ claim.totalStakedSnapshot

instance (claim : Claim) : Decidable claim.InSnapshot := inferInstanceAs (Decidable (_ ∧ _))

variable [DecidableEq D]

/-- The snapshot of every claim in effect contains its deposit. -/
def SnapshotsHoldStakes (s : State D) : Prop :=
  Store.All (fun _ claim => claim.status = .active → claim.InSnapshot) s.claims

instance (s : State D) : Decidable (SnapshotsHoldStakes s) :=
  inferInstanceAs (Decidable (Store.All _ _))

/-- The condition under which an entry takes a snapshot that holds the deposit: the
deposit it is made on is in the stake aggregate. -/
def BookEvent.FindsStake (b : Books D) : BookEvent D → Prop
  | .approved wallet _ =>
      ∀ record ∈ b.stakes.get wallet, 0 < record.amount ∧ record.amount ≤ b.totalStaked
  | .overridden wallet _ _ => ∀ record ∈ b.stakes.get wallet, record.amount ≤ b.totalStaked
  | _ => True

instance (b : Books D) (event : BookEvent D) : Decidable (event.FindsStake b) := by
  induction event using BookEvent.casesOn with
  | approved | overridden => exact inferInstanceAs (Decidable (∀ record ∈ b.stakes.get _, _))
  | _ => exact inferInstanceAs (Decidable True)

variable {idOf : Address → BytesN 32 → D} {event : BookEvent D} {b b' : Books D}
  {host : Host D} {s : State D} {claim : Claim}

/-- One entry keeps the deposits in the snapshots exactly when it finds the deposit
it takes a snapshot with in the aggregate. -/
theorem BookStep.inSnapshot_iff (step : BookStep idOf event b b')
    (held : Store.All (fun _ claim => claim.status = .active → Claim.InSnapshot claim) b.claims) :
    Store.All (fun _ claim => claim.status = .active → Claim.InSnapshot claim) b'.claims ↔
      event.FindsStake b := by
  cases step with
  | approved listed _ stored =>
      rw [held.set_iff]
      simp only [BookEvent.FindsStake, Store.forall_mem_get stored, Claim.activated,
        Claim.InSnapshot, forall_const]
  | overridden _ stored _ funded =>
      rw [held.set_iff]
      simp only [BookEvent.FindsStake, Store.forall_mem_get stored, Claim.activated,
        Claim.InSnapshot, forall_const, funded, true_and]
  | queued => exact iff_of_true (held.set (by rintro ⟨⟩)) trivial
  | admitted _ _ _ _ _ _ admission | released _ _ _ _ _ _ admission =>
      refine iff_of_true (held.set fun active => absurd active ?_) trivial
      exact ClaimStatus.ne_of_isPending admission.pending rfl
  | unlocked | queueExpired | approvalExpired | staleExpired | droppedPending | reversed =>
      exact iff_of_true (held.set (by rintro ⟨⟩)) trivial
  | streamed listed active =>
      exact iff_of_true (held.update listed fun inside _ => inside active) trivial
  | restarted _ listed => exact iff_of_true (held.update listed id) trivial
  | staked | exited | redeemed | deployed | kept | treasury | clock | amended =>
      exact iff_of_true held trivial

omit [DecidableEq D] in
/-- The rate of the daily cap is at least 1%. -/
theorem dynamicOutflowBps_ge {base bps : Int} (computed : dynamicOutflowBps s base = .ok bps) :
    100 ≤ bps := by
  rcases ite_eq_ok.mp computed with ⟨-, computed⟩ | ⟨-, computed⟩
  · exact (Except.ok.inj computed).le
  · simp only [bind_eq_ok, Except.ok.injEq] at computed
    obtain ⟨scaled, -, rfl⟩ := computed
    split_ifs <;> decide

omit [DecidableEq D] in
/-- The base of a claim's daily cap is not below its deposit, and the cap is not
below one hundredth of it. -/
theorem Claim.InSnapshot.cap_positive (inside : claim.InSnapshot) (s : State D) :
    0 < capBase s claim ∧ ∀ cap, outflowCap s claim = .ok cap → claim.stake / 100 ≤ cap := by
  obtain ⟨positive, within⟩ := inside
  have base : claim.stake ≤ capBase s claim := within.trans (le_max_right _ _)
  refine ⟨positive.trans_le base, fun cap computed => ?_⟩
  obtain ⟨bps, rate, rfl⟩ := outflowCap_ok computed
  have product : claim.stake * 100 ≤ capBase s claim * bps :=
    mul_le_mul base (dynamicOutflowBps_ge rate) (by decide) (positive.le.trans base)
  rw [Int.tdiv_eq_ediv_of_nonneg (by omega), bpsDenominator]
  omega

/-- The steps that take a snapshot only where the deposit is in the aggregate. -/
def findsStake (host : Host D) : System.Guard (State D) (Action D) (Output D) :=
  fun _ s action => (bookEvent host s action).FindsStake (s.books host)

instance (host : Host D) (log : List (Entry (State D) (Action D) (Output D))) (s : State D)
    (action : Action D) : Decidable (findsStake host log s action) :=
  inferInstanceAs (Decidable (BookEvent.FindsStake _ _))

/-- In every run whose approvals and overrides find the deposit in the stake
aggregate the snapshot of every claim in effect contains its deposit, so that the
base of its daily cap is positive and the cap at least one hundredth of the deposit.
A further step keeps the deposits in the snapshots exactly when it finds its own
there. -/
theorem snapshots_hold_stakes (host : Host D)
    {log : List (Entry (State D) (Action D) (Output D))} {s : State D}
    (run : (poolSystem host).Run (findsStake host) log s) :
    (SnapshotsHoldStakes s ∧ ∀ claimId claim, s.claims.get claimId = some claim →
        claim.status = .active → 0 < capBase s claim ∧
          ∀ cap, outflowCap s claim = .ok cap → claim.stake / 100 ≤ cap) ∧
      ∀ {action output s'}, (poolSystem host).step s action = .ok (output, s') →
        (SnapshotsHoldStakes s' ↔ findsStake host log s action) := by
  obtain ⟨held, exactly⟩ := run.invariant_exactly (I := SnapshotsHoldStakes)
    (by
      intro s deployed
      obtain ⟨-, noClaims, -⟩ := deployed_books deployed
      rw [SnapshotsHoldStakes, noClaims]
      exact Store.all_empty)
    (fun _ _ _ _ _ _ held stepped => (step_refines stepped).inSnapshot_iff held)
  refine ⟨⟨held, ?_⟩, exactly⟩
  intro claimId claim listed active
  exact (held claimId claim listed active).cap_positive s

/-- In such a run the other staker leaves while a claim is in effect. -/
theorem snapshots_hold_stakes_sample :
    ∃ log s, (poolSystem sampleHost).Run (findsStake sampleHost) log s ∧
      (s.totalStaked = 0 ∧ ¬ Store.All (fun _ claim => claim.status ≠ .active) s.claims) ∧
      SnapshotsHoldStakes s := by
  obtain ⟨log, s, run, ends⟩ := System.exists_run_of_replay (poolSystem sampleHost)
    (findsStake sampleHost) samplePool_deployed
    (sampleOpening 1000 ++ [callBy 12 (.withdraw (party 12) (party 22))])
    (fun _ s => s.totalStaked = 0 ∧ ¬ Store.All (fun _ claim => claim.status ≠ .active) s.claims)
    (by decide +kernel)
  exact ⟨log, s, run, ends, (snapshots_hold_stakes sampleHost run).1.1⟩

/-- The only staker's claim is overridden again while it is in effect: its snapshot
is taken of nothing, and the base of its cap is zero. -/
theorem reexecution_snapshot_without_stake :
    ∃ log s, (poolSystem sampleHost).Run System.anyStep log s ∧ ¬ SnapshotsHoldStakes s ∧
      ∃ claim ∈ s.claims.get (computeClaimId sampleHost (party 11) 0),
        claim.status = .active ∧ capBase s claim = 0 := by
  obtain ⟨log, s, run, ends⟩ := System.exists_run_of_replay (poolSystem sampleHost)
    System.anyStep samplePool_deployed
    ([callBy 11 (.stake (party 11) 2000 (party 21))] ++ overrideBoth 11 0 1000 1 ++
      overrideBoth 11 0 1000 1)
    (fun _ s => ¬ SnapshotsHoldStakes s ∧
      ∃ claim ∈ s.claims.get (computeClaimId sampleHost (party 11) 0),
        claim.status = .active ∧ capBase s claim = 0) (by decide +kernel)
  exact ⟨log, s, run, ends⟩

end ProtectionPool
