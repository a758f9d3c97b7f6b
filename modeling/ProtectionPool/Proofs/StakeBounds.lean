/-
Module: ProtectionPool.Proofs.StakeBounds
Purpose: The stake aggregate between zero and the pool cap.  Exits, forfeitures and
  redemption losses take amounts out of it that nothing checks against what it
  still holds, and a reversal puts a forfeited deposit back without a look at the
  cap.  As long as the one is within the aggregate and the other within the cap,
  both bounds hold.
Trusted boundary: none
Main exports: BookEvent.WithinStaked, withinStaked, aggregates_nonneg,
  BookEvent.RestoresWithin, restoresWithinCap, stake_within_cap
-/
import ProtectionPool.Books.Position
import ProtectionPool.Proofs.WellKept

namespace ProtectionPool

open Checked

variable {D : Type}

variable {idOf : Address → BytesN 32 → D} {event : BookEvent D} {b b' : Books D}
  {host : Host D} {s s' : State D} {action : Action D} {output : Output D}

/-! ### Not below zero -/

/-- The aggregates of a state are not negative. -/
def AggregatesNonneg (s : State D) : Prop := 0 ≤ s.totalStaked ∧ 0 ≤ s.totalAllocated

/-- The condition under which an entry leaves the stake aggregate at zero or more:
the deposit an exit, an approval or an override takes out of it, and the loss of a
redemption, are within the aggregate. -/
def BookEvent.WithinStaked (b : Books D) : BookEvent D → Prop
  | .exited wallet => ∀ record ∈ b.stakes.get wallet, record.amount ≤ b.totalStaked
  | .approved wallet _ => ∀ record ∈ b.stakes.get wallet, record.amount ≤ b.totalStaked
  | .overridden wallet _ _ =>
      ∀ record ∈ b.stakes.get wallet, record.withdrawn = false → record.amount ≤ b.totalStaked
  | .redeemed loss => loss ≤ b.totalStaked
  | _ => True

instance (s : State D) : Decidable (AggregatesNonneg s) :=
  inferInstanceAs (Decidable (_ ∧ _))

instance (b : Books D) (event : BookEvent D) : Decidable (event.WithinStaked b) := by
  induction event using BookEvent.casesOn with
  | exited | approved | overridden =>
      exact inferInstanceAs (Decidable (∀ record ∈ b.stakes.get _, _))
  | redeemed => exact inferInstanceAs (Decidable (_ ≤ _))
  | _ => exact inferInstanceAs (Decidable True)

variable [DecidableEq D]

/-- No claim records a negative deposit. -/
def Books.ClaimStakesNonneg (b : Books D) : Prop :=
  Store.All (fun _ claim => 0 ≤ claim.stake) b.claims

theorem BookStep.claimStakes_nonneg (step : BookStep idOf event b b') (kept : b.WellKept)
    (nonneg : b.ClaimStakesNonneg) : b'.ClaimStakesNonneg := by
  cases step with
  | queued _ stored | admitted _ stored | released _ _ stored =>
      exact Store.All.set nonneg (kept.amounts _ _ stored)
  | approved listed _ stored =>
      exact Store.All.set nonneg (kept.amounts _ _ stored)
  | overridden _ stored =>
      exact Store.All.set nonneg (kept.amounts _ _ stored)
  | queueExpired listed | unlocked listed | approvalExpired listed | staleExpired listed
  | streamed listed | droppedPending listed | reversed listed | restarted _ listed =>
      exact Store.All.update nonneg listed id
  | staked | exited | redeemed | deployed | kept | treasury | clock | amended => exact nonneg

/-- In every run no claim records a negative deposit. -/
theorem claimStakes_nonneg_of_run {guard : System.Guard (State D) (Action D) (Output D)}
    {log : List (Entry (State D) (Action D) (Output D))}
    (run : (poolSystem host).Run guard log s) : (s.books host).ClaimStakesNonneg := by
  apply run.invariant (P := fun _ s => (s.books host).ClaimStakesNonneg)
  · intro s deployed
    obtain ⟨-, noClaims, -⟩ := deployed_books deployed
    rw [Books.ClaimStakesNonneg, State.books, noClaims]
    exact Store.all_empty
  · intro log s action output s' run nonneg _ stepped
    exact (step_refines stepped).claimStakes_nonneg (wellKept_of_run run) nonneg

/-- One entry leaves the stake aggregate at zero or more exactly when what it
takes out is within the aggregate. -/
theorem BookStep.staked_nonneg_iff (step : BookStep idOf event b b')
    (claimStakes : b.ClaimStakesNonneg) (nonneg : 0 ≤ b.totalStaked) :
    0 ≤ b'.totalStaked ↔ event.WithinStaked b := by
  cases step with
  | staked positive => exact iff_of_true (add_nonneg nonneg positive.le) trivial
  | exited stored | approved _ _ stored =>
      simp only [BookEvent.WithinStaked, Store.forall_mem_get stored, sub_nonneg]
  | reversed listed => exact iff_of_true (add_nonneg nonneg (claimStakes _ _ listed)) trivial
  | @overridden _ _ _ record _ _ stored =>
      simp only [BookEvent.WithinStaked, Store.forall_mem_get stored]
      by_cases withdrawn : record.withdrawn = true
      · simp only [withdrawn, if_true, Bool.true_eq_false, false_implies, iff_true]
        exact nonneg
      · have standing := Bool.eq_false_iff.mpr withdrawn
        simp only [standing, Bool.false_eq_true, if_false, true_implies, sub_nonneg]
  | @redeemed _ loss =>
      simp only [BookEvent.WithinStaked]
      by_cases lossy : 0 < loss
      · rw [if_pos lossy, saturatingSub, le_saturateI128_iff (by decide) (by decide), sub_nonneg]
      · rw [if_neg lossy]
        exact iff_of_true nonneg ((not_lt.mp lossy).trans nonneg)
  | queued | admitted | released | queueExpired | unlocked | approvalExpired | staleExpired
  | streamed | droppedPending | deployed | kept | treasury | clock | amended | restarted =>
      exact iff_of_true nonneg trivial

/-- The steps that take no more out of the stake aggregate than it holds. -/
def withinStaked (host : Host D) : System.Guard (State D) (Action D) (Output D) :=
  fun _ s action => (bookEvent host s action).WithinStaked (s.books host)

instance (host : Host D) (log : List (Entry (State D) (Action D) (Output D))) (s : State D)
    (action : Action D) : Decidable (withinStaked host log s action) :=
  inferInstanceAs (Decidable (BookEvent.WithinStaked _ _))

/-- In every run whose steps take no more out of the stake aggregate than it holds
neither aggregate is negative.  A further step keeps this exactly when it takes no
more either. -/
theorem aggregates_nonneg (host : Host D)
    {log : List (Entry (State D) (Action D) (Output D))} {s : State D}
    (run : (poolSystem host).Run (withinStaked host) log s) :
    AggregatesNonneg s ∧
      ∀ {action output s'}, (poolSystem host).step s action = .ok (output, s') →
        (AggregatesNonneg s' ↔ withinStaked host log s action) := by
  have staked : 0 ≤ s.totalStaked := by
    apply run.invariant (P := fun _ s => 0 ≤ s.totalStaked)
    · intro s deployed
      obtain ⟨-, -, staked, -⟩ := deployed_books deployed
      exact staked.ge
    · intro log s action output s' run nonneg within stepped
      exact ((step_refines stepped).staked_nonneg_iff (claimStakes_nonneg_of_run run) nonneg).mpr
        within
  constructor
  · exact ⟨staked, (wellKept_of_run run).allocated_nonneg⟩
  · intro action output s' stepped
    have step := step_refines stepped
    have same := step.staked_nonneg_iff (claimStakes_nonneg_of_run run) staked
    have allocated : 0 ≤ s'.totalAllocated := (step.wellKept (wellKept_of_run run)).allocated_nonneg
    exact (and_iff_left allocated).trans same

/-- Such a run redeems at a loss and forfeits a deposit. -/
theorem aggregates_nonneg_sample :
    ∃ log s, (poolSystem sampleHost).Run (withinStaked sampleHost) log s ∧
      s.totalStaked = 95000 ∧ AggregatesNonneg s := by
  obtain ⟨log, s, run, ends⟩ := System.exists_run_of_replay (poolSystem sampleHost)
    (withinStaked sampleHost) samplePool_deployed
    ([callBy 11 (.stake (party 11) 2000 (party 21))] ++ sampleVault ++
      [.invoke (.of [party 1] ⟨50000, 50000, 0, 0⟩) (.deployToVault 50000 0),
       .invoke (.of [party 1] ⟨0, 0, 45000, 50000⟩)
         (.provideLiquidity 50000 0)] ++ overrideBoth 11 0 10000 1)
    (fun _ s => s.totalStaked = 95000) (by decide +kernel)
  exact ⟨log, s, run, ends, (aggregates_nonneg sampleHost run).1⟩

/-- The only staker's deposit is forfeited after a redemption lost 5000 of it: the
whole 100000 are taken out of the 95000 left in the aggregate. -/
theorem loss_then_forfeiture_below_zero :
    ∃ log s, (poolSystem sampleHost).Run System.anyStep log s ∧ ¬ AggregatesNonneg s := by
  obtain ⟨log, s, run, ends⟩ := System.exists_run_of_replay (poolSystem sampleHost)
    System.anyStep samplePool_deployed
    (sampleVault ++
      [.invoke (.of [party 1] ⟨50000, 50000, 0, 0⟩) (.deployToVault 50000 0),
       .invoke (.of [party 1] ⟨0, 0, 45000, 50000⟩)
         (.provideLiquidity 50000 0)] ++ overrideBoth 12 0 10000 1)
    (fun _ s => ¬ AggregatesNonneg s) (by decide +kernel)
  exact ⟨log, s, run, ends⟩

/-! ### Not above the cap -/

/-- The deposits are within the cap of the pool. -/
def WithinCap (s : State D) : Prop := s.totalStaked ≤ s.poolCap

/-- The condition under which an entry leaves the stake aggregate within a cap: the
deposit a reversal puts back fits below it. -/
def BookEvent.RestoresWithin (cap : Int) (b : Books D) : BookEvent D → Prop
  | .cancelled _ claimId =>
      ∀ claim ∈ b.claims.get claimId, claim.status = .active → b.totalStaked + claim.stake ≤ cap
  | _ => True

instance (s : State D) : Decidable (WithinCap s) := inferInstanceAs (Decidable (_ ≤ _))

instance (cap : Int) (b : Books D) (event : BookEvent D) :
    Decidable (event.RestoresWithin cap b) := by
  induction event using BookEvent.casesOn with
  | cancelled => exact inferInstanceAs (Decidable (∀ claim ∈ b.claims.get _, _))
  | _ => exact inferInstanceAs (Decidable True)

/-- One entry leaves the stake aggregate within a cap exactly when what it puts back
fits below it, provided that a deposit does. -/
theorem BookStep.staked_le_iff (step : BookStep idOf event b b') (kept : b.WellKept) {cap : Int}
    (positive : 0 < cap) (within : b.totalStaked ≤ cap)
    (deposits : ∀ wallet, event = .staked wallet → b'.totalStaked ≤ cap) :
    b'.totalStaked ≤ cap ↔ event.RestoresWithin cap b := by
  cases step with
  | staked => exact iff_of_true (deposits _ rfl) trivial
  | exited stored funded =>
      exact iff_of_true ((sub_le_self _ funded.le).trans within) trivial
  | approved listed _ stored =>
      exact iff_of_true ((sub_le_self _ (kept.amounts _ _ stored)).trans within) trivial
  | reversed listed active =>
      simp only [BookEvent.RestoresWithin, Store.forall_mem_get listed, active, forall_const]
  | droppedPending listed pending =>
      exact iff_of_true within (forall_active_of_pending listed pending)
  | overridden _ _ _ funded =>
      apply iff_of_true _ trivial
      simp only
      split_ifs
      · exact within
      · exact (sub_le_self _ funded.le).trans within
  | redeemed nonneg =>
      apply iff_of_true _ trivial
      simp only
      split_ifs
      · apply saturateI128_le_of_le
        · exact le_trans (by decide) positive.le
        · exact (sub_le_self _ nonneg).trans within
      · exact within
  | queued | admitted | released | queueExpired | unlocked | approvalExpired | staleExpired
  | streamed | deployed | kept | treasury | clock | amended | restarted =>
      exact iff_of_true within trivial

omit [DecidableEq D] in
/-- A step that sets no cap leaves it, and a cap that is set covers the deposits. -/
theorem PositionStep.cap_covers {p : Position} (step : PositionStep host s action p)
    (positive : 0 < s.poolCap) (within : WithinCap s) :
    (0 < p.poolCap ∧ s.totalStaked ≤ p.poolCap) ∧
      (p.poolCap = s.poolCap ∨ ∃ env newCap, action = .invoke env (.setPoolCap newCap)) := by
  cases step with
  | capSet capPositive covers => exact ⟨⟨capPositive, covers⟩, .inr ⟨_, _, rfl⟩⟩
  | kept | vaultSet | deployBpsSet | deposited | redeemed | sharesMoved =>
      exact ⟨⟨positive, within⟩, .inl rfl⟩

omit [DecidableEq D] in
/-- A deposit is refused where it does not fit below the cap. -/
theorem stake_withinCap {env : Env} {staker beneficiary : Address} {amount : Int}
    (stepped : stake host env s staker amount beneficiary = .ok s') : WithinCap s' := by
  have staked := stake_eq_ok.mp stepped
  rw [staked.state]
  exact staked.withinCap

/-- Only a deposit makes the entry of one. -/
theorem stake_of_bookEvent {wallet : Address} (staked : bookEvent host s action = .staked wallet) :
    ∃ env amount beneficiary, action = .invoke env (.stake wallet amount beneficiary) := by
  obtain other | ⟨env, call, rfl, entered⟩ := bookEvent_enteredBy host s action
  · cases staked.symm.trans other
  · rw [staked] at entered
    cases call with
    | stake staker amount beneficiary =>
        cases staked
        exact ⟨env, amount, beneficiary, rfl⟩
    | _ => cases entered

/-- One step keeps the deposits within the cap exactly when what it puts back fits
below it. -/
theorem withinCap_iff (stepped : poolStep host s action = .ok (output, s'))
    (kept : (s.books host).WellKept) (positive : 0 < s.poolCap) (within : WithinCap s) :
    WithinCap s' ↔ (bookEvent host s action).RestoresWithin s.poolCap (s.books host) := by
  obtain ⟨⟨positive', covers⟩, same⟩ := (step_positions stepped).cap_covers positive within
  have deposits : ∀ wallet, bookEvent host s action = .staked wallet → WithinCap s' := by
    intro wallet staked
    obtain ⟨env, amount, beneficiary, rfl⟩ := stake_of_bookEvent staked
    exact stake_withinCap (returningUnit_eq_ok.mp stepped).1
  have entry := (step_refines stepped).staked_le_iff kept positive' covers deposits
  rcases same with unchanged | ⟨env, newCap, rfl⟩
  · rw [← unchanged]
    exact entry
  · exact entry

/-- The steps that put back no more than the cap has room for. -/
def restoresWithinCap (host : Host D) : System.Guard (State D) (Action D) (Output D) :=
  fun _ s action => (bookEvent host s action).RestoresWithin s.poolCap (s.books host)

instance (host : Host D) (log : List (Entry (State D) (Action D) (Output D))) (s : State D)
    (action : Action D) : Decidable (restoresWithinCap host log s action) :=
  inferInstanceAs (Decidable (BookEvent.RestoresWithin _ _ _))

/-- In every run whose reversals fit below the cap the deposits are within it.  A
further step keeps this exactly when it is no reversal that does not fit. -/
theorem stake_within_cap (host : Host D)
    {log : List (Entry (State D) (Action D) (Output D))} {s : State D}
    (run : (poolSystem host).Run (restoresWithinCap host) log s) :
    WithinCap s ∧
      ∀ {action output s'}, (poolSystem host).step s action = .ok (output, s') →
        (WithinCap s' ↔ restoresWithinCap host log s action) := by
  have bounds : 0 < s.poolCap ∧ WithinCap s := by
    apply run.invariant (P := fun _ s => 0 < s.poolCap ∧ WithinCap s)
    · intro s deployed
      obtain ⟨-, -, staked, -⟩ := deployed_books deployed
      have positive := (deployed_position deployed).1
      exact ⟨positive, staked.le.trans positive.le⟩
    · intro log s action output s' run bounds fits stepped
      obtain ⟨positive, within⟩ := bounds
      exact ⟨((step_positions stepped).cap_covers positive within).1.1,
        (withinCap_iff stepped (wellKept_of_run run) positive within).mpr fits⟩
  exact ⟨bounds.2, fun stepped => withinCap_iff stepped (wellKept_of_run run) bounds.1 bounds.2⟩

/-- In such a run a deposit is forfeited, reversed and still within the cap. -/
theorem stake_within_cap_sample :
    ∃ log s, (poolSystem sampleHost).Run (restoresWithinCap sampleHost) log s ∧
      s.totalStaked = 102000 ∧ WithinCap s := by
  obtain ⟨log, s, run, ends⟩ := System.exists_run_of_replay (poolSystem sampleHost)
    (restoresWithinCap sampleHost) samplePool_deployed
    (sampleOpening 10000 ++ [callBy 1 (.setPoolCap 102000),
      callBy 1 (.cancelClaim (computeClaimId sampleHost (party 11) 0))])
    (fun _ s => s.totalStaked = 102000) (by decide +kernel)
  exact ⟨log, s, run, ends, (stake_within_cap sampleHost run).1⟩

/-- The cap is lowered to what is staked while a deposit is forfeited, then the
forfeiture is reversed: 102000 are staked under a cap of 100000. -/
theorem reversal_exceeds_cap :
    ∃ log s, (poolSystem sampleHost).Run System.anyStep log s ∧ ¬ WithinCap s := by
  obtain ⟨log, s, run, ends⟩ := System.exists_run_of_replay (poolSystem sampleHost)
    System.anyStep samplePool_deployed
    (sampleOpening 10000 ++ [callBy 1 (.setPoolCap 100000),
      callBy 1 (.cancelClaim (computeClaimId sampleHost (party 11) 0))])
    (fun _ s => ¬ WithinCap s) (by decide +kernel)
  exact ⟨log, s, run, ends⟩

end ProtectionPool
