/-
Module: ProtectionPool.Proofs.Fuzz
Purpose: What the fuzz target `fuzz_solvency` can find.  Its operations approve no claim and
  execute no override, so no claim ever takes effect under it: nothing is paid, no deposit
  is forfeited and none restored.  The only operation that can make its assertion fail is a
  withdrawal of more than the stake the allocations leave free, and every such one does.
Trusted boundary: none
Main exports: Claim.Idle, Frugal, FuzzFindings, fuzz_solvency_findings
-/
import ProtectionPool.Model.Fuzz
import ProtectionPool.Proofs.DailyOutflow
import ProtectionPool.Proofs.Solvency

namespace ProtectionPool

open Checked

variable {D : Type}

/-- A claim that never took effect. -/
structure Claim.Idle (claim : Claim) : Prop where
  status : claim.status ∈ [ClaimStatus.reserved, .pendingTime, .awaitingApproval, .cancelled]
  unpaid : claim.streamed = 0

variable [DecidableEq D]

/-- An operation takes no more out of the pool than its allocations leave free. -/
def Frugal (host : Host D) (setup : FuzzSetup) (e : Entry (FuzzState D) SolvencyOp Unit) : Prop :=
  ∀ wallet, e.action = .withdraw wallet →
    (withdraw host setup.env e.pre.pool (setup.wallets (walletIndex wallet))
      (setup.beneficiaries (walletIndex wallet))).isOk = true →
    ∀ record ∈ e.pre.pool.stakes.get (setup.wallets (walletIndex wallet)),
      record.amount ≤ e.pre.pool.totalStaked - e.pre.pool.totalAllocated

/-- The calls the target makes. -/
def Action.fuzzed : Action D → Bool
  | .invoke _ (.stake _ _ _) | .invoke _ (.withdraw _ _) | .closeLedger _ _
  | .invoke _ (.submitClaim _ _ _ _ _ _ _ _) | .invoke _ (.claimStream _ _)
  | .invoke _ (.cancelClaim _) => true
  | _ => false

variable {host : Host D} {setup : FuzzSetup} {f f' : FuzzState D} {op : SolvencyOp}
  {s s' : State D} {r r' : Register D} {action : Action D} {output : Output D}

omit [DecidableEq D] in
theorem SolvencyOp.action_fuzzed (asks : op.action host setup f = some action) :
    action.fuzzed = true := by
  cases op with
  | claimStream | cancelClaim =>
      obtain ⟨_, -, rfl⟩ := Option.map_eq_some_iff.mp asks
      rfl
  | _ =>
      obtain rfl := Option.some.inj asks
      rfl

/-! ### Claims under the target -/

/-- Under the target's calls no claim takes effect, and nothing is collected. -/
theorem RegisterStep.idle (step : RegisterStep host action output r r')
    (fuzzed : action.fuzzed = true) (idle : Store.All (fun _ claim => claim.Idle) r.claims) :
    Store.All (fun _ claim => claim.Idle) r'.claims ∧ action.collected = none := by
  cases step with
  | clock | staked | withdrawn => exact ⟨idle, rfl⟩
  | queued => exact ⟨idle.set ⟨by simp [freshClaim], rfl⟩, rfl⟩
  | admitted _ admission =>
      refine ⟨idle.set ⟨?_, rfl⟩, rfl⟩
      rcases admission with ⟨rfl, -⟩ | ⟨rfl, -⟩ <;> simp [freshClaim]
  | streamed _ listed active =>
      have status := (idle _ _ listed).status
      rw [active] at status
      exact absurd status (by decide)
  | droppedPending listed => exact ⟨idle.set ⟨by simp, (idle _ _ listed).unpaid⟩, rfl⟩
  | reversed listed active =>
      have status := (idle _ _ listed).status
      rw [active] at status
      exact absurd status (by decide)
  | funds fundsOnly => cases action, fundsOnly using Action.fundsCases <;> cases fuzzed
  | _ => cases fuzzed

/-- Of the calls of the target only a withdrawal can exceed the headroom. -/
theorem withinHeadroom_of_fuzzed (asks : op.action host setup f = some action)
    (idle : Store.All (fun _ claim => claim.Idle) f.pool.claims)
    (notExit : ∀ wallet, op ≠ .withdraw wallet) :
    (bookEvent host f.pool action).WithinHeadroom (f.pool.books host) := by
  cases op with
  | stake | submitClaim | advanceDays =>
      obtain rfl := Option.some.inj asks
      trivial
  | withdraw wallet => exact absurd rfl (notExit wallet)
  | claimStream =>
      obtain ⟨_, -, rfl⟩ := Option.map_eq_some_iff.mp asks
      simp only [bookEvent, streamEvent]
      split
      · split <;> trivial
      · trivial
  | cancelClaim =>
      obtain ⟨_, -, rfl⟩ := Option.map_eq_some_iff.mp asks
      simp only [bookEvent, claimEvent]
      split
      · intro claim listed active
        have status := (idle _ _ listed).status
        rw [active] at status
        exact absurd status (by decide)
      · trivial

/-! ### Operations -/

/-- An operation changes nothing, or it is a call of the pool that succeeded. -/
theorem fuzzStep_cases (host : Host D) (setup : FuzzSetup) (f : FuzzState D) (op : SolvencyOp) :
    (fuzzStep host setup f op = f ∧ ∀ action, op.action host setup f = some action →
        (poolStep host f.pool action).isOk = false) ∨
      ∃ action output, op.action host setup f = some action ∧
        poolStep host f.pool action = .ok (output, (fuzzStep host setup f op).pool) := by
  unfold fuzzStep
  split
  · rename_i nothing
    exact .inl ⟨rfl, fun action asks => absurd (nothing.symm.trans asks) (by simp)⟩
  · rename_i action asks
    split
    · rename_i output pool stepped
      exact .inr ⟨action, output, asks, stepped⟩
    · rename_i failure stepped
      refine .inl ⟨rfl, fun action' asks' => ?_⟩
      obtain rfl := Option.some.inj (asks.symm.trans asks')
      rw [stepped]
      rfl

/-- The pool under the target: reachable, with no claim in effect. -/
structure FuzzKept (host : Host D) (s : State D) : Prop where
  reachable : ∃ log, (poolSystem host).Run System.anyStep log s
  idle : Store.All (fun _ claim => claim.Idle) s.claims

theorem FuzzKept.step (kept : FuzzKept host f.pool) :
    FuzzKept host (fuzzStep host setup f op).pool := by
  rcases fuzzStep_cases host setup f op with ⟨same, -⟩ | ⟨action, output, asks, stepped⟩
  · rw [same]
    exact kept
  · obtain ⟨log, run⟩ := kept.reachable
    exact ⟨⟨_, run.step trivial stepped⟩,
      ((step_registers stepped).idle (SolvencyOp.action_fuzzed asks) kept.idle).1⟩

/-- An operation keeps a solvent pool solvent exactly when it is frugal. -/
theorem FuzzKept.solvent_iff (kept : FuzzKept host f.pool) (solvent : Solvent f.pool) :
    Solvent (fuzzStep host setup f op).pool ↔
      Frugal host setup ⟨f, op, (), fuzzStep host setup f op⟩ := by
  obtain ⟨log, run⟩ := kept.reachable
  rcases fuzzStep_cases host setup f op with ⟨same, failed⟩ | ⟨action, output, asks, stepped⟩
  · rw [same]
    refine iff_of_true solvent ?_
    rintro wallet rfl succeeds
    have refused := failed _ rfl
    obtain ⟨s', withdrawn⟩ := exists_eq_ok succeeds
    have accepted : poolStep host f.pool (.invoke setup.env (.withdraw
        (setup.wallets (walletIndex wallet)) (setup.beneficiaries (walletIndex wallet)))) =
          .ok (.unit, s') := returningUnit_eq_ok.mpr ⟨withdrawn, rfl⟩
    rw [accepted] at refused
    cases refused
  · have step := (step_refines stepped).solvent_iff (wellKept_of_run run) solvent
    by_cases exits : ∃ wallet, op = .withdraw wallet
    · obtain ⟨wallet, rfl⟩ := exits
      obtain rfl := Option.some.inj asks
      obtain ⟨withdrawn, -⟩ := returningUnit_eq_ok.mp stepped
      refine step.trans ⟨?_, ?_⟩
      · rintro within other same - record stored
        obtain rfl := SolvencyOp.withdraw.inj same
        exact within record stored
      · intro frugal record stored
        exact frugal wallet rfl (by rw [withdrawn]; rfl) record stored
    · refine iff_of_true (step.mpr ?_) ?_
      · exact withinHeadroom_of_fuzzed asks kept.idle fun wallet is => exits ⟨wallet, is⟩
      · exact fun wallet is => absurd ⟨wallet, is⟩ exits

/-- A payout is never tried with success. -/
theorem FuzzKept.nothing_collected (kept : FuzzKept host f.pool) {claimIdx : UInt8}
    (streams : op = .claimStream claimIdx) : fuzzStep host setup f op = f := by
  rcases fuzzStep_cases host setup f op with ⟨same, -⟩ | ⟨action, output, asks, stepped⟩
  · exact same
  · have collected := ((step_registers stepped).idle (SolvencyOp.action_fuzzed asks) kept.idle).2
    subst streams
    obtain ⟨_, -, rfl⟩ := Option.map_eq_some_iff.mp asks
    cases collected

/-! ### Runs of the target -/

/-- What the target can find: its assertion fails after some operation exactly when some
withdrawal was not frugal; its payouts never succeed, and no claim is ever in effect. -/
structure FuzzFindings (host : Host D) (setup : FuzzSetup)
    (log : List (Entry (FuzzState D) SolvencyOp Unit)) (f : FuzzState D) : Prop where
  finds : (∀ e ∈ log, Asserted e.post.pool) ↔ ∀ e ∈ log, Frugal host setup e
  unpaid : ∀ e ∈ log, ∀ claimIdx, e.action = .claimStream claimIdx → e.post = e.pre
  idle : Store.All (fun _ claim => claim.Idle) f.pool.claims

/-- What is asserted of a reachable pool is its solvency. -/
theorem asserted_iff {log : Log D} (run : (poolSystem host).Run System.anyStep log s) :
    Asserted s ↔ Solvent s := by
  have nonneg : 0 ≤ s.totalAllocated := (wellKept_of_run run).allocated_nonneg
  exact ⟨fun asserted => asserted.1, fun solvent => ⟨solvent, nonneg, nonneg.trans solvent⟩⟩

/-- In every run of the target, whatever the operations and their order, a failed assertion
is a withdrawal beyond the stake the allocations leave free, and the claims it submits are
never paid. -/
theorem fuzz_solvency_findings (host : Host D) (setup : FuzzSetup)
    {log : List (Entry (FuzzState D) SolvencyOp Unit)} {f : FuzzState D}
    (run : (fuzzSolvency host setup).Run System.anyStep log f) :
    FuzzFindings host setup log f := by
  have all : FuzzKept host f.pool ∧ FuzzFindings host setup log f ∧
      ((∀ e ∈ log, Asserted e.post.pool) → Solvent f.pool) := by
    refine run.invariant (P := fun log f => FuzzKept host f.pool ∧
      FuzzFindings host setup log f ∧ ((∀ e ∈ log, Asserted e.post.pool) → Solvent f.pool)) ?_ ?_
    · rintro f ⟨deployed, -⟩
      obtain ⟨-, noClaims, staked, allocated, -⟩ := deployed_books deployed
      have idle : Store.All (fun _ claim => claim.Idle) f.pool.claims := by
        simp only [noClaims, Store.all_empty]
      refine ⟨⟨⟨[], .start deployed⟩, idle⟩, ⟨?_, ?_, idle⟩, fun _ => ?_⟩
      · exact iff_of_true (List.forall_mem_nil _) (List.forall_mem_nil _)
      · exact List.forall_mem_nil _
      · rw [Solvent, staked, allocated]
    · rintro log f op _ f' _ ⟨kept, findings, solvent⟩ - stepped
      obtain ⟨-, rfl⟩ := Prod.mk.inj (Except.ok.inj stepped)
      have next : FuzzKept host (fuzzStep host setup f op).pool := kept.step
      obtain ⟨_, reached⟩ := next.reachable
      refine ⟨next, ⟨?_, ?_, next.idle⟩, ?_⟩
      · rw [List.forall_mem_cons, List.forall_mem_cons, ← findings.finds, asserted_iff reached]
        constructor
        · rintro ⟨now, before⟩
          exact ⟨(kept.solvent_iff (solvent before)).mp now, before⟩
        · rintro ⟨now, before⟩
          exact ⟨(kept.solvent_iff (solvent before)).mpr now, before⟩
      · intro e member claimIdx streams
        rcases List.mem_cons.mp member with rfl | older
        · exact kept.nothing_collected streams
        · exact findings.unpaid e older claimIdx streams
      · intro asserted
        exact (asserted _ List.mem_cons_self).1
  exact all.2.1

/-- The parties of a concrete target. -/
def sampleSetup : FuzzSetup where
  env := (.of [party 2, party 11, party 12, party 13, party 14] ⟨0, 0, 0, 0⟩)
  wallets i := party (11 + i)
  beneficiaries i := party (21 + i)
  oracle := party 2
  sign _ := 0

/-- Five operations whose last, a withdrawal, makes the assertion fail. -/
theorem fuzz_solvency_findings_sample :
    ∃ log f, (fuzzSolvency sampleHost sampleSetup).Run System.anyStep log f ∧
      (∃ e ∈ log, ¬ Asserted e.post.pool) ∧ FuzzFindings sampleHost sampleSetup log f := by
  obtain ⟨log, f, run, fails⟩ := System.exists_run_of_replay (fuzzSolvency sampleHost sampleSetup)
    System.anyStep (s := ⟨samplePool, []⟩) ⟨samplePool_deployed, rfl⟩
    [.stake 0 2000, .stake 1 100000, .advanceDays 89, .submitClaim 0 20000 0, .withdraw 1]
    (fun log _ => ∃ e ∈ log, ¬ Asserted e.post.pool) (by decide +kernel)
  exact ⟨log, f, run, fails, fuzz_solvency_findings sampleHost sampleSetup run⟩

end ProtectionPool
