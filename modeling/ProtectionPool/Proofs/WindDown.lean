/-
Module: ProtectionPool.Proofs.WindDown
Purpose: Nobody is trapped by the vault.  A pool whose principal was kept backed can redeem
  its whole position, and when the vault pays the principal and what earlier redemptions
  lost, every staker without a claim then leaves with its deposit.
Trusted boundary: none
Main exports: depositsOf_le_total, WholePosition, provideLiquidity_whole, pool_winds_down
-/
import ProtectionPool.Proofs.Backing
import ProtectionPool.Proofs.BankRun
import ProtectionPool.Proofs.StakeLedger

namespace ProtectionPool

open Checked Proportion

variable {D : Type}

variable {host : Host D} {env : Env} {s : State D} {stakers : List Address} {vault : Address}
  {log : Log D}

/-! ### The deposits together -/

theorem StakeRecord.liveAmount_nonneg (record : StakeRecord D) : 0 ≤ record.liveAmount := by
  unfold StakeRecord.liveAmount
  split_ifs with live
  · simp only [StakeRecord.isLive, Bool.and_eq_true, decide_eq_true_eq] at live
    exact live.1.le
  · exact le_refl 0

/-- Stakers that are free to exit have no more together than all deposits in the pool. -/
theorem depositsOf_le_total (distinct : stakers.Nodup)
    (free : ∀ staker ∈ stakers, FreeToExit host s staker) :
    depositsOf s stakers ≤ Store.total StakeRecord.liveAmount s.stakes := by
  have shares : stakers.map (depositOf s) =
      stakers.map fun staker => Store.share StakeRecord.liveAmount (s.stakes.get staker) := by
    apply List.map_congr_left
    intro staker member
    obtain ⟨-, record, stored, live, -⟩ := free staker member
    rw [depositOf_of_get stored, stored, Store.share_some, StakeRecord.liveAmount, if_pos live]
  rw [depositsOf, shares]
  exact Store.sum_share_le_total (fun _ record _ => record.liveAmount_nonneg) distinct

/-! ### The whole position -/

/-- A position that can be redeemed as a whole, for a payment of the principal at least. -/
structure WholePosition (host : Host D) (s : State D) (vault : Address) (paid : Int) :
    Prop where
  configured : s.vault = some vault
  external : vault ≠ host.contract
  held : 0 < s.totalDeployedShares
  principal : 0 ≤ s.totalDeployedXlm
  pays : s.totalDeployedXlm ≤ paid
  fits : InI128 paid ∧ InI128 (s.totalDeployedXlm * s.totalDeployedShares)

instance (host : Host D) (s : State D) (vault : Address) (paid : Int) :
    Decidable (WholePosition host s vault paid) :=
  decidable_of_iff (s.vault = some vault ∧ vault ≠ host.contract ∧ 0 < s.totalDeployedShares ∧
      0 ≤ s.totalDeployedXlm ∧ s.totalDeployedXlm ≤ paid ∧ InI128 paid ∧
      InI128 (s.totalDeployedXlm * s.totalDeployedShares))
    ⟨fun ⟨configured, external, held, principal, pays, fits⟩ =>
        ⟨configured, external, held, principal, pays, fits⟩,
      fun ⟨configured, external, held, principal, pays, fits⟩ =>
        ⟨configured, external, held, principal, pays, fits⟩⟩

/-- The principal of all shares is all of the principal. -/
theorem WholePosition.principalOf {paid : Int} (whole : WholePosition host s vault paid) :
    principalOf s s.totalDeployedShares = s.totalDeployedXlm :=
  Int.mul_tdiv_cancel _ whole.held.ne'

/-- All shares are redeemed in one call of the admin. -/
theorem provideLiquidity_whole (whole : WholePosition host s vault env.vault.paid)
    (signed : s.admin ∈ env.signers ∧ s.admin ≠ host.contract) :
    ∃ received, provideLiquidity host env s s.totalDeployedShares 0 =
      .ok (received,
        s.afterRedemption host vault env.vault s.totalDeployedShares) := by
  have nonneg : 0 ≤ env.vault.paid := whole.principal.trans whole.pays
  have all := whole.principalOf
  obtain ⟨redemption, redeemed⟩ :
      ∃ redemption, redeem host env s vault s.totalDeployedShares 0 = .ok redemption := by
    apply redeem_of_checks ⟨whole.held, le_refl _⟩ whole.external nonneg nonneg whole.fits.1
      whole.fits.2
    · rw [sub_self]
      decide
    · rw [all, sub_self]
      decide
    · rw [all, max_eq_right (sub_nonpos.mpr whole.pays)]
      decide
  obtain ⟨-, -, -, -, state⟩ := redeem_ok redeemed
  refine ⟨redemption.received, ?_⟩
  simp only [provideLiquidity, bind_eq_ok, requireAuth_eq_ok, okOr_eq_ok]
  exact ⟨(), signed, vault, whole.configured, redemption, redeemed, by rw [state]⟩

/-- After it the deposits of all stakers are covered whose sum the funds cover. -/
theorem WholePosition.leaving (whole : WholePosition host s vault env.vault.paid)
    (distinct : stakers.Nodup) (free : ∀ staker ∈ stakers, FreeToExit host s staker)
    (covered : depositsOf s stakers ≤ liquidBalance host s + env.vault.paid)
    (fits : InI128 s.totalStaked ∧ i128Min ≤ s.totalStaked - depositsOf s stakers) :
    Leaving host (s.afterRedemption host vault env.vault s.totalDeployedShares) stakers := by
  have staked : (s.afterRedemption host vault env.vault s.totalDeployedShares).totalStaked =
      s.totalStaked := by
    simp only [State.afterRedemption, markedStake, whole.principalOf, if_neg whole.pays.not_gt]
  have same : depositsOf (s.afterRedemption host vault env.vault s.totalDeployedShares) stakers =
      depositsOf s stakers := depositsOf_congr fun _ _ => rfl
  refine ⟨distinct, ?_, ?_, ?_⟩
  · exact fun staker member => ⟨(free staker member).account, (free staker member).deposit⟩
  · rw [same, liquidBalance_afterRedemption]
    exact covered
  · rw [same, staked]
    exact fits

/-! ### Winding down -/

variable [DecidableEq D]

/-- A run whose steps stay within the slack keeps the principal backed. -/
theorem backed_of_run (run : (poolSystem host).Run (withinSlack host) log s) :
    s.totalStaked ≤ liquidBalance host s + s.totalDeployedXlm := by
  apply run.invariant (P := fun _ s => Backed host s)
  · intro s deployed
    obtain ⟨-, -, staked, -, -, -, funds⟩ := deployed_books deployed
    rw [Backed, staked]
    exact funds
  · intro log s action output s' run backed within stepped
    exact ((step_refines stepped).backed_iff (wellKept_of_run run) backed).mpr within

/-- The steps that keep the principal backed and the stake ledger exact. -/
def keepsBacking (host : Host D) : System.Guard (State D) (Action D) (Output D) :=
  fun log s action => withinSlack host log s action ∧ forfeitsAndRestores host log s action

instance (host : Host D) (log : Log D) (s : State D) (action : Action D) :
    Decidable (keepsBacking host log s action) :=
  inferInstanceAs (Decidable (_ ∧ _))

/-- In every run that keeps the principal backed and the stake ledger exact, nobody is
trapped by the vault: if it pays the principal and what earlier redemptions lost, the admin
redeems the whole position in one call, and every staker without a claim then leaves with
its deposit in full, in whatever order, if the token accepts the payments. -/
theorem pool_winds_down (host : Host D) {log : Log D} {s : State D}
    (run : (poolSystem host).Run (keepsBacking host) log s) {env : Env} {vault : Address}
    (whole : WholePosition host s vault env.vault.paid)
    (repaid : s.totalDeployedXlm + markedDown host log ≤ env.vault.paid)
    (signed : s.admin ∈ env.signers ∧ s.admin ≠ host.contract) (fits : InI128 s.totalStaked)
    {stakers : List Address} (distinct : stakers.Nodup)
    (free : ∀ staker ∈ stakers, FreeToExit host s staker) {exits : Address → Env}
    (authorized : ∀ staker, staker ∈ (exits staker).signers)
    (accepted : ∀ staker, (exits staker).tokenAccepts = true) :
    ∃ received s₁ s', (poolSystem host).step s
        (.invoke env (.provideLiquidity s.totalDeployedShares 0)) = .ok (.amount received, s₁) ∧
      (s₁.totalDeployedShares = 0 ∧ s₁.totalDeployedXlm = 0) ∧
      (∀ order : List Address, order.Perm stakers →
        (poolSystem host).after s₁ (order.map (exitOf exits)) = .ok s') ∧
      ∀ staker ∈ stakers, s'.xlm staker = s.xlm staker + depositOf s staker ∧
        depositOf s' staker = 0 := by
  have backed := backed_of_run (run.mono fun _ _ _ met => met.1)
  have ledger := (stakeLedger_of_run (run.mono fun _ _ _ met => met.2)).staked
  have deposits := depositsOf_le_total distinct free
  have paid := whole.fits.1.2
  have principal := whole.principal
  have leaving : Leaving host
      (s.afterRedemption host vault env.vault s.totalDeployedShares) stakers := by
    apply whole.leaving distinct free
    · omega
    · refine ⟨fits, ?_⟩
      unfold i128Min i128Max at *
      omega
  obtain ⟨received, redeemed⟩ := provideLiquidity_whole whole signed
  refine ⟨received, _, _, returning_eq_ok.mpr ⟨received, redeemed, rfl⟩, ⟨?_, ?_⟩,
    fun _ perm => leaving.after_order authorized accepted perm, ?_⟩
  · exact sub_self _
  · exact sub_eq_zero.mpr whole.principalOf.symm
  · intro staker member
    obtain ⟨balance, gone⟩ := leaving.paidOut.leavers staker member
    refine ⟨balance.trans (congrArg (· + _) ?_), gone⟩
    exact Function.update_of_ne (free staker member).account _ _

/-- The admin of the concrete deployment, with a vault that pays 42000 for 30000 shares. -/
def windDownEnv : Env := .of [party 1] ⟨0, 0, 42000, 30000⟩

/-- 40000 of 150000 are deployed, and both stakers leave after the redemption. -/
theorem pool_winds_down_sample :
    ∃ log s, (poolSystem sampleHost).Run (keepsBacking sampleHost) log s ∧
      liquidBalance sampleHost s < depositsOf s [party 12, party 13] ∧
      ∃ received s₁ s', (poolSystem sampleHost).step s
          (.invoke windDownEnv (.provideLiquidity s.totalDeployedShares 0)) =
            .ok (.amount received, s₁) ∧
        (s₁.totalDeployedShares = 0 ∧ s₁.totalDeployedXlm = 0) ∧
        (∀ order : List Address, order.Perm [party 12, party 13] →
          (poolSystem sampleHost).after s₁
            (order.map (exitOf fun staker => .of [staker] ⟨0, 0, 0, 0⟩)) = .ok s') ∧
        ∀ staker ∈ [party 12, party 13],
          s'.xlm staker = s.xlm staker + depositOf s staker ∧ depositOf s' staker = 0 := by
  obtain ⟨log, s, run, short, whole, repaid, admin, fits, distinct, free⟩ :=
    System.exists_run_of_replay (poolSystem sampleHost) (keepsBacking sampleHost)
      samplePool_deployed
      (sampleVault ++ [callBy 13 (.stake (party 13) 50000 (party 23)),
        .invoke (.of [party 1] ⟨40000, 30000, 0, 0⟩) (.deployToVault 40000 1)])
      (fun log s => liquidBalance sampleHost s < depositsOf s [party 12, party 13] ∧
        WholePosition sampleHost s (.contract 2) windDownEnv.vault.paid ∧
        s.totalDeployedXlm + markedDown sampleHost log ≤ windDownEnv.vault.paid ∧
        s.admin = party 1 ∧ InI128 s.totalStaked ∧ [party 12, party 13].Nodup ∧
        ∀ staker ∈ [party 12, party 13], FreeToExit sampleHost s staker) (by decide +kernel)
  refine ⟨log, s, run, short,
    pool_winds_down sampleHost run whole repaid ?_ fits distinct free ?_ ?_⟩
  · rw [admin]
    decide
  · exact fun staker => List.mem_cons_self
  · exact fun _ => rfl

end ProtectionPool
