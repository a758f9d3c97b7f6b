/-
Module: ProtectionPool.Proofs.PointsLedger
Purpose: Where a wallet's points come from.  What is banked for a wallet is what its
  withdrawals earned since its points were last burned, by an approved claim or by an
  override that forfeits a standing deposit; an emergency exit earns nothing.
Trusted boundary: none
Main exports: pointsEarned, Register.burnsPoints, pointsBanked, points_ledger
-/
import ProtectionPool.Proofs.Authority
import ProtectionPool.Proofs.Points

namespace ProtectionPool

open Checked

variable {D : Type}

/-- The points a step earns a wallet: those of the deposit it withdraws. -/
def pointsEarned (wallet : Address) (e : Entry (State D) (Action D) (Output D)) : Int :=
  match e.action with
  | .invoke _ (.withdraw staker _) =>
      if staker = wallet then
        match computePoints e.pre wallet with
        | .ok points => points
        | .error _ => 0
      else 0
  | _ => 0

variable [DecidableEq D]

/-- Whether an action burns the points of a wallet: its claim is approved, or an override
forfeits its standing deposit. -/
def Register.burnsPoints (host : Host D) (r : Register D) (wallet : Address) :
    Action D → Bool
  | .invoke _ (.approveClaim claimId) =>
      (r.claims.get claimId).any fun claim => decide (claim.wallet = wallet)
  | .invoke env (.approveOverride caller owner txHash entitlement tier) =>
      r.executes host wallet
          (.invoke env (.approveOverride caller owner txHash entitlement tier)) &&
        (r.stakes.get wallet).any fun record => !record.withdrawn
  | _ => false

/-- The points a run has banked for a wallet. -/
def pointsBanked (host : Host D) (wallet : Address) : Log D → Int
  | [] => 0
  | e :: past =>
      if e.pre.register.burnsPoints host wallet e.action then 0
      else pointsBanked host wallet past + pointsEarned wallet e

variable {host : Host D} {r r' : Register D} {action : Action D} {output : Output D}
  {s s' : State D} {wallet : Address} {log : Log D}

/-! ### One step -/

theorem balance_of_set_zero {balances : Store Address Int} {owner : Address} :
    ((balances.set owner 0).get wallet).getD 0 =
      if owner = wallet then 0 else (balances.get wallet).getD 0 := by
  split_ifs with own
  · rw [own, Store.get_set_self]
    rfl
  · rw [Store.get_set_ne _ _ (Ne.symm own)]

/-- A step that is not the wallet's withdrawal burns its points or leaves them. -/
theorem RegisterStep.balance_eq (step : RegisterStep host action output r r')
    (elsewhere : ∀ env beneficiary, action ≠ .invoke env (.withdraw wallet beneficiary)) :
    (r'.pointsBalances.get wallet).getD 0 =
      if r.burnsPoints host wallet action then 0 else (r.pointsBalances.get wallet).getD 0 := by
  cases step with
  | @withdrawn _ env staker beneficiary _ _ _ _ _ _ _ _ _ _ banked =>
      have other : wallet ≠ staker := fun own => elsewhere env beneficiary (own ▸ rfl)
      rcases banked with rfl | ⟨balance, rfl⟩
      · rfl
      · exact congrArg (fun points => Option.getD points 0) (Store.get_set_ne _ _ other)
  | approved _ listed =>
      simp only [balance_of_set_zero, Register.burnsPoints, listed, Option.any_some,
        decide_eq_true_eq]
  | overridePending approval unready =>
      simp [Register.burnsPoints, Register.executes, ← approval.requested, unready]
  | @overrideExecuted _ _ _ _ _ _ _ req record _ _ approval ready _ stored =>
      simp only [Register.burnsPoints, Register.executes, ← approval.requested, ready]
      by_cases own : req.wallet = wallet
      · subst own
        cases withdrawn : record.withdrawn <;> simp [stored, withdrawn]
      · cases record.withdrawn <;> simp [own, balance_of_set_zero]
  | funds fundsOnly => cases action, fundsOnly using Action.fundsCases <;> rfl
  | _ => rfl

/-- A withdrawal adds what its deposit earned. -/
theorem balance_of_withdraw {env : Env} {beneficiary : Address}
    (stepped : withdraw host env s wallet beneficiary = .ok s') (r : Output D) :
    getPointsBalance s' wallet = getPointsBalance s wallet +
      pointsEarned wallet ⟨s, .invoke env (.withdraw wallet beneficiary), r, s'⟩ := by
  obtain ⟨record, points, stored, -, computed, balance, -⟩ := withdraw_banks stepped
  have earned : computePoints s wallet = .ok points := by
    rw [computePoints, stored]
    exact computed
  rw [balance]
  simp only [pointsEarned, if_true, earned]

omit [DecidableEq D] in
/-- Nothing else earns points. -/
theorem pointsEarned_elsewhere
    (elsewhere : ∀ env beneficiary, action ≠ .invoke env (.withdraw wallet beneficiary)) :
    pointsEarned wallet ⟨s, action, output, s'⟩ = 0 := by
  cases action with
  | invoke env call =>
      cases call with
      | withdraw staker beneficiary =>
          have other : staker ≠ wallet := fun own => elsewhere env beneficiary (own ▸ rfl)
          simp only [pointsEarned, other, if_false]
      | _ => rfl
  | _ => rfl

/-- One step in the ledger of a wallet's points. -/
theorem balance_of_step (stepped : poolStep host s action = .ok (output, s')) :
    getPointsBalance s' wallet =
      if s.register.burnsPoints host wallet action then 0
      else getPointsBalance s wallet + pointsEarned wallet ⟨s, action, output, s'⟩ := by
  by_cases own : ∃ env beneficiary, action = .invoke env (.withdraw wallet beneficiary)
  · obtain ⟨env, beneficiary, rfl⟩ := own
    exact balance_of_withdraw (returningUnit_eq_ok.mp stepped).1 output
  · have elsewhere := fun env beneficiary same => own ⟨env, beneficiary, same⟩
    rw [pointsEarned_elsewhere elsewhere, add_zero]
    exact (step_registers stepped).balance_eq elsewhere

/-! ### The view -/

theorem pointsBalanceView_of_live {record : StakeRecord D}
    (stored : s.stakes.get wallet = some record) (live : record.isLive = true) :
    pointsBalanceView s wallet = computePointsForRecord s record := by
  simp only [pointsBalanceView, stored, live, if_true]

theorem pointsBalanceView_of_gone
    (gone : ∀ record ∈ s.stakes.get wallet, record.isLive = false) :
    pointsBalanceView s wallet = .ok (getPointsBalance s wallet) := by
  cases stored : s.stakes.get wallet with
  | none => simp only [pointsBalanceView, stored]
  | some record =>
      simp only [pointsBalanceView, stored, gone record stored]
      rfl

omit [DecidableEq D] in
/-- A deposit that is taken out is gone. -/
theorem gone_of_set {stakes : Store Address (StakeRecord D)} {record : StakeRecord D}
    (withdrawn : record.withdrawn = true) :
    ∀ other ∈ (stakes.set wallet record).get wallet, other.isLive = false := by
  intro other stored
  obtain rfl := Option.some.inj ((Store.get_set_self ..).symm.trans stored)
  simp [StakeRecord.isLive, withdrawn]

/-- A withdrawal takes out a deposit that was in the pool. -/
theorem withdraw_takes {env : Env} {beneficiary : Address}
    (stepped : withdraw host env s wallet beneficiary = .ok s') :
    (∀ record ∈ s.stakes.get wallet, record.isLive = true) ∧
      ∀ record ∈ s'.stakes.get wallet, record.isLive = false := by
  obtain ⟨record, points, balances, withdrawn⟩ := withdraw_eq_ok.mp stepped
  rw [withdrawn.state]
  refine ⟨fun other otherStored => ?_, gone_of_set rfl⟩
  obtain rfl := Option.mem_unique withdrawn.stored otherStored
  exact withdrawn.live

/-- What a withdrawal makes of the view: the points it showed are added to those banked. -/
theorem view_of_withdraw {env : Env} {beneficiary : Address}
    (stepped : withdraw host env s wallet beneficiary = .ok s') :
    ∃ points, pointsBalanceView s wallet = .ok points ∧
      pointsBalanceView s' wallet = .ok (getPointsBalance s wallet + points) := by
  obtain ⟨live, gone⟩ := withdraw_takes stepped
  obtain ⟨record, points, stored, -, computed, balance, -⟩ := withdraw_banks stepped
  refine ⟨points, (pointsBalanceView_of_live stored (live record stored)).trans computed, ?_⟩
  rw [pointsBalanceView_of_gone gone, balance]

/-- What an emergency exit makes of the view: it falls back to what is banked. -/
theorem view_of_emergencyExit {env : Env}
    (stepped : emergencyExit host env s wallet = .ok s') :
    pointsBalanceView s' wallet = .ok (getPointsBalance s wallet) := by
  obtain ⟨record, exited⟩ := emergencyExit_eq_ok.mp stepped
  rw [exited.state]
  exact pointsBalanceView_of_gone (gone_of_set rfl)

/-! ### Runs -/

/-- In every run what is banked for a wallet is what its withdrawals have earned since its
points were last burned.  The view shows that to a wallet without a deposit in the pool; a
withdrawal adds to it the points the view showed, and an emergency exit loses them. -/
theorem points_ledger (host : Host D) {log : Log D} {s : State D}
    (run : (poolSystem host).Run System.anyStep log s) (wallet : Address) :
    getPointsBalance s wallet = pointsBanked host wallet log ∧
      ((∀ record ∈ s.stakes.get wallet, record.isLive = false) →
        pointsBalanceView s wallet = .ok (pointsBanked host wallet log)) ∧
      (∀ env beneficiary s', withdraw host env s wallet beneficiary = .ok s' →
        ∃ points, pointsBalanceView s wallet = .ok points ∧
          pointsBalanceView s' wallet = .ok (pointsBanked host wallet log + points)) ∧
      ∀ env s', emergencyExit host env s wallet = .ok s' →
        pointsBalanceView s' wallet = .ok (pointsBanked host wallet log) := by
  have banked : getPointsBalance s wallet = pointsBanked host wallet log := by
    apply run.invariant (P := fun log s =>
      getPointsBalance s wallet = pointsBanked host wallet log)
    · intro s deployed
      exact balance_of_deployed deployed wallet
    · intro log s action output s' _ banked _ stepped
      rw [balance_of_step stepped, banked]
      rfl
  rw [← banked]
  refine ⟨rfl, pointsBalanceView_of_gone, ?_, ?_⟩
  · intro env beneficiary s' stepped
    exact view_of_withdraw stepped
  · intro env s' stepped
    exact view_of_emergencyExit stepped

/-- A wallet banks 73 points twice, and an override against a third deposit burns them. -/
theorem points_ledger_sample :
    ∃ log s past s₁, (poolSystem sampleHost).Run System.anyStep log s ∧
      (poolSystem sampleHost).Run System.anyStep past s₁ ∧
      getPointsBalance s (party 11) = 146 ∧ getPointsBalance s₁ (party 11) = 0 ∧
      getPointsBalance s (party 11) = pointsBanked sampleHost (party 11) log ∧
      getPointsBalance s₁ (party 11) = pointsBanked sampleHost (party 11) past := by
  obtain ⟨log, s, run, banked⟩ := System.exists_run_of_replay (poolSystem sampleHost)
    System.anyStep samplePool_deployed
    [callBy 11 (.stake (party 11) 2000 (party 21)), afterDays 46,
      callBy 11 (.withdraw (party 11) (party 21)),
      callBy 11 (.stake (party 11) 2000 (party 21)), afterDays 92,
      callBy 11 (.withdraw (party 11) (party 21))]
    (fun _ s => getPointsBalance s (party 11) = 146) (by decide +kernel)
  obtain ⟨past, s₁, run₁, burned⟩ := System.exists_run_of_replay (poolSystem sampleHost)
    System.anyStep samplePool_deployed
    ([callBy 11 (.stake (party 11) 2000 (party 21)), afterDays 46,
      callBy 11 (.withdraw (party 11) (party 21)), callBy 12 (.stake (party 12) 100000 (party 22)),
      callBy 11 (.stake (party 11) 2000 (party 21))] ++ overrideBoth 11 0 10000 1)
    (fun _ s => getPointsBalance s (party 11) = 0) (by decide +kernel)
  exact ⟨log, s, past, s₁, run, run₁, banked, burned, (points_ledger sampleHost run _).1,
    (points_ledger sampleHost run₁ _).1⟩

end ProtectionPool
