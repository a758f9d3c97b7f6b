/-
Module: ProtectionPool.Proofs.ExitPaths
Purpose: The two ways out for a deposit.  Where `withdraw` succeeds `emergency_exit`
  does too and leaves the same state apart from the recipient, except that it drops
  the points of the ending cycle instead of banking them.  The two agree exactly when
  the deposit has earned nothing yet.
Trusted boundary: none
Main exports: ExitsAgree, EarnedNothing, exit_paths_agree
-/
import ProtectionPool.Books.StakeCalls

namespace ProtectionPool

open Checked

variable {D : Type}

/-- Two exits leave the same state, with the same amount paid to the one's recipient
and to the other's. -/
def ExitsAgree (host : Host D) (s withdrawn exited : State D) (beneficiary staker : Address) :
    Prop :=
  ∃ amount, withdrawn.xlm = moved s.xlm host.contract beneficiary amount ∧
    exited = { withdrawn with xlm := moved s.xlm host.contract staker amount }

/-- A deposit has earned no whole point yet: its amount weighted by its tenure falls
short of the largest deposit admitted, or none is. -/
def EarnedNothing (s : State D) (record : StakeRecord D) : Prop :=
  let most := (s.poolCap * maxStakeBps).tdiv stakeBpsDenominator
  let days : Int := ((s.sequence - record.stakedAtLedger) / ledgersPerDay : Nat)
  most ≤ 0 ∨ pointsBase days * record.amount < most

instance (s : State D) (record : StakeRecord D) : Decidable (EarnedNothing s record) :=
  inferInstanceAs (Decidable (_ ∨ _))

variable {host : Host D} {env : Env} {s s' : State D} {staker beneficiary : Address}
  {record : StakeRecord D} {points : Int}

/-- The points of a deposit still in the pool are positive exactly when it has earned
one. -/
theorem computePoints_pos_iff (stored : s.stakes.get staker = some record)
    (funded : 0 < record.amount) (standing : record.withdrawn = false)
    (computed : computePoints s staker = .ok points) : 0 < points ↔ ¬ EarnedNothing s record := by
  simp only [computePoints, stored, computePointsForRecord, not_le.mpr funded, standing,
    Bool.false_eq_true, or_self, if_false, bind_eq_ok, maxStake, i128_eq_ok,
    Except.ok.injEq] at computed
  obtain ⟨most, ⟨-, ⟨-, rfl⟩, rfl⟩, computed⟩ := computed
  simp only [EarnedNothing, not_or, not_le, not_lt]
  rcases ite_eq_ok.mp computed with ⟨none, zero⟩ | ⟨some, rest⟩
  · obtain rfl := Except.ok.inj zero
    exact iff_of_false (lt_irrefl 0) fun earned => absurd none (not_le.mpr earned.1)
  · have positive := not_le.mp some
    simp only [bind_eq_ok, i128_eq_ok, Except.ok.injEq] at rest
    obtain ⟨product, ⟨-, rfl⟩, rfl⟩ := rest
    rw [tdiv_pos_iff positive]
    exact (and_iff_right positive).symm

variable [DecidableEq D]

/-- Points that were banked change the balance. -/
theorem bankPoints_eq_iff {balances : Store Address Int}
    (banked : bankPoints s staker points = .ok balances) :
    s.pointsBalances = balances ↔ ¬ 0 < points := by
  rcases ite_eq_ok.mp banked with ⟨positive, banked⟩ | ⟨none, banked⟩
  · simp only [bind_eq_ok, i128_eq_ok, Except.ok.injEq] at banked
    obtain ⟨balance, ⟨-, rfl⟩, rfl⟩ := banked
    refine iff_of_false ?_ (not_not.mpr positive)
    intro same
    have added : getPointsBalance s staker = getPointsBalance s staker + points :=
      calc getPointsBalance s staker = (s.pointsBalances.get staker).getD 0 := rfl
        _ = getPointsBalance s staker + points := by rw [same, Store.get_set_self]; rfl
    omega
  · exact iff_of_true (Except.ok.inj banked) none

/-- Wherever `withdraw` succeeds, `emergency_exit` succeeds too and pays the same
amount.  The two agree in everything but the recipient exactly when the deposit has
earned nothing yet; what differs otherwise is the balance of points. -/
theorem exit_paths_agree (host : Host D) {env : Env} {s s' : State D}
    {staker beneficiary : Address} (withdrawn : withdraw host env s staker beneficiary = .ok s') :
    ∃ record exited, s.stakes.get staker = some record ∧
      emergencyExit host env s staker = .ok exited ∧
      ExitsAgree host s { s' with pointsBalances := s.pointsBalances } exited beneficiary
        staker ∧
      (ExitsAgree host s s' exited beneficiary staker ↔ EarnedNothing s record) := by
  obtain ⟨record, points, balances, taken⟩ := withdraw_eq_ok.mp withdrawn
  obtain rfl := taken.state
  have computed : computePoints s staker = .ok points := by
    rw [computePoints, taken.stored]
    exact taken.computed
  have earned := computePoints_pos_iff taken.stored taken.funded taken.standing computed
  have same := bankPoints_eq_iff taken.banked
  refine ⟨record, _, taken.stored, ?_, ⟨record.amount, rfl, rfl⟩, ?_, ?_⟩
  · apply emergencyExit_eq_ok.mpr
    exact ⟨record, { taken with state := rfl }⟩
  · rintro ⟨amount, -, agree⟩
    have balances_same : s.pointsBalances = balances := congrArg State.pointsBalances agree
    exact not_not.mp (earned.not.mp (same.mp balances_same))
  · intro nothing
    have balances_same : s.pointsBalances = balances :=
      same.mpr (earned.not.mpr (not_not.mpr nothing))
    subst balances_same
    exact ⟨record.amount, rfl, rfl⟩

/-- A deposit withdrawn on the day it was made has earned nothing. -/
theorem exit_paths_agree_sample :
    ∃ log s withdrawn exited, (poolSystem sampleHost).Run System.anyStep log s ∧
      withdraw sampleHost (.of [party 11] ⟨0, 0, 0, 0⟩) s (party 11) (party 21) = .ok withdrawn ∧
      emergencyExit sampleHost (.of [party 11] ⟨0, 0, 0, 0⟩) s (party 11) = .ok exited ∧
      ExitsAgree sampleHost s withdrawn exited (party 21) (party 11) := by
  obtain ⟨log, s, run, record, ends, nothing, succeeds⟩ :=
    System.exists_run_of_replay (poolSystem sampleHost) System.anyStep samplePool_deployed
      [callBy 11 (.stake (party 11) 2000 (party 21))]
      (fun _ s => ∃ record ∈ s.stakes.get (party 11), EarnedNothing s record ∧
        (withdraw sampleHost (.of [party 11] ⟨0, 0, 0, 0⟩) s (party 11) (party 21)).isOk = true)
      (by decide +kernel)
  obtain ⟨withdrawn, ok⟩ := exists_eq_ok succeeds
  obtain ⟨_, exited, stored, exits, -, agree⟩ := exit_paths_agree sampleHost ok
  obtain rfl := Option.mem_unique stored ends
  exact ⟨log, s, withdrawn, exited, run, ok, exits, agree.mpr nothing⟩

/-- A deposit of 2000 that stayed 30 days has earned 48 points: `withdraw` banks them
and `emergency_exit` does not. -/
theorem emergency_exit_drops_points :
    ∃ log s withdrawn exited, (poolSystem sampleHost).Run System.anyStep log s ∧
      withdraw sampleHost (.of [party 11] ⟨0, 0, 0, 0⟩) s (party 11) (party 21) = .ok withdrawn ∧
      emergencyExit sampleHost (.of [party 11] ⟨0, 0, 0, 0⟩) s (party 11) = .ok exited ∧
      getPointsBalance withdrawn (party 11) = 48 ∧ getPointsBalance exited (party 11) = 0 := by
  obtain ⟨log, s, run, ⟨withdrawn, ok, banked⟩, exited, exits, dropped⟩ :=
    System.exists_run_of_replay (poolSystem sampleHost) System.anyStep samplePool_deployed
      [callBy 11 (.stake (party 11) 2000 (party 21)), afterDays 30]
      (fun _ s =>
        (∃ withdrawn, withdraw sampleHost (.of [party 11] ⟨0, 0, 0, 0⟩) s (party 11) (party 21) =
          .ok withdrawn ∧ getPointsBalance withdrawn (party 11) = 48) ∧
        ∃ exited, emergencyExit sampleHost (.of [party 11] ⟨0, 0, 0, 0⟩) s (party 11) = .ok exited ∧
          getPointsBalance exited (party 11) = 0)
      (by decide +kernel)
  exact ⟨log, s, withdrawn, exited, run, ok, exits, banked, dropped⟩

end ProtectionPool
