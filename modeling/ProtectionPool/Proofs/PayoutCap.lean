/-
Module: ProtectionPool.Proofs.PayoutCap
Purpose: The daily caps as functions of the deposits and the allocations.  Both are
  shares at a rate that falls with the utilisation, so more deposits or fewer
  allocations never lower them; hence nothing other stakers do to their deposits
  lowers the cap of a claim in effect below what it was at the claim's snapshot.
Trusted boundary: none
Main exports: payoutCap, admissionCap, dynamicOutflowBps_eq, stressCap_eq,
  othersMoveStake, payouts_not_squeezed
-/
import ProtectionPool.Books.Registration
import ProtectionPool.Library.Utilization
import ProtectionPool.Proofs.WellKept

namespace ProtectionPool

open Checked Utilization

variable {D : Type}

/-! ### The caps as functions -/

/-- The rate of `dynamic_outflow_bps` for a base that is not zero. -/
def outflowRate (utilizationBps : Int) : Int :=
  if utilizationBps < 2000 then 500 else if utilizationBps < 5000 then 300 else 100

/-- The rate of `stress_cap`. -/
def stressRate (utilizationBps : Int) : Int :=
  if utilizationBps < 2000 then 2500 else if utilizationBps < 5000 then 1000 else 300

/-- The payout cap a base gives when so much is allocated, as exact integers. -/
def payoutCap (base allocated : Int) : Int :=
  share outflowRate bpsDenominator bpsDenominator allocated base

/-- The admission cap of so many deposits when so much is allocated, as exact
integers. -/
def admissionCap (staked allocated : Int) : Int :=
  share stressRate bpsDenominator bpsDenominator allocated staked

theorem outflowRate_falls : Rate outflowRate where
  nonneg := by
    intro used
    unfold outflowRate
    split_ifs <;> decide
  antitone := by
    intro used used' le
    unfold outflowRate
    split_ifs <;> omega
  idle := by
    intro used idle
    rw [outflowRate, if_pos (by omega)]
    rfl

theorem stressRate_falls : Rate stressRate where
  nonneg := by
    intro used
    unfold stressRate
    split_ifs <;> decide
  antitone := by
    intro used used' le
    unfold stressRate
    split_ifs <;> omega
  idle := by
    intro used idle
    rw [stressRate, if_pos (by omega)]
    rfl

variable {host : Host D} {s s' : State D} {claim : Claim} {claimId : D}

/-- What `dynamic_outflow_bps` makes of a base is its payout cap. -/
theorem dynamicOutflowBps_eq {base bps : Int} (computed : dynamicOutflowBps s base = .ok bps) :
    (base * bps).tdiv bpsDenominator = payoutCap base s.totalAllocated := by
  unfold dynamicOutflowBps at computed
  by_cases none : base = 0
  · rw [none, payoutCap, share_zero, zero_mul, Int.zero_tdiv]
  · simp only [none, if_false, bind_eq_ok, i128_eq_ok, Except.ok.injEq] at computed
    obtain ⟨_, ⟨-, rfl⟩, rfl⟩ := computed
    rfl

/-- What `stress_cap` computes is the admission cap of the deposits. -/
theorem stressCap_eq {cap : Int} (computed : stressCap s = .ok cap) :
    cap = admissionCap s.totalStaked s.totalAllocated := by
  unfold stressCap at computed
  by_cases none : s.totalStaked = 0
  · simp only [none, if_true, Except.ok.injEq] at computed
    rw [none, admissionCap, share_zero, computed]
  · simp only [none, if_false, bind_eq_ok, i128_eq_ok, Except.ok.injEq] at computed
    obtain ⟨_, ⟨-, rfl⟩, _, ⟨-, rfl⟩, rfl⟩ := computed
    rfl

/-- The cap a payout is held to is that of the larger of the deposits now and at the
claim's snapshot. -/
theorem outflowCap_eq {cap : Int} (computed : outflowCap s claim = .ok cap) :
    cap = payoutCap (max s.totalStaked claim.totalStakedSnapshot) s.totalAllocated := by
  simp only [outflowCap, bind_eq_ok, i128_eq_ok, Except.ok.injEq] at computed
  obtain ⟨bps, rate, _, ⟨-, rfl⟩, rfl⟩ := computed
  exact dynamicOutflowBps_eq rate

/-- A larger base of which less is allocated has no lower payout cap. -/
theorem payoutCap_le {base base' allocated allocated' : Int} (nonneg : 0 ≤ allocated')
    (less : allocated' ≤ allocated) (larger : base ≤ base') :
    payoutCap base allocated ≤ payoutCap base' allocated' :=
  share_le_share outflowRate_falls (by decide) (by decide) nonneg less larger

/-- More deposits of which less is allocated have no lower admission cap. -/
theorem admissionCap_le {staked staked' allocated allocated' : Int} (nonneg : 0 ≤ allocated')
    (less : allocated' ≤ allocated) (larger : staked ≤ staked') :
    admissionCap staked allocated ≤ admissionCap staked' allocated' :=
  share_le_share stressRate_falls (by decide) (by decide) nonneg less larger

/-! ### What other stakers do -/

/-- The wallet whose deposit a call makes or takes out. -/
def Action.movesStake : Action D → Option Address
  | .invoke _ (.stake staker _ _) => some staker
  | .invoke _ (.withdraw staker _) => some staker
  | .invoke _ (.emergencyExit staker) => some staker
  | _ => none

/-- The calls by which wallets other than one deposit, withdraw and exit, while
ledgers close. -/
def othersMoveStake (wallet : Address) : System.Guard (State D) (Action D) (Output D) :=
  fun _ _ action =>
    match action with
    | .closeLedger _ _ => True
    | _ => ∃ other ∈ action.movesStake, other ≠ wallet

/-- The claims, with what is allocated to them together. -/
def State.reservations (s : State D) : Store D Claim × Int := (s.claims, s.totalAllocated)

variable [DecidableEq D]

/-- Deposits and exits leave the reservations alone. -/
theorem movesStake_reservations {action : Action D} {output : Output D} {wallet : Address}
    (moves : action.movesStake = some wallet)
    (stepped : poolStep host s action = .ok (output, s')) : s'.reservations = s.reservations := by
  cases action with
  | invoke env call =>
      cases call with
      | stake staker amount beneficiary =>
          rw [(stake_eq_ok.mp (returningUnit_eq_ok.mp stepped).1).state]
          rfl
      | withdraw staker beneficiary =>
          obtain ⟨_, _, _, withdrawn⟩ := withdraw_eq_ok.mp (returningUnit_eq_ok.mp stepped).1
          rw [withdrawn.state]
          rfl
      | emergencyExit staker =>
          obtain ⟨_, exited⟩ := emergencyExit_eq_ok.mp (returningUnit_eq_ok.mp stepped).1
          rw [exited.state]
          rfl
      | _ => cases moves
  | _ => cases moves

/-- The close of a ledger leaves the reservations alone. -/
theorem closeLedger_reservations {sequence timestamp : Nat} {output : Output D}
    (stepped : poolStep host s (.closeLedger sequence timestamp) = .ok (output, s')) :
    s'.reservations = s.reservations := by
  obtain ⟨-, -, rfl⟩ := closeLedger_eq_ok.mp (returningUnit_eq_ok.mp stepped).1
  rfl

/-- Whatever other wallets do to their deposits leaves the reservations alone. -/
theorem reservations_of_othersMove {wallet : Address} {log : Log D}
    (run : ((poolSystem host).startingAt s).Run (othersMoveStake wallet) log s') :
    s'.reservations = s.reservations := by
  refine run.invariant (P := fun _ s' => s'.reservations = s.reservations) ?_ ?_
  · rintro _ rfl
    rfl
  · intro _ last action _ next _ same met stepped
    refine Eq.trans ?_ same
    have stepped : poolStep host last action = .ok (_, next) := stepped
    cases action with
    | closeLedger sequence timestamp => exact closeLedger_reservations stepped
    | _ =>
        obtain ⟨other, moves, -⟩ := met
        exact movesStake_reservations moves stepped

/-- Neither cap is lowered by more deposits or by fewer allocations.  Hence the cap
that a payout of a claim in effect is held to is, in every state that deposits,
withdrawals and exits of other wallets lead to from a reachable one, at least the cap
of the claim's snapshot. -/
theorem payouts_not_squeezed (host : Host D) :
    (∀ {base base' allocated allocated'}, 0 ≤ allocated' → allocated' ≤ allocated →
      base ≤ base' → payoutCap base allocated ≤ payoutCap base' allocated') ∧
    (∀ {s : State D} {base bps}, dynamicOutflowBps s base = .ok bps →
      (base * bps).tdiv bpsDenominator = payoutCap base s.totalAllocated) ∧
    (∀ {s s' : State D} {cap cap'}, stressCap s = .ok cap → stressCap s' = .ok cap' →
      0 ≤ s'.totalAllocated → s'.totalAllocated ≤ s.totalAllocated →
        s.totalStaked ≤ s'.totalStaked → cap ≤ cap') ∧
    ∀ {past log : Log D} {s s' : State D} {claimId claim},
      (poolSystem host).Run System.anyStep past s →
      s.claims.get claimId = some claim → claim.status = .active →
      ((poolSystem host).startingAt s).Run (othersMoveStake claim.wallet) log s' →
        s'.claims.get claimId = some claim ∧ s'.totalAllocated = s.totalAllocated ∧
          ∀ cap, outflowCap s' claim = .ok cap →
            payoutCap claim.totalStakedSnapshot s.totalAllocated ≤ cap := by
  refine ⟨payoutCap_le, dynamicOutflowBps_eq, ?_, ?_⟩
  · intro s s' cap cap' computed computed' nonneg less larger
    rw [stressCap_eq computed, stressCap_eq computed']
    exact admissionCap_le nonneg less larger
  · intro past log s s' claimId claim run listed _ later
    obtain ⟨claims, allocated⟩ := Prod.mk.inj (reservations_of_othersMove later)
    refine ⟨claims ▸ listed, allocated, ?_⟩
    intro cap computed
    have nonneg : 0 ≤ s.totalAllocated := (wellKept_of_run run).allocated_nonneg
    rw [outflowCap_eq computed, allocated]
    exact payoutCap_le nonneg le_rfl (le_max_right _ _)

instance (wallet : Address) (log : Log D) (s : State D) (action : Action D) :
    Decidable (othersMoveStake wallet log s action) := by
  induction action using Action.casesOn with
  | closeLedger => exact inferInstanceAs (Decidable True)
  | _ => exact inferInstanceAs (Decidable (∃ other ∈ Action.movesStake _, _))

/-- Another staker joins and one leaves while a claim is in effect. -/
theorem payouts_not_squeezed_sample :
    ∃ past log s s' claimId claim, (poolSystem sampleHost).Run System.anyStep past s ∧
      s.claims.get claimId = some claim ∧ claim.status = .active ∧
      ((poolSystem sampleHost).startingAt s).Run (othersMoveStake claim.wallet) log s' ∧
      s'.totalStaked < s.totalStaked ∧
      ∃ cap, outflowCap s' claim = .ok cap ∧
        payoutCap claim.totalStakedSnapshot s.totalAllocated ≤ cap := by
  obtain ⟨past, opening, output, s, log, s', before, stepped, later,
    ⟨claim, listed, own, active, cap, computed, -⟩, fewer⟩ :=
    System.exists_continuation_of_replay (poolSystem sampleHost) System.anyStep
      (othersMoveStake (party 11)) samplePool_deployed (sampleOpening 20000) (afterDays 30)
      [callBy 13 (.stake (party 13) 5000 (party 23)),
        callBy 12 (.withdraw (party 12) (party 22)), afterDays 31]
      (fun _ s _ s' =>
        (∃ claim ∈ s.claims.get (computeClaimId sampleHost (party 11) 0),
          claim.wallet = party 11 ∧ claim.status = .active ∧
            ∃ cap, outflowCap s' claim = .ok cap ∧ 0 < cap) ∧ s'.totalStaked < s.totalStaked)
      (by decide +kernel)
  rw [← own] at later
  have reached : (poolSystem sampleHost).Run System.anyStep (⟨opening, _, output, s⟩ :: past) s :=
    before.step trivial stepped
  obtain ⟨-, -, kept⟩ :=
    (payouts_not_squeezed sampleHost).2.2.2 reached listed active later
  exact ⟨_, log, s, s', _, claim, reached, listed, active, later, fewer, cap, computed,
    kept cap computed⟩

end ProtectionPool
