/-
Module: ProtectionPool.Proofs.DailyOutflow
Purpose: The daily payout cap.  The contract keeps one counter for all claims,
  under the number of the day.  Where the days of the payouts have distinct
  numbers the counter is what was paid on the day, and it stays within the cap as
  the claim paid last sees it.
Trusted boundary: none
Main exports: payments, paidOn, WithinDailyCap, daily_outflow_capped
-/
import Mathlib.Algebra.Order.Group.Int
import ProtectionPool.Proofs.Calendar

namespace ProtectionPool

open Checked

variable {D : Type}

/-- What `claim_stream` paid in a step. -/
def Action.payment : Action D → Output D → Option Int
  | .invoke _ (.claimStream _ _), .amount paid => some paid
  | _, _ => none

/-- The payments of a log with their calendar days. -/
def payments (log : Log D) : List (Nat × Int) :=
  dated (fun e => e.action.payment e.result) log

/-- What was paid on a calendar day. -/
def paidOn (log : Log D) (day : Nat) : Int := Daily.sumOn (payments log) day

/-- The claim an action collects under. -/
def Action.collected : Action D → Option D
  | .invoke _ (.claimStream claimId _) => some claimId
  | _ => none

/-- What today's payout cap is a share of, as it applies to a claim. -/
def capBase (s : State D) (claim : Claim) : Int := max s.totalStaked claim.totalStakedSnapshot

variable [DecidableEq D]

/-- After a payout the stored counter is what was paid on its calendar day, which
is within the cap before the payout and within 5% of its base. -/
def WithinDailyCap (past : Log D) (e : Entry (State D) (Action D) (Output D)) : Prop :=
  ∀ claimId ∈ e.action.collected, ∃ claim ∈ e.pre.claims.get claimId,
    e.post.lastOutflowDay = currentDay e.pre ∧
      e.post.dailyOutflow = paidOn (e :: past) (calendarDay e.pre) ∧
      (∃ bps, dynamicOutflowBps e.pre (capBase e.pre claim) = .ok bps ∧
        paidOn (e :: past) (calendarDay e.pre) ≤
          (capBase e.pre claim * bps).tdiv bpsDenominator) ∧
      paidOn (e :: past) (calendarDay e.pre) * bpsDenominator ≤ capBase e.pre claim * 500

instance (past : Log D) (e : Entry (State D) (Action D) (Output D)) :
    Decidable (WithinDailyCap past e) :=
  inferInstanceAs (Decidable (∀ claimId ∈ e.action.collected,
    ∃ claim ∈ e.pre.claims.get claimId, _))

variable {host : Host D} {env : Env} {s s' : State D} {r r' : Register D} {action : Action D}
  {output : Output D} {claim : Claim}

/-! ### The cap -/

omit [DecidableEq D] in
/-- The rate is at most 5%. -/
theorem dynamicOutflowBps_bounds {base bps : Int} (computed : dynamicOutflowBps s base = .ok bps) :
    0 ≤ bps ∧ bps ≤ 500 := by
  rcases ite_eq_ok.mp computed with ⟨-, computed⟩ | ⟨-, computed⟩
  · obtain rfl := Except.ok.inj computed
    decide
  · simp only [bind_eq_ok, Except.ok.injEq] at computed
    obtain ⟨scaled, -, rfl⟩ := computed
    split_ifs <;> decide

omit [DecidableEq D] in
theorem outflowCap_ok {cap : Int} (computed : outflowCap s claim = .ok cap) :
    ∃ bps, dynamicOutflowBps s (capBase s claim) = .ok bps ∧
      cap = (capBase s claim * bps).tdiv bpsDenominator := by
  simp only [outflowCap, bind_eq_ok, i128_eq_ok, Except.ok.injEq] at computed
  obtain ⟨bps, rate, product, ⟨-, rfl⟩, rfl⟩ := computed
  exact ⟨bps, rate, rfl⟩

omit [DecidableEq D] in
/-- A payout leaves the counter within the cap. -/
theorem transferAmount_capped {amount : Int} (computed : transferAmount s claim = .ok amount) :
    ∃ cap, outflowCap s claim = .ok cap ∧ getDailyOutflow s (currentDay s) + amount ≤ cap := by
  simp [transferAmount] at computed
  obtain ⟨vested, -, -, due, cap, capped, ⟨-, available⟩, rfl⟩ := computed
  refine ⟨cap, capped, ?_⟩
  have within := min_le_right (vested - claim.streamed)
    (saturatingSub cap (getDailyOutflow s (currentDay s)))
  have positive := lt_min (sub_pos.mpr due) available
  have room := (le_saturateI128_iff (lt_trans (by decide) positive)
    (within.trans (saturateI128_le _))).mp within
  omega

/-! ### The counter -/

namespace Register

/-- The payout counter. -/
def outflow (r : Register D) : Daily.Counter Int := ⟨r.lastOutflowDay, r.dailyOutflow⟩

end Register

/-- A payout is entered in the counter under the day's number; nothing else writes
to it. -/
theorem RegisterStep.outflow_eq (step : RegisterStep host action output r r') :
    r'.outflow = (action.payment output).elim r.outflow (r.outflow.enter r.today) := by
  cases step with
  | streamed => rfl
  | funds fundsOnly => cases action, fundsOnly using Action.fundsCases <;> rfl
  | _ => rfl

/-- What is paid is positive. -/
theorem RegisterStep.payment_pos (step : RegisterStep host action output r r') {paid : Int}
    (pays : action.payment output = some paid) : 0 < paid := by
  cases step with
  | streamed _ _ _ _ _ _ _ _ positive =>
      cases pays
      exact positive
  | funds fundsOnly => cases action, fundsOnly using Action.fundsCases <;> cases pays
  | _ => cases pays

variable {log : Log D}

/-- The counter follows the payments of a run. -/
theorem outflow_tracks_payments (run : (poolSystem host).Run System.anyStep log s) :
    Daily.Tracks dayNumber s.register.outflow (payments log) (calendarDay s) := by
  refine dated_tracks Register.outflow ?_ ?_ run
  · intro r new
    rw [Register.outflow, new.noOutflow.1, new.noOutflow.2]
  · intro s action output s' stepped
    exact (step_registers stepped).outflow_eq

/-- The payments of a run are positive. -/
theorem payments_pos (run : (poolSystem host).Run System.anyStep log s) :
    ∀ entry ∈ payments log, 0 < entry.2 := by
  refine dated_all (P := fun paid => 0 < paid) ?_ run
  intro log s action output s' _ stepped paid pays
  exact (step_registers stepped).payment_pos pays

/-! ### The cap along a run -/

/-- What a payout finds and leaves. -/
theorem claimStream_counts {claimId : D} {beneficiary : Address} {paid : Int}
    (stepped : claimStream host env s claimId beneficiary = .ok (paid, s')) :
    ∃ claim, s.claims.get claimId = some claim ∧ transferAmount s claim = .ok paid ∧
      s'.lastOutflowDay = currentDay s ∧
      s'.dailyOutflow = getDailyOutflow s (currentDay s) + paid := by
  obtain ⟨claim, record, streamed⟩ := claimStream_eq_ok.mp stepped
  rw [streamed.state]
  exact ⟨claim, streamed.listed, streamed.computed, rfl, rfl⟩

/-- A payout of a run is within the cap. -/
theorem claimStream_withinCap (run : (poolSystem host).Run System.anyStep log s) {claimId : D}
    {beneficiary : Address} {paid : Int}
    (distinct : Daily.Distinguishes dayNumber ((calendarDay s, paid) :: payments log))
    (stepped : claimStream host env s claimId beneficiary = .ok (paid, s')) :
    WithinDailyCap log
      ⟨s, .invoke env (.claimStream claimId beneficiary), .amount paid, s'⟩ := by
  rintro _ ⟨⟩
  obtain ⟨claim, listed, computed, day, counted⟩ := claimStream_counts stepped
  have total : getDailyOutflow s (currentDay s) + paid = paidOn
      (⟨s, .invoke env (.claimStream claimId beneficiary), .amount paid, s'⟩ :: log)
      (calendarDay s) := (outflow_tracks_payments run).total distinct
  obtain ⟨cap, capped, within⟩ := transferAmount_capped computed
  obtain ⟨bps, rate, rfl⟩ := outflowCap_ok capped
  rw [total] at within
  refine ⟨claim, listed, day, counted.trans total, ⟨bps, rate, within⟩, ?_⟩
  apply share_le (dynamicOutflowBps_bounds rate) (by decide) _ within
  have past : 0 ≤ Daily.sumOn (payments log) (calendarDay s) :=
    Daily.sumOn_nonneg fun entry member => (payments_pos run entry member).le
  calc 0 < paid + Daily.sumOn (payments log) (calendarDay s) :=
        add_pos_of_pos_of_nonneg (transferAmount_ok computed).1 past
    _ = _ := Daily.sumOn_cons_self.symm

/-- A step that collects under a claim is a payout. -/
theorem claimStream_of_collected {claimId : D} (stepped : poolStep host s action = .ok (output, s'))
    (collects : action.collected = some claimId) :
    ∃ env beneficiary paid, action = .invoke env (.claimStream claimId beneficiary) ∧
      output = .amount paid ∧ claimStream host env s claimId beneficiary = .ok (paid, s') := by
  cases action with
  | invoke env call =>
      cases call with
      | claimStream _ beneficiary =>
          cases collects
          obtain ⟨paid, streamed, rfl⟩ := returning_eq_ok.mp stepped
          exact ⟨env, beneficiary, paid, rfl, rfl, streamed⟩
      | _ => cases collects
  | _ => cases collects

/-- In every run in which the days of the payouts have distinct numbers, each
payout leaves the stored counter at what was paid on its calendar day, within the
cap of that moment and within 5% of its base. -/
theorem daily_outflow_capped (host : Host D) {log : Log D} {s : State D}
    (run : (poolSystem host).Run System.anyStep log s)
    (distinct : Daily.Distinguishes dayNumber (payments log)) :
    System.Along WithinDailyCap log := by
  refine along_of_distinguishes (fun e => e.action.payment e.result) ?_ run distinct
  intro log s action output s' run stepped distinct claimId collects
  obtain ⟨env, beneficiary, paid, rfl, rfl, streamed⟩ := claimStream_of_collected stepped collects
  exact claimStream_withinCap run distinct streamed claimId collects

/-- Two payouts of one day, and one of another. -/
theorem daily_outflow_capped_sample :
    ∃ log s, (poolSystem sampleHost).Run System.anyStep log s ∧ 2 < (payments log).length ∧
      System.Along WithinDailyCap log := by
  obtain ⟨log, s, run, ends⟩ := System.exists_run_of_replay (poolSystem sampleHost)
    System.anyStep samplePool_deployed
    (sampleOpening 10000 ++
      [afterDays 10, callBy 11 (.claimStream (computeClaimId sampleHost (party 11) 0) (party 21)),
        .closeLedger (1000 + ledgersPerDay * 10 + 5000) (1000000 + secondsPerDay * 10 + 25000),
        callBy 11 (.claimStream (computeClaimId sampleHost (party 11) 0) (party 21)),
        afterDays 12, callBy 11 (.claimStream (computeClaimId sampleHost (party 11) 0) (party 21))])
    (fun log _ => 2 < (payments log).length ∧ Daily.Distinguishes dayNumber (payments log))
    (by decide +kernel)
  obtain ⟨paid, distinct⟩ := ends
  exact ⟨log, s, run, paid, daily_outflow_capped sampleHost run distinct⟩

/-- Two payouts on days with one number: the counter of the first is carried over
to the second. -/
theorem outflow_counter_of_another_day :
    ∃ log s, (poolSystem sampleHost).Run System.anyStep log s ∧
      ¬ System.Along WithinDailyCap log := by
  obtain ⟨log, s, run, ends⟩ := System.exists_run_of_replay (poolSystem sampleHost)
    System.anyStep samplePool_deployed
    (sampleOpening 10000 ++
      [afterDays 10, callBy 11 (.claimStream (computeClaimId sampleHost (party 11) 0) (party 21)),
        .closeLedger (1000 + ledgersPerDay * 20) (1000000 + secondsPerDay * (10 + 2 ^ 32)),
        callBy 11 (.claimStream (computeClaimId sampleHost (party 11) 0) (party 21))])
    (fun log _ => ¬ System.Along WithinDailyCap log) (by decide +kernel)
  exact ⟨log, s, run, ends⟩

end ProtectionPool
