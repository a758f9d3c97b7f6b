/-
Module: ProtectionPool.Proofs.DailyAdmission
Purpose: The daily admission caps.  A submission that is not queued and a release
  from the queue write one pair of counters, what was admitted on the day and how
  much of it the oracle submitted itself.  Where the days of the admissions have
  distinct numbers both are exact, and each stays within its limit.
Trusted boundary: none
Main exports: admissions, admittedOn, WithinDailyAdmissions, daily_admissions_capped
-/
import Mathlib.Algebra.Order.Monoid.Prod
import ProtectionPool.Proofs.DailyOutflow
import ProtectionPool.Proofs.Queue

namespace ProtectionPool

open Checked

variable {D : Type} [DecidableEq D]

instance (claims : Store D Claim) (claimId : D) : Decidable (OutOfQueue claims claimId) :=
  inferInstanceAs (Decidable (∃ claim ∈ claims.get claimId, claim.status ≠ .reserved))

/-- What an action admitted between two registers: the entitlement of a submission
that was not queued or of a release, and one more submission of the oracle if it
was one. -/
def Action.admission (host : Host D) (r r' : Register D) : Action D → Option (Int × Nat)
  | .invoke _ (.submitClaim caller wallet txHash entitlement _ _ _ _) =>
      if OutOfQueue r'.claims (computeClaimId host wallet txHash) then
        some (entitlement, if caller = r.oracle then 1 else 0)
      else none
  | .invoke _ (.tryReleaseQueuedClaim claimId) =>
      (r.claims.get claimId).map fun claim => (claim.entitlement, 0)
  | _ => none

/-- The admission of a step. -/
def admission (host : Host D) (e : Entry (State D) (Action D) (Output D)) : Option (Int × Nat) :=
  e.action.admission host e.pre.register e.post.register

/-- The admissions of a log with their calendar days. -/
def admissions (host : Host D) (log : Log D) : List (Nat × (Int × Nat)) :=
  dated (admission host) log

/-- The entitlements admitted on a calendar day, and the admissions the oracle
submitted itself. -/
def admittedOn (host : Host D) (log : Log D) (day : Nat) : Int × Nat :=
  Daily.sumOn (admissions host log) day

/-- After an admission the stored counters are what was admitted on its calendar
day.  The entitlements are within the stress cap before the admission and within
25% of the deposits; the oracle's submissions, after one, within its own limit. -/
def WithinDailyAdmissions (host : Host D) (past : Log D)
    (e : Entry (State D) (Action D) (Output D)) : Prop :=
  ∀ counted ∈ admission host e,
    (e.post.lastEntitlementDay = currentDay e.pre ∧
      (e.post.dailyEntitlementTotal, e.post.dailyClaimCount) =
        admittedOn host (e :: past) (calendarDay e.pre)) ∧
    (∃ stress, stressCap e.pre = .ok stress ∧
      (admittedOn host (e :: past) (calendarDay e.pre)).1 ≤ stress) ∧
    (admittedOn host (e :: past) (calendarDay e.pre)).1 * bpsDenominator ≤
      e.pre.totalStaked * 2500 ∧
    (0 < counted.2 →
      (admittedOn host (e :: past) (calendarDay e.pre)).2 ≤ max (e.pre.totalStakers / 10) 1)

instance (host : Host D) (past : Log D) (e : Entry (State D) (Action D) (Output D)) :
    Decidable (WithinDailyAdmissions host past e) :=
  inferInstanceAs (Decidable (∀ counted ∈ admission host e, _))

variable {host : Host D} {env : Env} {s s' : State D} {r r' : Register D} {action : Action D}
  {output : Output D}

/-! ### The stress cap -/

omit [DecidableEq D] in
/-- The stress cap is a share of the deposits at a rate of at most 25%. -/
theorem stressCap_ok {stress : Int} (computed : stressCap s = .ok stress) :
    stress = 0 ∨ ∃ rate, (0 ≤ rate ∧ rate ≤ 2500) ∧
      stress = (s.totalStaked * rate).tdiv bpsDenominator := by
  rcases ite_eq_ok.mp computed with ⟨-, computed⟩ | ⟨-, computed⟩
  · exact .inl (Except.ok.inj computed).symm
  · simp only [bind_eq_ok, i128_eq_ok, Except.ok.injEq] at computed
    obtain ⟨_, -, product, ⟨-, rfl⟩, rfl⟩ := computed
    refine .inr ⟨_, ?_, rfl⟩
    split_ifs <;> decide

omit [DecidableEq D] in
theorem stressCap_le {stress total : Int} (computed : stressCap s = .ok stress)
    (positive : 0 < total) (within : total ≤ stress) :
    total * bpsDenominator ≤ s.totalStaked * 2500 := by
  rcases stressCap_ok computed with rfl | ⟨rate, bounds, rfl⟩
  · omega
  · exact share_le bounds (by decide) positive within

/-! ### The counters -/

namespace Register

/-- The admission counters. -/
def admissions (r : Register D) : Daily.Counter (Int × Nat) :=
  ⟨r.lastEntitlementDay, r.dailyEntitlementTotal, r.dailyClaimCount⟩

end Register

theorem outOfQueue_set {claims : Store D Claim} {claimId : D} {claim : Claim} :
    OutOfQueue (claims.set claimId claim) claimId ↔ claim.status ≠ .reserved := by
  simp [OutOfQueue]

/-- An admission is entered in the counters under the day's number; nothing else
writes to them. -/
theorem RegisterStep.admissions_eq (step : RegisterStep host action output r r') :
    r'.admissions =
      (action.admission host r r').elim r.admissions (r.admissions.enter r.today) := by
  cases step with
  | queued =>
      rw [Action.admission, if_neg (outOfQueue_set.not.mpr (not_not.mpr rfl))]
      rfl
  | admitted _ admission =>
      rw [Action.admission, Register.enterClaim,
        if_pos (outOfQueue_set.mpr (by exact admission.outOfQueue))]
      rfl
  | released _ listed =>
      rw [Action.admission, listed]
      rfl
  | funds fundsOnly => cases action, fundsOnly using Action.fundsCases <;> rfl
  | _ => rfl

/-- What is admitted is positive. -/
theorem RegisterStep.admission_pos (step : RegisterStep host action output r r')
    (positive : Store.All (fun _ claim => 0 < claim.entitlement) r.claims) {counted : Int × Nat}
    (admits : action.admission host r r' = some counted) : 0 < counted.1 := by
  cases step with
  | queued submission | admitted submission =>
      obtain ⟨-, admits⟩ := Option.ite_none_right_eq_some.mp admits
      cases admits
      exact submission.positive
  | released _ listed =>
      rw [Action.admission, listed] at admits
      cases admits
      exact positive _ _ listed
  | funds fundsOnly => cases action, fundsOnly using Action.fundsCases <;> cases admits
  | _ => cases admits

variable {log : Log D}

/-- The counters follow the admissions of a run. -/
theorem counters_track_admissions (run : (poolSystem host).Run System.anyStep log s) :
    Daily.Tracks dayNumber s.register.admissions (admissions host log) (calendarDay s) := by
  refine dated_tracks Register.admissions ?_ ?_ run
  · intro r new
    obtain ⟨noAmount, noDay, noCount⟩ := new.noAdmissions
    rw [Register.admissions, noAmount, noDay, noCount]
    rfl
  · intro s action output s' stepped
    exact (step_registers stepped).admissions_eq

/-- The stored claims of a run carry positive entitlements. -/
theorem entitlements_pos (run : (poolSystem host).Run System.anyStep log s) :
    Store.All (fun _ claim => 0 < claim.entitlement) s.register.claims :=
  (wellKept_of_run run).claims.imp fun _ _ kept => kept.positive

/-- The admissions of a run are positive. -/
theorem admissions_pos (run : (poolSystem host).Run System.anyStep log s) :
    ∀ entry ∈ admissions host log, 0 < entry.2.1 := by
  refine dated_all (P := fun counted : Int × Nat => 0 < counted.1) ?_ run
  intro log s action output s' run stepped counted admits
  exact (step_registers stepped).admission_pos (entitlements_pos run) admits

/-! ### The limits -/

/-- What an admission leaves room for: the entitlements in the stress cap, the
oracle's submissions in its own limit. -/
structure WithinLimits (s : State D) (counted : Int × Nat) : Prop where
  stressed : ∃ stress, stressCap s = .ok stress ∧
    (getDailyEntitlement s (currentDay s)).1 + counted.1 ≤ stress
  limited : 0 < counted.2 →
    (getDailyEntitlement s (currentDay s)).2 + counted.2 ≤ max (s.totalStakers / 10) 1

/-- A submission that is not queued leaves room. -/
theorem submitClaim_withinLimits {caller wallet : Address} {txHash : BytesN 32}
    {entitlement : Int} {tier hackTimestamp deadline : Nat} {signature : BytesN 64} {claimId : D}
    (stepped : submitClaim host env s caller wallet txHash entitlement tier hackTimestamp deadline
      signature = .ok (claimId, s'))
    (outOfQueue : OutOfQueue s'.claims (computeClaimId host wallet txHash)) :
    WithinLimits s (entitlement, if caller = s.oracle then 1 else 0) := by
  simp only [submitClaim, bind_eq_ok, rejectIf_eq_ok, okOr_eq_ok, i128_eq_ok] at stepped
  obtain ⟨_, -, _, -, _, -, _, -, _, -, _, -, record, -, _, -, _, ⟨-, rfl⟩, _, ⟨-, rfl⟩, stress,
    stressed, _, -, outcome⟩ := stepped
  rcases ite_eq_ok.mp outcome with ⟨-, queued⟩ | ⟨room, -⟩
  · simp only [Except.ok.injEq, Prod.mk.injEq] at queued
    obtain ⟨-, rfl⟩ := queued
    exact absurd outOfQueue queueClaim_in_queue
  · simp only [not_or, not_lt] at room
    obtain ⟨-, within, unlimited⟩ := room
    refine ⟨⟨stress, stressed, within⟩, ?_⟩
    intro counts
    by_cases oracle : caller = s.oracle
    · simp only [oracleRateLimited, oracle, decide_true, Bool.true_and, decide_eq_true_eq,
        not_le] at unlimited
      rw [if_pos oracle]
      exact unlimited
    · rw [if_neg oracle] at counts
      cases counts

/-- A release leaves room. -/
theorem tryReleaseQueuedClaim_withinLimits {claimId : D} {claim : Claim}
    (listed : s.claims.get claimId = some claim)
    (stepped : tryReleaseQueuedClaim s claimId = .ok s') :
    WithinLimits s (claim.entitlement, 0) := by
  cases stored : s.stakes.get claim.wallet with
  | none => simp [tryReleaseQueuedClaim, listed, stored] at stepped
  | some record =>
      obtain ⟨-, -, -, -, -, stressed, -⟩ := tryReleaseQueuedClaim_ok listed stored stepped
      exact ⟨stressed, fun counts => absurd counts (lt_irrefl 0)⟩

/-- A step that admits leaves room. -/
theorem withinLimits_of_admission {counted : Int × Nat}
    (stepped : poolStep host s action = .ok (output, s'))
    (admits : action.admission host s.register s'.register = some counted) :
    WithinLimits s counted := by
  cases action with
  | invoke env call =>
      cases call with
      | submitClaim caller wallet txHash entitlement tier hackTimestamp deadline signature =>
          obtain ⟨claimId, submitted, -⟩ := returning_eq_ok.mp stepped
          obtain ⟨outOfQueue, admits⟩ := Option.ite_none_right_eq_some.mp admits
          obtain rfl := Option.some.inj admits
          exact submitClaim_withinLimits submitted outOfQueue
      | tryReleaseQueuedClaim claimId =>
          obtain ⟨released, -⟩ := returningUnit_eq_ok.mp stepped
          obtain ⟨claim, listed, rfl⟩ := Option.map_eq_some_iff.mp admits
          exact tryReleaseQueuedClaim_withinLimits listed released
      | _ => cases admits
  | _ => cases admits

/-- An admission of a run is within the limits of the day. -/
theorem withinDailyAdmissions_of_step (run : (poolSystem host).Run System.anyStep log s)
    (distinct : Daily.Distinguishes dayNumber (admissions host (⟨s, action, output, s'⟩ :: log)))
    (stepped : poolStep host s action = .ok (output, s')) :
    WithinDailyAdmissions host log ⟨s, action, output, s'⟩ := by
  intro counted admits
  have step := step_registers stepped
  have entered : admissions host (⟨s, action, output, s'⟩ :: log) =
      (calendarDay s, counted) :: admissions host log := by
    rw [admissions, dated_cons, admits]
    rfl
  have counters : s'.register.admissions = s.register.admissions.enter (currentDay s) counted := by
    rw [step.admissions_eq, show action.admission host s.register s'.register = some counted
      from admits]
    rfl
  rw [entered] at distinct
  have total : getDailyEntitlement s (currentDay s) + counted =
      admittedOn host (⟨s, action, output, s'⟩ :: log) (calendarDay s) := by
    rw [admittedOn, entered]
    exact (counters_track_admissions run).total distinct
  have positive : 0 < (admittedOn host (⟨s, action, output, s'⟩ :: log) (calendarDay s)).1 := by
    have past : 0 ≤ Daily.sumOn (admissions host log) (calendarDay s) :=
      Daily.sumOn_nonneg fun entry member => ⟨(admissions_pos run entry member).le, Nat.zero_le _⟩
    rw [admittedOn, entered, Daily.sumOn_cons_self]
    exact add_pos_of_pos_of_nonneg (step.admission_pos (entitlements_pos run) admits) past.1
  have room := withinLimits_of_admission stepped admits
  obtain ⟨stress, stressed, within⟩ := room.stressed
  refine ⟨⟨congrArg Daily.Counter.day counters, ?_⟩, ?_⟩
  · exact (congrArg Daily.Counter.total counters).trans total
  · rw [← total] at positive ⊢
    exact ⟨⟨stress, stressed, within⟩, stressCap_le stressed positive within, room.limited⟩

/-- In every run in which the days of the admissions have distinct numbers, each
admission leaves the stored counters at what was admitted on its calendar day,
within the stress cap of that moment and within 25% of the deposits, and each
submission of the oracle leaves the count within its limit. -/
theorem daily_admissions_capped (host : Host D) {log : Log D} {s : State D}
    (run : (poolSystem host).Run System.anyStep log s)
    (distinct : Daily.Distinguishes dayNumber (admissions host log)) :
    System.Along (WithinDailyAdmissions host) log := by
  refine along_of_distinguishes (admission host) ?_ run distinct
  intro log s action output s' run stepped distinct
  exact withinDailyAdmissions_of_step run distinct stepped

/-- A submission of the oracle and a release from the queue on another day. -/
theorem daily_admissions_capped_sample :
    ∃ log s, (poolSystem sampleHost).Run System.anyStep log s ∧
      1 < (admissions sampleHost log).length ∧
      System.Along (WithinDailyAdmissions sampleHost) log := by
  obtain ⟨log, s, run, ends⟩ := System.exists_run_of_replay (poolSystem sampleHost)
    System.anyStep samplePool_deployed
    (sampleQueue ++ [callBy 2 (.submitClaim (party 2) (party 12) 1 1000 1
        (1000000 + secondsPerDay * 90) (1000000 + secondsPerDay * 90) 0), afterDays 91,
      callBy 9 (.tryReleaseQueuedClaim (computeClaimId sampleHost (party 11) 0))])
    (fun log _ => 1 < (admissions sampleHost log).length ∧
      Daily.Distinguishes dayNumber (admissions sampleHost log)) (by decide +kernel)
  obtain ⟨admitted, distinct⟩ := ends
  exact ⟨log, s, run, admitted, daily_admissions_capped sampleHost run distinct⟩

/-- Two admissions on days with one number: the counters of the first are carried
over to the second. -/
theorem admission_counters_of_another_day :
    ∃ log s, (poolSystem sampleHost).Run System.anyStep log s ∧
      ¬ System.Along (WithinDailyAdmissions sampleHost) log := by
  obtain ⟨log, s, run, ends⟩ := System.exists_run_of_replay (poolSystem sampleHost)
    System.anyStep samplePool_deployed
    [callBy 11 (.stake (party 11) 2000 (party 21)),
      callBy 12 (.stake (party 12) 100000 (party 22)), afterDays 90,
      callBy 1 (.submitClaim (party 1) (party 11) 0 1000 1 (1000000 + secondsPerDay * 90) 0 0),
      .closeLedger (1000 + ledgersPerDay * 100) (1000000 + secondsPerDay * (90 + 2 ^ 32)),
      callBy 1 (.submitClaim (party 1) (party 12) 0 1000 1
        (1000000 + secondsPerDay * (90 + 2 ^ 32)) 0 0)]
    (fun log _ => ¬ System.Along (WithinDailyAdmissions sampleHost) log) (by decide +kernel)
  exact ⟨log, s, run, ends⟩

end ProtectionPool
