/-
Module: ProtectionPool.Proofs.FrozenTime
Purpose: What a staker had before a permissionless sweep ends a claim.  The clock
  of a claim starts over when an unsuspension names the claim, and on no other
  end of a suspension and no end of a pause; so the wallet had the full window
  exactly when none of those fell into it and the pool is not paused now.
Trusted boundary: none
Main exports: Action.sweep, FullWindow, KeepsWindow, sweep_after_full_window
-/
import ProtectionPool.Proofs.Suspension

namespace ProtectionPool

variable {D : Type}

/-- A permissionless sweep: the claim it ends, the claim's wallet, and the ledgers
the wallet should have had. -/
structure Sweep (D : Type) where
  claimId : D
  wallet : Address
  window : Nat

variable [DecidableEq D]

/-- The sweep an action makes. -/
def Action.sweep (claims : Store D Claim) : Action D → Option (Sweep D)
  | .invoke _ (.expirePendingApproval claimId) =>
      (claims.get claimId).map fun claim => ⟨claimId, claim.wallet, approveWindowLedgers⟩
  | .invoke _ (.expireStaleClaim claimId) =>
      (claims.get claimId).map fun claim => ⟨claimId, claim.wallet, collectionInactivityLedgers⟩
  | _ => none

/-- A sweep ends a claim only after a full window in which the pool was not paused
and the claim's wallet was not suspended. -/
def FullWindow (past : Log D) (e : Entry (State D) (Action D) (Output D)) : Prop :=
  ∀ sweep ∈ e.action.sweep e.pre.claims, ∀ earlier ∈ e :: past,
    e.pre.sequence ≤ earlier.pre.sequence + sweep.window →
      earlier.pre.paused = false ∧ isSuspended earlier.pre.stakes sweep.wallet = false

/-- The action ends a pause, if there is one. -/
def Action.unpauses : Action D → Bool
  | .invoke _ .unpause => true
  | _ => false

/-- The action ends a suspension of a wallet, if there is one, and leaves the clock
of a claim running: an unsuspension that does not name the claim, or a new
deposit. -/
def Action.thaws (wallet : Address) (claimId : D) : Action D → Bool
  | .invoke _ (.unsuspendStake thawed named) =>
      decide (thawed = wallet) && decide (named ≠ some claimId)
  | .invoke _ (.stake staker _ _) => decide (staker = wallet)
  | _ => false

/-- The condition under which a sweep is made after a full window: the pool is not
paused, and in the window no pause was ended, and no suspension of the wallet but
by an unsuspension that names the claim. -/
def KeepsWindow (past : Log D) (e : Entry (State D) (Action D) (Output D)) : Prop :=
  ∀ sweep ∈ e.action.sweep e.pre.claims, e.pre.paused = false ∧
    ∀ earlier ∈ past, e.pre.sequence ≤ earlier.pre.sequence + sweep.window →
      (earlier.action.unpauses = true → earlier.pre.paused = false) ∧
      (earlier.action.thaws sweep.wallet sweep.claimId = true →
        isSuspended earlier.pre.stakes sweep.wallet = false)

instance (past : Log D) (e : Entry (State D) (Action D) (Output D)) :
    Decidable (FullWindow past e) :=
  inferInstanceAs (Decidable (∀ sweep ∈ e.action.sweep e.pre.claims, ∀ earlier ∈ e :: past, _))

instance (past : Log D) (e : Entry (State D) (Action D) (Output D)) :
    Decidable (KeepsWindow past e) :=
  inferInstanceAs (Decidable (∀ sweep ∈ e.action.sweep e.pre.claims, _ ∧ ∀ earlier ∈ past, _))

variable {host : Host D} {r r' : Register D} {action : Action D} {output : Output D}
  {wallet : Address} {claimId : D} {claim claim' : Claim} {ledger later : Nat}

/-! ### How pauses and suspensions end -/

/-- Only an unpause ends a pause. -/
theorem RegisterStep.unpauses_of_lifted (step : RegisterStep host action output r r')
    (paused : r.paused = true) (lifted : ¬ r'.paused = true) : action.unpauses = true := by
  cases step with
  | unpaused => rfl
  | paused => exact absurd rfl lifted
  | _ => exact absurd paused lifted

/-- The claim whose clock an action starts over, with the wallet it is to belong
to. -/
def Action.restarts : Action D → Option (Address × D)
  | .invoke _ (.unsuspendStake wallet (some claimId)) => some (wallet, claimId)
  | _ => none

theorem Action.thaws_of_staker (deposited : action.staker = some wallet) :
    action.thaws wallet claimId = true := by
  cases action with
  | invoke env call =>
      cases call with
      | stake staker amount beneficiary => exact decide_eq_true (Option.some.inj deposited)
      | _ => cases deposited
  | _ => cases deposited

/-- An unsuspension names the claim or it does not. -/
theorem Action.thaws_of_suspension (lifted : action.suspension wallet = some false) :
    action.thaws wallet claimId = true ∨ action.restarts = some (wallet, claimId) := by
  cases action with
  | invoke env call =>
      cases call with
      | unsuspendStake thawed named =>
          obtain ⟨rfl, -⟩ := Option.ite_none_right_eq_some.mp lifted
          by_cases names : named = some claimId
          · subst names
            exact .inr rfl
          · exact .inl (by simp [Action.thaws, names])
      | suspendStake suspended =>
          obtain ⟨-, mark⟩ := Option.ite_none_right_eq_some.mp lifted
          cases mark
      | _ => cases lifted
  | _ => cases lifted

/-- A suspension ends with the clock of a claim started over or left running. -/
theorem RegisterStep.thaws_of_lifted (step : RegisterStep host action output r r')
    (suspended : isSuspended r.stakes wallet = true)
    (lifted : ¬ isSuspended r'.stakes wallet = true) (claimId : D) :
    action.thaws wallet claimId = true ∨ action.restarts = some (wallet, claimId) := by
  by_cases deposited : action.staker = some wallet
  · exact .inl (Action.thaws_of_staker deposited)
  · rw [step.suspension_kept deposited, suspended] at lifted
    apply Action.thaws_of_suspension
    cases mark : action.suspension wallet with
    | none =>
        rw [mark] at lifted
        exact absurd rfl lifted
    | some suspends =>
        rw [mark, Option.getD_some, Bool.not_eq_true] at lifted
        rw [lifted]

/-! ### The clock of a claim -/

/-- The clock of a claim was not started before a ledger. -/
structure Claim.ClockSince (claim : Claim) (ledger : Nat) : Prop where
  awaiting : claim.status = .awaitingApproval →
    ledger + approveWindowLedgers ≤ claim.approveDeadlineLedger
  active : claim.status = .active → ledger ≤ claim.lastCollectedLedger

theorem Claim.ClockSince.mono (since : claim.ClockSince later) (notLater : ledger ≤ later) :
    claim.ClockSince ledger where
  awaiting := fun awaiting => (Nat.add_le_add_right notLater _).trans (since.awaiting awaiting)
  active := fun active => notLater.trans (since.active active)

/-- A claim in another status has no clock. -/
theorem Claim.ClockSince.of_stopped (notAwaiting : claim.status ≠ .awaitingApproval)
    (notActive : claim.status ≠ .active) : claim.ClockSince ledger :=
  ⟨fun awaiting => absurd awaiting notAwaiting, fun active => absurd active notActive⟩

theorem clock_of_set {claims : Store D Claim} {id : D} {new : Claim}
    (listed' : (claims.set id new).get claimId = some claim') (since : new.ClockSince ledger) :
    claims.get claimId = some claim' ∨ claim'.ClockSince ledger := by
  rcases Store.get_set_eq_some.mp listed' with ⟨-, rfl⟩ | ⟨-, before⟩
  · exact .inr since
  · exact .inl before

omit [DecidableEq D] in
/-- The approval window of an admitted claim starts with its admission. -/
theorem Register.Admission.clockSince {record : StakeRecord D} {status : ClaimStatus}
    {deadline : Nat} (admission : r.Admission record status deadline) {txHash : BytesN 32}
    {hackTimestamp tier : Nat} {entitlement stake : Int} :
    (freshClaim wallet txHash hackTimestamp entitlement stake tier status deadline).ClockSince
      r.sequence := by
  rcases admission with ⟨rfl, rfl, -⟩ | ⟨rfl, -⟩
  · exact ⟨fun _ => le_refl _, nofun⟩
  · exact .of_stopped nofun nofun

/-- A payout starts the clock over. -/
theorem Claim.paid_clockSince {amount : Int} (active : claim.status = .active) :
    (claim.paid amount ledger).ClockSince ledger where
  awaiting := by
    simp only [Claim.paid, active]
    split_ifs <;> nofun
  active := fun _ => le_refl _

theorem Claim.restarted_clockSince : (claim.restarted ledger).ClockSince ledger := by
  cases status : claim.status with
  | awaitingApproval =>
      simp only [Claim.restarted, status]
      exact ⟨fun _ => le_refl _, by simp⟩
  | active =>
      simp only [Claim.restarted, status]
      exact ⟨by simp, fun _ => le_refl _⟩
  | _ =>
      simp only [Claim.restarted, status]
      exact .of_stopped (by simp [status]) (by simp [status])

/-- Whatever a step writes to a claim leaves its clock stopped or started now or
later. -/
theorem RegisterStep.written_clock (step : RegisterStep host action output r r')
    (listed' : r'.claims.get claimId = some claim') :
    r.claims.get claimId = some claim' ∨ claim'.ClockSince r.sequence := by
  cases step with
  | queued | queueExpired | approvalExpired | staleExpired | droppedPending | reversed =>
      exact clock_of_set listed' (.of_stopped nofun nofun)
  | admitted _ admission | released _ _ _ _ _ admission =>
      exact clock_of_set listed' admission.clockSince
  | unlocked => exact clock_of_set listed' ⟨fun _ => le_refl _, nofun⟩
  | approved | overrideExecuted =>
      exact clock_of_set listed' ⟨nofun, fun _ => Nat.le_add_right _ _⟩
  | streamed _ _ active => exact clock_of_set listed' (Claim.paid_clockSince active)
  | restarted => exact clock_of_set listed' Claim.restarted_clockSince
  | _ => exact .inl listed'

/-- The clocks that were to be started over were. -/
def ClocksRestarted (log : Log D) (r : Register D) : Prop :=
  ∀ e ∈ log, ∀ {wallet claimId}, e.action.restarts = some (wallet, claimId) →
    ∀ claim ∈ r.claims.get claimId, claim.wallet = wallet → claim.ClockSince e.pre.sequence

/-- An unsuspension that names a claim of the wallet starts its clock over. -/
theorem RegisterStep.restarted_clock (step : RegisterStep host action output r r')
    (restarts : action.restarts = some (wallet, claimId))
    (listed' : r'.claims.get claimId = some claim') (own : claim'.wallet = wallet) :
    claim'.ClockSince r.sequence := by
  cases step with
  | @unsuspended _ _ _ named _ _ _ foreign =>
      cases named with
      | none => cases restarts
      | some id =>
          cases restarts
          exact absurd own (foreign _ _ rfl listed')
  | restarted =>
      cases restarts
      rw [Store.get_set_self] at listed'
      obtain rfl := Option.some.inj listed'
      exact Claim.restarted_clockSince
  | funds fundsOnly => cases action, fundsOnly using Action.fundsCases <;> cases restarts
  | _ => cases restarts

/-- The clocks that were to be started over were, in every run. -/
theorem clocksRestarted_of_run {guard : System.Guard (State D) (Action D) (Output D)}
    {log : Log D} {s : State D} (run : (poolSystem host).Run guard log s) :
    ClocksRestarted log s.register := by
  refine run.invariant (P := fun log s => ClocksRestarted log s.register) ?_ ?_
  · intro s _ e member
    cases member
  · intro log s action output s' run restarted _ stepped e member wallet claimId restarts claim
      listed own
    have step := step_registers stepped
    rcases List.mem_cons.mp member with rfl | older
    · exact step.restarted_clock restarts listed own
    · rcases step.written_clock listed with before | since
      · exact restarted e older restarts claim before own
      · apply since.mono
        exact run.le_of_mem State.sequence
          (fun stepped => (step_registers stepped).sequence_le) e older

/-! ### The window before a sweep -/

/-- What a sweep finds: the wallet is not suspended, and the clock of the claim was
started before the window. -/
theorem RegisterStep.sweep_finds (step : RegisterStep host action output r r') {sweep : Sweep D}
    (sweeps : action.sweep r.claims = some sweep) :
    isSuspended r.stakes sweep.wallet = false ∧
      ∃ claim, r.claims.get sweep.claimId = some claim ∧ claim.wallet = sweep.wallet ∧
        ∀ ledger, claim.ClockSince ledger → ledger + sweep.window < r.sequence := by
  cases step with
  | approvalExpired listed awaiting stored unsuspended late =>
      simp only [Action.sweep, listed, Option.map_some, Option.some.injEq] at sweeps
      subst sweeps
      refine ⟨by rw [isSuspended_of_get stored, unsuspended], _, listed, rfl, ?_⟩
      exact fun ledger since => lt_of_le_of_lt (since.awaiting awaiting) late
  | staleExpired listed active unpaid stored unsuspended late =>
      simp only [Action.sweep, listed, Option.map_some, Option.some.injEq] at sweeps
      subst sweeps
      refine ⟨by rw [isSuspended_of_get stored, unsuspended], _, listed, rfl, ?_⟩
      intro ledger since
      have started : ledger ≤ _ := since.active active
      show ledger + collectionInactivityLedgers < r.sequence
      omega
  | funds fundsOnly => cases action, fundsOnly using Action.fundsCases <;> cases sweeps
  | _ => cases sweeps

/-- The steps of a run are register steps. -/
theorem registers_of_mem {guard : System.Guard (State D) (Action D) (Output D)} {log : Log D}
    {s : State D} (run : (poolSystem host).Run guard log s) :
    ∀ e ∈ log, RegisterStep host e.action e.result e.pre.register e.post.register :=
  run.entries fun _ _ _ _ _ _ _ stepped => step_registers stepped

/-- What held in a window before now and is over was ended in the window. -/
theorem ended_in_window {guard : System.Guard (State D) (Action D) (Output D)} {log : Log D}
    {s : State D} (run : (poolSystem host).Run guard log s) {P : State D → Prop} {window : Nat}
    {earlier : Entry (State D) (Action D) (Output D)} (member : earlier ∈ log)
    (within : s.sequence ≤ earlier.pre.sequence + window) (before : P earlier.pre)
    (gone : ¬ P s) :
    ∃ last ∈ log, s.sequence ≤ last.pre.sequence + window ∧ P last.pre ∧ ¬ P last.post := by
  rcases run.persists (P := P) State.sequence
      (fun stepped => (step_registers stepped).sequence_le) earlier member before with
    now | ⟨last, logged, held, ended, notEarlier⟩
  · exact absurd now gone
  · refine ⟨last, logged, within.trans ?_, held, ended⟩
    exact Nat.add_le_add_right notEarlier window

/-- A sweep is made after a full window exactly when the pool is not paused and the
window was kept. -/
theorem fullWindow_iff {log : Log D} {s s' : State D}
    (run : (poolSystem host).Run System.anyStep log s)
    (stepped : poolStep host s action = .ok (output, s')) :
    FullWindow log ⟨s, action, output, s'⟩ ↔ KeepsWindow log ⟨s, action, output, s'⟩ := by
  constructor
  · intro full sweep sweeps
    refine ⟨(full sweep sweeps _ List.mem_cons_self (Nat.le_add_right _ _)).1, ?_⟩
    intro earlier member within
    obtain ⟨running, unsuspended⟩ :=
      full sweep sweeps earlier (List.mem_cons_of_mem _ member) within
    exact ⟨fun _ => running, fun _ => unsuspended⟩
  · intro keeps sweep sweeps earlier member within
    obtain ⟨running, window⟩ := keeps sweep sweeps
    obtain ⟨unsuspended, claim, listed, own, clock⟩ :=
      (step_registers stepped).sweep_finds sweeps
    rcases List.mem_cons.mp member with rfl | older
    · exact ⟨running, unsuspended⟩
    constructor
    · by_contra paused
      obtain ⟨last, logged, within, held, ended⟩ := ended_in_window run
        (P := fun s => s.paused = true) older within ((Bool.not_eq_false _).mp paused)
        (Bool.eq_false_iff.mp running)
      have unpauses := (registers_of_mem run last logged).unpauses_of_lifted held ended
      cases held.symm.trans ((window last logged within).1 unpauses)
    · by_contra suspended
      obtain ⟨last, logged, within, held, ended⟩ := ended_in_window run
        (P := fun s => isSuspended s.stakes sweep.wallet = true) older within
        ((Bool.not_eq_false _).mp suspended) (Bool.eq_false_iff.mp unsuspended)
      rcases (registers_of_mem run last logged).thaws_of_lifted held ended sweep.claimId with
        thaws | restarts
      · cases held.symm.trans ((window last logged within).2 thaws)
      · -- The claim was named, so its clock was started over in the window.
        have since := clocksRestarted_of_run run last logged restarts claim listed own
        exact absurd within (not_le.mpr (clock _ since))

/-- In every run each sweep is made after a full window, without a pause and without
a suspension of the wallet, exactly when the pool is not paused at the sweep and in
the window no pause was ended, and no suspension of the wallet but by an
unsuspension that names the claim. -/
theorem sweep_after_full_window (host : Host D) {log : Log D} {s : State D}
    (run : (poolSystem host).Run System.anyStep log s) :
    System.Along FullWindow log ↔ System.Along KeepsWindow log := by
  apply run.along_congr
  intro log s action output s' run stepped
  exact fullWindow_iff run stepped

/-- The wallet is suspended while its claim awaits its approval, and the claim is
named when the suspension ends: it is swept after another full window. -/
theorem sweep_after_full_window_sample :
    ∃ log s, (poolSystem sampleHost).Run System.anyStep log s ∧
      log.any (fun e => (e.action.sweep e.pre.claims).isSome) = true ∧
      System.Along FullWindow log := by
  obtain ⟨log, s, run, ends⟩ := System.exists_run_of_replay (poolSystem sampleHost)
    System.anyStep samplePool_deployed
    [callBy 11 (.stake (party 11) 2000 (party 21)),
      callBy 12 (.stake (party 12) 100000 (party 22)), afterDays 90,
      callBy 1 (.submitClaim (party 1) (party 11) 0 10000 1 (1000000 + secondsPerDay * 90) 0 0),
      callBy 1 (.suspendStake (party 11)), afterDays 95,
      callBy 1 (.unsuspendStake (party 11) (some (computeClaimId sampleHost (party 11) 0))),
      afterDays 196,
      callBy 9 (.expirePendingApproval (computeClaimId sampleHost (party 11) 0))]
    (fun log _ => log.any (fun e => (e.action.sweep e.pre.claims).isSome) ∧
      System.Along KeepsWindow log) (by decide +kernel)
  obtain ⟨swept, keeps⟩ := ends
  exact ⟨log, s, run, swept, (sweep_after_full_window sampleHost run).mpr keeps⟩

/-- The wallet is suspended for all but the first and the last day of the window of
its claim, and the claim is not named when the suspension ends. -/
theorem sweep_after_suspension :
    ∃ log s, (poolSystem sampleHost).Run System.anyStep log s ∧
      ¬ System.Along FullWindow log := by
  obtain ⟨log, s, run, ends⟩ := System.exists_run_of_replay (poolSystem sampleHost)
    System.anyStep samplePool_deployed
    [callBy 11 (.stake (party 11) 2000 (party 21)),
      callBy 12 (.stake (party 12) 100000 (party 22)), afterDays 90,
      callBy 1 (.submitClaim (party 1) (party 11) 0 10000 1 (1000000 + secondsPerDay * 90) 0 0),
      afterDays 91, callBy 1 (.suspendStake (party 11)), afterDays 190,
      callBy 1 (.unsuspendStake (party 11) none), afterDays 191,
      callBy 9 (.expirePendingApproval (computeClaimId sampleHost (party 11) 0))]
    (fun log _ => ¬ System.Along FullWindow log) (by decide +kernel)
  exact ⟨log, s, run, ends⟩

end ProtectionPool
