/-
Module: ProtectionPool.Books.Frames
Purpose: What the calls leave alone.  The deposits, the claims and what is kept of them
  are blanked out; the calls that write nothing else leave the remaining state as it
  was, and the paying calls change its balances alone.  The calls that write settings
  leave what is not one.  Every view that reads only the remaining state follows.
Trusted boundary: none
Main exports: State.offBooks, State.offCash, State.offSettings, Call.keepsBooks, Call.pays,
  Call.sets, dispatch_offBooks, dispatch_offCash, dispatch_offSettings
-/
import ProtectionPool.Books.StakeCalls

namespace ProtectionPool

open Checked

variable {D : Type}

/-- The state without the deposits, the claims and what is kept of them. -/
def State.offBooks (s : State D) : State D :=
  { s with
    totalStaked := 0
    totalAllocated := 0
    totalStakers := 0
    dailyOutflow := 0
    lastOutflowDay := 0
    dailyEntitlementTotal := 0
    lastEntitlementDay := 0
    dailyClaimCount := 0
    stakes := Store.empty
    claims := Store.empty
    overrides := Store.empty
    pointsBalances := Store.empty
    revoked := Store.empty }

/-- The same without the balances. -/
def State.offCash (s : State D) : State D := { s.offBooks with xlm := fun _ => 0 }

/-- The state without the settings the admin writes. -/
def State.offSettings (s : State D) : State D :=
  { s with
    admin := .contract 0
    oracle := .contract 0
    oraclePubkey := none
    coSigner := .contract 0
    poolCap := 0
    paused := false
    vault := none
    treasury := none
    deployBps := 0 }

/-- The calls that write to the books alone. -/
def Call.keepsBooks : Call D → Bool
  | .suspendStake _ | .unsuspendStake _ _ | .setBeneficiary _ _
  | .submitClaim _ _ _ _ _ _ _ _ | .revokeApproval _ _ _ _ _ _ _ | .unlockPendingClaim _
  | .tryReleaseQueuedClaim _ | .expireQueuedClaim _ | .approveClaim _ | .expirePendingApproval _
  | .expireStaleClaim _ | .cancelClaim _ | .approveOverride _ _ _ _ _
  | .cancelPendingOverride _ _ _ => true
  | _ => false

/-- The calls that pay besides. -/
def Call.pays : Call D → Bool
  | .stake _ _ _ | .withdraw _ _ | .emergencyExit _ | .claimStream _ _ => true
  | _ => false

/-- The calls that write settings alone. -/
def Call.sets : Call D → Bool
  | .setOracle _ | .setOraclePubkey _ | .setOracleIdentity _ _ | .setCoSigner _ | .transferAdmin _
  | .pause | .unpause | .setTreasury _ | .setPoolCap _ | .setVault _ | .setDeployBps _ => true
  | _ => false

variable {host : Host D} {env : Env} {s : State D}

/-! ### Results -/

theorem leaves_returningUnit {γ : Type} {view : State D → γ} {seen : γ} {x : Outcome (State D)}
    (leaves : Leaves view seen x) :
    Leaves (fun result => view result.2) seen (returningUnit (D := D) x) := by
  simp only [returningUnit, leaves_bind, leaves_ok]
  exact leaves

theorem leaves_returning {γ R : Type} {view : State D → γ} {seen : γ} {value : R → Output D}
    {x : Outcome (R × State D)} (leaves : Leaves (fun result => view result.2) seen x) :
    Leaves (fun result => view result.2) seen (returning value x) := by
  simp only [returning, leaves_bind, leaves_ok]
  exact leaves

/-! ### Parts of calls -/

theorem restoreStake_offBooks {record : StakeRecord D} {claim : Claim} :
    Leaves (fun restored => State.offBooks restored.2) s.offBooks
      (restoreStake s record claim) := by
  simp only [restoreStake, leaves_ite, leaves_bind, leaves_ok, implies_true, and_true]
  intros
  rfl

variable [DecidableEq D]

theorem admitClaim_offBooks {wallet : Address} {txHash : BytesN 32} {claimId : D}
    {entitlement : Int} {tier hackTimestamp : Nat} {record : StakeRecord D} {counted : Bool} :
    Leaves State.offBooks s.offBooks
      (admitClaim s wallet txHash claimId entitlement tier hackTimestamp record counted) := by
  simp only [admitClaim, leaves_bind, leaves_ok]
  intros
  rfl

theorem activateClaim_offBooks {record : StakeRecord D} {claim : Claim} :
    Leaves (fun activation => State.offBooks activation.state) s.offBooks
      (activateClaim s record claim) := by
  simp only [activateClaim, leaves_bind, leaves_ok]
  intros
  rfl

theorem overrideActivation_offBooks {record : StakeRecord D} {claim : Claim} :
    Leaves (fun activation => State.offBooks activation.state) s.offBooks
      (overrideActivation s record claim) := by
  rw [overrideActivation, leaves_ite]
  constructor
  · intro withdrawn
    simp only [reexecuteClaim, leaves_bind, leaves_ok, implies_true]
  · intro standing
    exact activateClaim_offBooks

theorem executeOverride_offBooks {claimId : D} {req : OverrideRequest} :
    Leaves State.offBooks s.offBooks (executeOverride s claimId req) := by
  simp only [executeOverride, leaves_bind, leaves_ok]
  intros
  rename_i activation activated
  have same := overrideActivation_offBooks activation activated
  exact same

/-! ### Calls -/

/-- A call that writes to the books alone leaves the rest. -/
theorem dispatch_offBooks {call : Call D} (keeps : call.keepsBooks = true) :
    Leaves (fun result => State.offBooks result.2) s.offBooks (dispatch host env s call) := by
  cases call with
  | submitClaim =>
      apply leaves_returning
      simp only [submitClaim, leaves_bind, leaves_ite, leaves_ok]
      intros
      constructor
      · intro queued
        rfl
      · intro direct admitted stepped
        exact admitClaim_offBooks admitted stepped
  | tryReleaseQueuedClaim =>
      apply leaves_returningUnit
      simp only [tryReleaseQueuedClaim, leaves_bind]
      intros
      exact admitClaim_offBooks
  | approveClaim =>
      apply leaves_returningUnit
      simp only [approveClaim, leaves_bind, leaves_ok]
      intros
      rename_i activation activated
      have same := activateClaim_offBooks activation activated
      exact same
  | cancelClaim =>
      apply leaves_returningUnit
      simp only [cancelClaim, leaves_bind, leaves_ok]
      intros
      rename_i restored restores
      have same := restoreStake_offBooks restored restores
      exact same
  | approveOverride =>
      apply leaves_returningUnit
      simp only [approveOverride, leaves_bind, leaves_ite, leaves_ok]
      intros
      constructor
      · intro ready executed stepped
        exact executeOverride_offBooks executed stepped
      · intro unready
        rfl
  | setBeneficiary | suspendStake | unsuspendStake | revokeApproval | unlockPendingClaim
  | expireQueuedClaim | expirePendingApproval | expireStaleClaim | cancelPendingOverride =>
      apply leaves_returningUnit
      simp only [setBeneficiary, suspendStake, unsuspendStake, revokeApproval, setApprovalRevoked,
        unlockPendingClaim, expireQueuedClaim, expirePendingApproval, expireStaleClaim,
        cancelPendingOverride, leaves_bind, leaves_ok]
      intros
      rfl
  | _ => cases keeps

/-- A call that writes settings leaves the rest. -/
theorem dispatch_offSettings {call : Call D} (sets : call.sets = true) :
    Leaves (fun result => State.offSettings result.2) s.offSettings (dispatch host env s call) := by
  cases call with
  | setOracle | setOraclePubkey | setOracleIdentity | setCoSigner | transferAdmin | pause
  | unpause | setTreasury | setPoolCap | setVault | setDeployBps =>
      apply leaves_returningUnit
      simp only [setOracle, setOraclePubkey, setOracleIdentity, setCoSigner, transferAdmin,
        setPaused, setTreasury, setPoolCap, setVault, setDeployBps, leaves_bind, leaves_ok]
      intros
      rfl
  | _ => cases sets

/-- A paying call leaves the rest but for the balances. -/
theorem dispatch_offCash {call : Call D} (inBooks : (call.keepsBooks || call.pays) = true) :
    Leaves (fun result => State.offCash result.2) s.offCash (dispatch host env s call) := by
  rintro ⟨output, s'⟩ stepped
  cases keeps : call.keepsBooks with
  | true =>
      exact congrArg (fun rest : State D => { rest with xlm := fun _ => 0 })
        (dispatch_offBooks keeps _ stepped)
  | false =>
      rw [keeps, Bool.false_or] at inBooks
      cases call with
      | stake =>
          rw [(stake_eq_ok.mp (returningUnit_eq_ok.mp stepped).1).state]
          rfl
      | withdraw =>
          obtain ⟨_, _, _, withdrawn⟩ := withdraw_eq_ok.mp (returningUnit_eq_ok.mp stepped).1
          rw [withdrawn.state]
          rfl
      | emergencyExit =>
          obtain ⟨_, exited⟩ := emergencyExit_eq_ok.mp (returningUnit_eq_ok.mp stepped).1
          rw [exited.state]
          rfl
      | claimStream =>
          obtain ⟨paid, streamed, -⟩ := returning_eq_ok.mp stepped
          obtain ⟨_, _, streamed⟩ := claimStream_eq_ok.mp streamed
          rw [streamed.state]
          rfl
      | _ => cases inBooks

/-! ### Views -/

variable {γ : Type}

/-- A view that reads neither the books nor the balances is left alone by both kinds of
calls. -/
theorem dispatch_leaves_offCash (view : State D → γ) (factors : ∀ s, view s = view s.offCash)
    {call : Call D} (inBooks : (call.keepsBooks || call.pays) = true) :
    Leaves (fun result => view result.2) (view s) (dispatch host env s call) := by
  intro result stepped
  calc view result.2 = view result.2.offCash := factors _
    _ = view s.offCash := congrArg view (dispatch_offCash inBooks result stepped)
    _ = view s := (factors s).symm

/-- A view that does not read the books is left alone by the calls that write to them. -/
theorem dispatch_leaves_offBooks (view : State D → γ) (factors : ∀ s, view s = view s.offBooks)
    {call : Call D} (keeps : call.keepsBooks = true) :
    Leaves (fun result => view result.2) (view s) (dispatch host env s call) := by
  intro result stepped
  calc view result.2 = view result.2.offBooks := factors _
    _ = view s.offBooks := congrArg view (dispatch_offBooks keeps result stepped)
    _ = view s := (factors s).symm

/-- A view that does not read the settings is left alone by the calls that write them. -/
theorem dispatch_leaves_offSettings (view : State D → γ)
    (factors : ∀ s, view s = view s.offSettings) {call : Call D} (sets : call.sets = true) :
    Leaves (fun result => view result.2) (view s) (dispatch host env s call) := by
  intro result stepped
  calc view result.2 = view result.2.offSettings := factors _
    _ = view s.offSettings := congrArg view (dispatch_offSettings sets result stepped)
    _ = view s := (factors s).symm

end ProtectionPool
