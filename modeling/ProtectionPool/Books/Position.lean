/-
Module: ProtectionPool.Books.Position
Purpose: The pool seen through its limits and its position at the vault: the cap,
  the deployment ratio, the configured vault, the shares and the principal
  deployed there, and the pool's share balance at each vault.  The calls that
  touch these are listed once, with the amount they deposit or the shares they
  redeem; every other call leaves all of them alone.
Trusted boundary: none
Main exports: Position, State.position, depositedXlm, redeemedShares,
  PositionStep, step_positions
-/
import ProtectionPool.Books.Frames
import ProtectionPool.Books.VaultCalls

namespace ProtectionPool

open Checked Proportion

variable {D : Type}

/-- The limits of the pool and its position at the vault. -/
structure Position where
  poolCap : Int
  deployBps : Int
  vault : Option Address
  totalDeployedShares : Int
  totalDeployedXlm : Int
  vaultShares : Address → Int

/-- The position of a state. -/
def State.position (s : State D) : Position where
  poolCap := s.poolCap
  deployBps := s.deployBps
  vault := s.vault
  totalDeployedShares := s.totalDeployedShares
  totalDeployedXlm := s.totalDeployedXlm
  vaultShares := s.vaultShares

namespace Position

/-- A deposit is booked at the amount asked for, with the shares that were
minted. -/
def afterDeposit (p : Position) (vault : Address) (amount minted : Int) : Position :=
  { p with
    totalDeployedShares := p.totalDeployedShares + minted
    totalDeployedXlm := p.totalDeployedXlm + amount
    vaultShares := Function.update p.vaultShares vault (p.vaultShares vault + minted) }

/-- A redemption is booked at the shares asked for and the principal they stand
for. -/
def afterRedemption (p : Position) (vault : Address) (shares burned : Int) : Position :=
  { p with
    totalDeployedShares := p.totalDeployedShares - shares
    totalDeployedXlm :=
      p.totalDeployedXlm - slice p.totalDeployedXlm shares p.totalDeployedShares
    vaultShares := Function.update p.vaultShares vault (p.vaultShares vault - burned) }

end Position

/-! ### What a call asks of the vault -/

/-- The XLM a call deposits, if it deposits any. -/
def depositedXlm (host : Host D) (s : State D) : Call D → Option Int
  | .deployToVault amount _ => some amount
  | .autoDeployLiquidity =>
      match idleDeployable host s with
      | .ok amount => if amount = 0 then none else some amount
      | .error _ => none
  | _ => none

/-- The shares a call redeems, if it redeems any. -/
def redeemedShares (host : Host D) (s : State D) : Call D → Option Int
  | .provideLiquidity shares _ => some shares
  | .extractYield shares _ => some shares
  | .ensureLiquidity =>
      match rebalanceShortfall host s with
      | .ok shortfall =>
          if shortfall = 0 then none
          else
            match sharesNeeded s shortfall with
            | .ok shares => some shares
            | .error _ => none
      | .error _ => none
  | _ => none

/-- The calls that set a limit or the vault. -/
def Call.configures : Call D → Bool
  | .setPoolCap _ | .setVault _ | .setDeployBps _ => true
  | _ => false

/-- The actions that neither configure the position nor move it. -/
def LeavesPosition (host : Host D) (s : State D) : Action D → Prop
  | .invoke _ call =>
      call.configures = false ∧ depositedXlm host s call = none ∧
        redeemedShares host s call = none
  | .moveShares _ _ => False
  | .closeLedger _ _ | .moveXlm _ _ => True

/-- What an action makes of the position. -/
inductive PositionStep (host : Host D) (s : State D) : Action D → Position → Prop where
  | kept {action : Action D} (unmoved : LeavesPosition host s action) :
      PositionStep host s action s.position
  | capSet {env : Env} {newCap : Int} (positive : 0 < newCap) (covers : s.totalStaked ≤ newCap) :
      PositionStep host s (.invoke env (.setPoolCap newCap)) { s.position with poolCap := newCap }
  | vaultSet {env : Env} {vault : Address} (closed : s.totalDeployedShares ≤ 0) :
      PositionStep host s (.invoke env (.setVault vault)) { s.position with vault := some vault }
  | deployBpsSet {env : Env} {bps : Int} (bounds : 0 ≤ bps ∧ bps ≤ maxDeployBps) :
      PositionStep host s (.invoke env (.setDeployBps bps)) { s.position with deployBps := bps }
  | deposited {env : Env} {call : Call D} {amount : Int} {vault : Address}
      (asked : depositedXlm host s call = some amount) (positive : 0 < amount)
      (configured : s.vault = some vault) :
      PositionStep host s (.invoke env call)
        (s.position.afterDeposit vault amount env.vault.minted)
  | redeemed {env : Env} {call : Call D} {shares : Int} {vault : Address}
      (asked : redeemedShares host s call = some shares)
      (positive : 0 < shares) (within : shares ≤ s.totalDeployedShares)
      (configured : s.vault = some vault) :
      PositionStep host s (.invoke env call)
        (s.position.afterRedemption vault shares env.vault.burned)
  | sharesMoved {vault : Address} {balance : Int} :
      PositionStep host s (.moveShares vault balance)
        { s.position with vaultShares := Function.update s.vaultShares vault balance }

variable {host : Host D} {env : Env} {s s' : State D} {output : Output D}

/-! ### Calls that leave the position alone -/

theorem withdrawYield_position {amount : Int} :
    Leaves State.position s.position (withdrawYield host env s amount) := by
  intro s' stepped
  obtain ⟨_, _, drawn⟩ := withdrawYield_ok stepped
  rw [drawn.state]
  rfl

theorem sendYield_position {treasury : Address} {yieldAmount : Int} :
    Leaves State.position s.position (sendYield host env s treasury yieldAmount) := by
  intro s' sent
  rcases sendYield_ok sent with ⟨-, -, rfl⟩ | ⟨-, rfl⟩
  · rfl
  · rfl

variable [DecidableEq D]

/-- A call that neither configures the position nor asks anything of the vault
leaves it alone. -/
theorem dispatch_position {call : Call D} (quiet : call.configures = false)
    (noDeposit : depositedXlm host s call = none)
    (noRedemption : redeemedShares host s call = none) :
    Leaves (fun result => State.position result.2) s.position (dispatch host env s call) := by
  cases call with
  | stake | withdraw | emergencyExit | submitClaim | tryReleaseQueuedClaim | approveClaim
  | claimStream | cancelClaim | approveOverride | setBeneficiary | suspendStake | unsuspendStake
  | revokeApproval | unlockPendingClaim | expireQueuedClaim | expirePendingApproval
  | expireStaleClaim | cancelPendingOverride => exact dispatch_leaves_offCash _ (fun _ => rfl) rfl
  | withdrawYield => exact leaves_returningUnit withdrawYield_position
  | setOracle | setOraclePubkey | setOracleIdentity | setCoSigner | transferAdmin | pause
  | unpause | setTreasury =>
      apply leaves_returningUnit
      simp only [setOracle, setOraclePubkey, setOracleIdentity, setCoSigner, transferAdmin,
        setPaused, setTreasury, leaves_bind, leaves_ok]
      intros
      rfl
  | autoDeployLiquidity =>
      apply leaves_returning
      rintro ⟨gained, s'⟩ stepped
      obtain ⟨-, amount, computed, ⟨-, -, rfl⟩ | ⟨positive, -⟩⟩ := autoDeployLiquidity_ok stepped
      · rfl
      · simp only [depositedXlm, computed, positive.ne', if_false] at noDeposit
        cases noDeposit
  | ensureLiquidity =>
      apply leaves_returning
      rintro ⟨received, s'⟩ stepped
      obtain ⟨shortfall, computed, ⟨-, -, rfl⟩ | ⟨positive, -, shares, vault, needed, -⟩⟩ :=
        ensureLiquidity_ok stepped
      · rfl
      · simp only [redeemedShares, computed, positive.ne', if_false, needed] at noRedemption
        cases noRedemption
  | deployToVault => cases noDeposit
  | provideLiquidity | extractYield => cases noRedemption
  | setPoolCap | setVault | setDeployBps => cases quiet

/-! ### Every step -/

theorem dispatch_positions {call : Call D}
    (stepped : dispatch host env s call = .ok (output, s')) :
    PositionStep host s (.invoke env call) s'.position := by
  cases call with
  | setPoolCap newCap =>
      simp [dispatch, setPoolCap] at stepped
      obtain ⟨⟨-, positive, covers, rfl⟩, -⟩ := stepped
      exact .capSet positive covers
  | setVault vault =>
      simp [dispatch, setVault] at stepped
      obtain ⟨⟨-, closed, rfl⟩, -⟩ := stepped
      exact .vaultSet closed
  | setDeployBps bps =>
      simp [dispatch, setDeployBps] at stepped
      obtain ⟨⟨-, nonneg, bounded, rfl⟩, -⟩ := stepped
      exact .deployBpsSet ⟨nonneg, bounded⟩
  | deployToVault amount minSharesOut =>
      obtain ⟨gained, stepped, -⟩ := returning_eq_ok.mp stepped
      obtain ⟨positive, vault, configured, -, rfl⟩ := deployToVault_ok stepped
      exact .deposited rfl positive configured
  | autoDeployLiquidity =>
      obtain ⟨gained, stepped, -⟩ := returning_eq_ok.mp stepped
      obtain ⟨-, amount, computed, ⟨none, -, rfl⟩ | ⟨positive, vault, configured, -, rfl⟩⟩ :=
        autoDeployLiquidity_ok stepped
      · refine .kept ⟨rfl, ?_, rfl⟩
        simp only [depositedXlm, computed, none, if_true]
      · refine .deposited ?_ positive configured
        simp only [depositedXlm, computed, positive.ne', if_false]
  | provideLiquidity shares minXlmOut =>
      obtain ⟨received, stepped, -⟩ := returning_eq_ok.mp stepped
      obtain ⟨⟨positive, within⟩, -, vault, configured, -, rfl⟩ := provideLiquidity_ok stepped
      exact .redeemed rfl positive within configured
  | ensureLiquidity =>
      obtain ⟨received, stepped, -⟩ := returning_eq_ok.mp stepped
      obtain ⟨shortfall, computed, ⟨none, -, rfl⟩ |
        ⟨short, -, shares, vault, needed, -, ⟨positive, within⟩, -, configured, -, rfl⟩⟩ :=
        ensureLiquidity_ok stepped
      · refine .kept ⟨rfl, rfl, ?_⟩
        simp only [redeemedShares, computed, none, if_true]
      · refine .redeemed ?_ positive within configured
        simp only [redeemedShares, computed, short.ne', if_false, needed]
  | extractYield shares minXlmOut =>
      obtain ⟨sent, stepped, -⟩ := returning_eq_ok.mp stepped
      obtain ⟨⟨positive, within⟩, -, vault, treasury, configured, -, -, paid⟩ :=
        extractYield_ok stepped
      rw [sendYield_position _ paid]
      exact .redeemed rfl positive within configured
  | _ =>
      have same : s'.position = s.position := dispatch_position rfl rfl rfl _ stepped
      rw [same]
      exact .kept ⟨rfl, rfl, rfl⟩

/-- Every step of the deployed contract makes of the position what its action
asks for. -/
theorem step_positions {action : Action D}
    (stepped : poolStep host s action = .ok (output, s')) :
    PositionStep host s action s'.position := by
  cases action with
  | invoke env call => exact dispatch_positions stepped
  | closeLedger sequence timestamp =>
      obtain ⟨-, -, rfl⟩ := closeLedger_eq_ok.mp (returningUnit_eq_ok.mp stepped).1
      exact .kept trivial
  | moveXlm holder balance =>
      obtain ⟨-, -, rfl⟩ := moveXlm_eq_ok.mp (returningUnit_eq_ok.mp stepped).1
      exact .kept trivial
  | moveShares vault balance =>
      obtain rfl := moveShares_eq_ok.mp (returningUnit_eq_ok.mp stepped).1
      exact .sharesMoved

omit [DecidableEq D] in
/-- A pool just deployed has a positive cap and no position. -/
theorem deployed_position (deployed : Deployed host s) :
    0 < s.poolCap ∧ s.deployBps = 0 ∧ s.vault = none ∧ s.totalDeployedShares = 0 ∧
      s.totalDeployedXlm = 0 := by
  obtain ⟨env, _, _, xlm, _, _, _, _, _, _, _, -, -, -, built⟩ := deployed
  simp [initializePool] at built
  obtain ⟨-, -, positive, -, rfl⟩ := built
  exact ⟨positive, rfl, rfl, rfl, rfl⟩

end ProtectionPool
