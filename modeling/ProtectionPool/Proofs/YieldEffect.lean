/-
Module: ProtectionPool.Proofs.YieldEffect
Purpose: What each vault call makes of the slack, the XLM the pool holds or has
  deployed beyond the staked principal.  Deposits leave it alone, a redemption adds
  its gain, and what the treasury takes comes out of it unless the treasury is the
  pool itself.  A loss is marked down exactly, short of the clamp at the least
  `i128`.
Trusted boundary: the vault pulls exactly the amount a deposit asks for
Main exports: slack, unmarked, PullsRequested, SlackEffects, yield_layer_effects
-/
import ProtectionPool.Books.Position
import ProtectionPool.Proofs.Backing
import ProtectionPool.Proofs.Treasury

namespace ProtectionPool

open Checked

variable {D : Type}

/-- The XLM held and deployed beyond the staked principal. -/
def slack (host : Host D) (s : State D) : Int :=
  liquidBalance host s + s.totalDeployedXlm - s.totalStaked

/-- What a redemption loses of the principal it stands for. -/
def shortfallOf (principal received : Int) : Int := max (principal - received) 0

/-- What a redemption brings in beyond the principal it stands for. -/
def gainOf (principal received : Int) : Int := max (received - principal) 0

/-- The part of a redemption's loss that the clamp of the stake aggregate leaves
unmarked. -/
def unmarked (s : State D) (principal received : Int) : Int :=
  markedStake s principal received - (s.totalStaked - shortfallOf principal received)

/-- The vault pulls exactly the amount a call deposits. -/
def PullsRequested (host : Host D) (s : State D) (env : Env) (call : Call D) : Prop :=
  ∀ amount ∈ depositedXlm host s call, env.vault.pulled = amount

instance (host : Host D) (s : State D) (env : Env) (call : Call D) :
    Decidable (PullsRequested host s env call) :=
  inferInstanceAs (Decidable (∀ amount ∈ depositedXlm host s call, _))

/-- The principal the shares a call redeems stand for. -/
def redeemedPrincipal (host : Host D) (s : State D) (call : Call D) : Int :=
  match redeemedShares host s call with
  | some shares => principalOf s shares
  | none => 0

/-- The calls of the vault module other than the withdrawal of yield. -/
def Call.keepsSlack : Call D → Bool
  | .setVault _ | .setTreasury _ | .setDeployBps _ | .deployToVault _ _ | .autoDeployLiquidity
  | .provideLiquidity _ _ | .ensureLiquidity | .extractYield _ _ => true
  | _ => false

/-- The effect of every vault call on the slack. -/
structure SlackEffects [DecidableEq D] (host : Host D) (s : State D) : Prop where
  deploy : ∀ {env amount minSharesOut gained s'},
    PullsRequested host s env (.deployToVault amount minSharesOut) →
      deployToVault host env s amount minSharesOut = .ok (gained, s') →
        slack host s' = slack host s
  autoDeploy : ∀ {env gained s'}, PullsRequested host s env .autoDeployLiquidity →
    autoDeployLiquidity host env s = .ok (gained, s') → slack host s' = slack host s
  provide : ∀ {env shares minXlmOut received s'},
    provideLiquidity host env s shares minXlmOut = .ok (received, s') →
      slack host s' =
        slack host s + gainOf (principalOf s shares) received -
          unmarked s (principalOf s shares) received
  ensure : ∀ {env received s'}, ensureLiquidity host env s = .ok (received, s') →
    slack host s' =
      slack host s + gainOf (redeemedPrincipal host s .ensureLiquidity) received -
        unmarked s (redeemedPrincipal host s .ensureLiquidity) received
  extract : ∀ {env shares minXlmOut sent s'},
    extractYield host env s shares minXlmOut = .ok (sent, s') →
      slack host s' =
        slack host s + (sent - leavesPool host s sent) -
          unmarked s (principalOf s shares) env.vault.paid
  withdraw : ∀ {env amount s'}, withdrawYield host env s amount = .ok s' →
    slack host s' = slack host s - leavesPool host s amount ∧ s'.totalAllocated ≤ slack host s'
  notLowered : ∀ {env call output s'}, call.keepsSlack = true →
    PullsRequested host s env call →
      (∀ shares ∈ redeemedShares host s call,
        InI128 (s.totalStaked - shortfallOf (principalOf s shares) env.vault.paid)) →
        dispatch host env s call = .ok (output, s') → slack host s ≤ slack host s'

variable {host : Host D} {env : Env} {s s' : State D} {vault : Address}

/-! ### The two movements -/

/-- A loss is marked down in full where the aggregate has room for it. -/
theorem unmarked_eq_zero {principal received : Int}
    (fits : InI128 (s.totalStaked - shortfallOf principal received)) :
    unmarked s principal received = 0 := by
  unfold unmarked markedStake shortfallOf at *
  split_ifs with lossy
  · rw [max_eq_left (by omega)] at fits ⊢
    rw [saturatingSub, saturateI128_of_fits fits, sub_self]
  · rw [max_eq_right (by omega)]
    omega

/-- Where nothing is lost there is nothing to mark down. -/
theorem unmarked_of_covered {principal received : Int} (covered : principal ≤ received) :
    unmarked s principal received = 0 := by
  rw [unmarked, markedStake, if_neg (not_lt.mpr covered), shortfallOf, max_eq_right (by omega)]
  omega

/-- A deposit of what was pulled leaves the slack alone. -/
theorem slack_afterDeposit {amount : Int} (pulls : env.vault.pulled = amount) :
    slack host (s.afterDeposit host vault env.vault amount) = slack host s := by
  rw [slack, liquidBalance_afterDeposit, slack, pulls]
  simp only [State.afterDeposit]
  omega

/-- A redemption adds its gain to the slack. -/
theorem slack_afterRedemption {reply : VaultReply} {shares : Int} :
    slack host (s.afterRedemption host vault reply shares) =
      slack host s + gainOf (principalOf s shares) reply.paid -
        unmarked s (principalOf s shares) reply.paid := by
  rw [slack, liquidBalance_afterRedemption, slack, unmarked, gainOf, shortfallOf]
  simp only [State.afterRedemption]
  omega

/-! ### The calls -/

theorem deployToVault_slack {amount minSharesOut gained : Int}
    (pulls : PullsRequested host s env (.deployToVault amount minSharesOut))
    (stepped : deployToVault host env s amount minSharesOut = .ok (gained, s')) :
    slack host s' = slack host s := by
  obtain ⟨-, vault, -, -, rfl⟩ := deployToVault_ok stepped
  exact slack_afterDeposit (pulls amount rfl)

theorem autoDeployLiquidity_slack {gained : Int}
    (pulls : PullsRequested host s env .autoDeployLiquidity)
    (stepped : autoDeployLiquidity host env s = .ok (gained, s')) :
    slack host s' = slack host s := by
  obtain ⟨-, amount, computed, ⟨-, -, rfl⟩ | ⟨positive, vault, -, -, rfl⟩⟩ :=
    autoDeployLiquidity_ok stepped
  · rfl
  · apply slack_afterDeposit
    apply pulls
    simp only [depositedXlm, computed, positive.ne', if_false, Option.mem_def]

theorem provideLiquidity_slack {shares minXlmOut received : Int}
    (stepped : provideLiquidity host env s shares minXlmOut = .ok (received, s')) :
    slack host s' =
      slack host s + gainOf (principalOf s shares) received -
        unmarked s (principalOf s shares) received := by
  obtain ⟨-, -, vault, -, rfl, rfl⟩ := provideLiquidity_ok stepped
  exact slack_afterRedemption

theorem ensureLiquidity_slack {received : Int}
    (stepped : ensureLiquidity host env s = .ok (received, s')) :
    slack host s' =
      slack host s + gainOf (redeemedPrincipal host s .ensureLiquidity) received -
        unmarked s (redeemedPrincipal host s .ensureLiquidity) received := by
  obtain ⟨shortfall, computed, ⟨none, rfl, rfl⟩ |
    ⟨short, -, shares, vault, needed, -, -, -, -, rfl, rfl⟩⟩ := ensureLiquidity_ok stepped
  · simp only [redeemedPrincipal, redeemedShares, computed, none, if_true]
    rw [unmarked_of_covered le_rfl, gainOf, sub_self, max_self, add_zero, sub_zero]
  · simp only [redeemedPrincipal, redeemedShares, computed, short.ne', if_false, needed]
    exact slack_afterRedemption

/-- What leaves the pool is at most what the treasury is sent. -/
theorem leavesPool_le {sent : Int} (nonneg : 0 ≤ sent) : leavesPool host s sent ≤ sent := by
  unfold leavesPool
  split_ifs
  · exact nonneg
  · exact le_rfl

variable [DecidableEq D]

/-- What the treasury is sent comes out of the slack unless it stays in the pool. -/
theorem sendYield_slack {treasury : Address} {sent : Int} (nonneg : 0 ≤ sent)
    (recipient : s.treasury = some treasury)
    (paid : sendYield host env s treasury sent = .ok s') :
    slack host s' = slack host s - leavesPool host s sent := by
  have controls := (sendYield_controlled recipient paid).2
  rw [max_eq_left nonneg] at controls
  have staked : s'.totalStaked = s.totalStaked := by
    rcases sendYield_ok paid with ⟨-, -, rfl⟩ | ⟨-, rfl⟩
    · rfl
    · rfl
  simp only [slack, staked]
  simp only [controlled] at controls
  omega

theorem extractYield_slack {shares minXlmOut sent : Int}
    (stepped : extractYield host env s shares minXlmOut = .ok (sent, s')) :
    slack host s' =
      slack host s + (sent - leavesPool host s sent) -
        unmarked s (principalOf s shares) env.vault.paid := by
  obtain ⟨-, -, vault, treasury, -, recipient, gained, paid⟩ := extractYield_ok stepped
  have nonneg : 0 ≤ sent := by
    rw [gained]
    exact le_max_right _ _
  have gain : gainOf (principalOf s shares) env.vault.paid = sent := gained.symm
  have redeemed : slack host (s.afterRedemption host vault env.vault shares) =
      slack host s + gainOf (principalOf s shares) env.vault.paid -
        unmarked s (principalOf s shares) env.vault.paid := slack_afterRedemption
  have left := sendYield_slack nonneg
    (s := s.afterRedemption host vault env.vault shares) recipient paid
  have same : leavesPool host (s.afterRedemption host vault env.vault shares) sent =
      leavesPool host s sent := rfl
  rw [left, redeemed, gain, same]
  omega

theorem withdrawYield_slack {amount : Int}
    (stepped : withdrawYield host env s amount = .ok s') :
    slack host s' = slack host s - leavesPool host s amount ∧
      s'.totalAllocated ≤ slack host s' := by
  obtain ⟨treasury, available, drawn⟩ := withdrawYield_ok stepped
  obtain ⟨-, positive, recipient, computed, within, -, rfl⟩ := drawn
  have yields := yieldBalance_ok computed
  have controls : controlled host (s.afterYield host treasury amount) =
      controlled host s - leavesPool host s amount := (afterYield_controlled recipient).2
  have staysWithin : leavesPool host s amount ≤ amount := leavesPool_le positive.le
  have staked : (s.afterYield host treasury amount).totalStaked = s.totalStaked := rfl
  have allocated : (s.afterYield host treasury amount).totalAllocated = s.totalAllocated := rfl
  simp only [surplus, controlled] at yields controls
  simp only [slack, staked, allocated]
  omega

theorem gainOf_nonneg (principal received : Int) : 0 ≤ gainOf principal received :=
  le_max_right _ _

/-- No vault call but the withdrawal of yield lowers the slack, as long as a loss is
marked down in full. -/
theorem dispatch_slack_le {call : Call D} {output : Output D} (keeps : call.keepsSlack = true)
    (pulls : PullsRequested host s env call)
    (fits : ∀ shares ∈ redeemedShares host s call,
      InI128 (s.totalStaked - shortfallOf (principalOf s shares) env.vault.paid))
    (stepped : dispatch host env s call = .ok (output, s')) : slack host s ≤ slack host s' := by
  cases call with
  | setVault =>
      simp [dispatch, setVault] at stepped
      obtain ⟨⟨-, -, rfl⟩, -⟩ := stepped
      exact le_rfl
  | setDeployBps =>
      simp [dispatch, setDeployBps] at stepped
      obtain ⟨⟨-, -, -, rfl⟩, -⟩ := stepped
      exact le_rfl
  | setTreasury =>
      simp [dispatch, setTreasury] at stepped
      obtain ⟨⟨-, rfl⟩, -⟩ := stepped
      exact le_rfl
  | deployToVault =>
      obtain ⟨gained, stepped, -⟩ := returning_eq_ok.mp stepped
      exact (deployToVault_slack pulls stepped).ge
  | autoDeployLiquidity =>
      obtain ⟨gained, stepped, -⟩ := returning_eq_ok.mp stepped
      exact (autoDeployLiquidity_slack pulls stepped).ge
  | provideLiquidity shares =>
      obtain ⟨received, stepped, -⟩ := returning_eq_ok.mp stepped
      obtain ⟨-, -, vault, -, rfl, -⟩ := provideLiquidity_ok stepped
      rw [provideLiquidity_slack stepped, unmarked_eq_zero (fits shares rfl), sub_zero]
      exact le_add_of_nonneg_right (gainOf_nonneg _ _)
  | ensureLiquidity =>
      obtain ⟨received, stepped, -⟩ := returning_eq_ok.mp stepped
      obtain ⟨shortfall, computed, ⟨none, -, rfl⟩ |
        ⟨short, -, shares, vault, needed, -, -, -, -, rfl, rfl⟩⟩ := ensureLiquidity_ok stepped
      · exact le_rfl
      · have asked : redeemedShares host s .ensureLiquidity = some shares := by
          simp only [redeemedShares, computed, short.ne', if_false, needed]
        rw [slack_afterRedemption, unmarked_eq_zero (fits shares asked), sub_zero]
        exact le_add_of_nonneg_right (gainOf_nonneg _ _)
  | extractYield shares =>
      obtain ⟨sent, stepped, -⟩ := returning_eq_ok.mp stepped
      obtain ⟨-, -, vault, treasury, -, -, gained, -⟩ := extractYield_ok stepped
      have nonneg : 0 ≤ sent := by
        rw [gained]
        exact le_max_right _ _
      rw [extractYield_slack stepped, unmarked_eq_zero (fits shares rfl), sub_zero]
      exact le_add_of_nonneg_right (sub_nonneg.mpr (leavesPool_le nonneg))
  | _ => cases keeps

/-- What every vault call makes of the slack, from every state and for every
argument. -/
theorem yield_layer_effects (host : Host D) (s : State D) : SlackEffects host s where
  deploy := deployToVault_slack
  autoDeploy := autoDeployLiquidity_slack
  provide := provideLiquidity_slack
  ensure := ensureLiquidity_slack
  extract := extractYield_slack
  withdraw := withdrawYield_slack
  notLowered := dispatch_slack_le

/-- From a position with 5000 of slack a redemption at a gain of 2500 is extracted, a
redemption at a loss of 2500 leaves the slack, and 5000 are withdrawn. -/
theorem yield_layer_effects_sample :
    (∃ s', extractYield sampleHost (.of [party 1] ⟨0, 0, 15000, 10000⟩) samplePosition 10000 0 =
        .ok (2500, s') ∧ slack sampleHost s' = 5000) ∧
      (∃ s', provideLiquidity sampleHost (.of [party 1] ⟨0, 0, 10000, 10000⟩) samplePosition
          10000 0 = .ok (10000, s') ∧ slack sampleHost s' = 5000) ∧
      ∃ s', withdrawYield sampleHost (.of [party 1] ⟨0, 0, 0, 0⟩) samplePosition 5000 = .ok s' ∧
        slack sampleHost s' = 0 := by
  have effects := yield_layer_effects sampleHost samplePosition
  refine ⟨?_, ?_, ?_⟩
  · obtain ⟨⟨sent, s'⟩, stepped, rfl⟩ : ∃ result, extractYield sampleHost
        (.of [party 1] ⟨0, 0, 15000, 10000⟩) samplePosition 10000 0 = .ok result ∧
          result.1 = 2500 := of_decide_eq_true (by decide +kernel)
    refine ⟨s', stepped, (effects.extract stepped).trans ?_⟩
    decide +kernel
  · obtain ⟨⟨received, s'⟩, stepped, rfl⟩ : ∃ result, provideLiquidity sampleHost
        (.of [party 1] ⟨0, 0, 10000, 10000⟩) samplePosition 10000 0 = .ok result ∧
          result.1 = 10000 := of_decide_eq_true (by decide +kernel)
    refine ⟨s', stepped, (effects.provide stepped).trans ?_⟩
    decide +kernel
  · obtain ⟨s', stepped⟩ := exists_eq_ok (x := withdrawYield sampleHost
      (.of [party 1] ⟨0, 0, 0, 0⟩) samplePosition 5000) (by decide +kernel)
    refine ⟨s', stepped, (effects.withdraw stepped).1.trans ?_⟩
    decide +kernel

/-- Where the treasury is the pool itself the yield that is withdrawn stays in the
pool, and where the stake aggregate is at the least `i128` a loss of 2500 is not
marked down. -/
theorem own_treasury_and_clamp :
    (∃ log s s', (poolSystem sampleHost).Run System.anyStep log s ∧
      withdrawYield sampleHost (.of [party 1] ⟨0, 0, 0, 0⟩) s 5000 = .ok s' ∧
        slack sampleHost s' ≠ slack sampleHost s - 5000) ∧
      ∃ result, provideLiquidity sampleHost (.of [party 1] ⟨0, 0, 10000, 10000⟩)
          { samplePosition with totalStaked := i128Min } 10000 0 = .ok result ∧
        slack sampleHost result.2 <
          slack sampleHost { samplePosition with totalStaked := i128Min } := by
  constructor
  · obtain ⟨log, s, run, ends⟩ := System.exists_run_of_replay (poolSystem sampleHost)
      System.anyStep samplePool_deployed
      [callBy 12 (.stake (party 12) 100000 (party 22)), .moveXlm sampleHost.contract 105000,
        callBy 1 (.setTreasury sampleHost.contract)]
      (fun _ s => ∃ s', withdrawYield sampleHost (.of [party 1] ⟨0, 0, 0, 0⟩) s 5000 = .ok s' ∧
        slack sampleHost s' ≠ slack sampleHost s - 5000) (by decide +kernel)
    obtain ⟨s', stepped, differs⟩ := ends
    exact ⟨log, s, s', run, stepped, differs⟩
  · exact of_decide_eq_true (by decide +kernel)

end ProtectionPool
