/-
Module: ProtectionPool.Books.VaultCalls
Purpose: What a successful vault call says: the amounts it computed, the checks it
  passed, and the state it leaves.  One lemma for each call; the later modules
  use these and not the calls' own text.
Trusted boundary: none
Main exports: State.afterDeposit, State.afterRedemption, depositAndBook_ok,
  redeem_ok, redeem_of_checks, idleDeployable_ok, deployToVault_ok, autoDeployLiquidity_ok,
  ensureLiquidity_ok, extractYield_ok, samplePosition
-/
import ProtectionPool.Library.Proportion
import ProtectionPool.Books.Refinement

namespace ProtectionPool

open Checked Proportion

variable {D : Type}

/-! ### The two kinds of movement -/

/-- The state after a deposit: what the vault pulled is gone, what it minted is
held, and the amount asked for is booked. -/
def State.afterDeposit (host : Host D) (s : State D) (vault : Address) (reply : VaultReply)
    (amount : Int) : State D :=
  { s with
    xlm := Function.update s.xlm host.contract (liquidBalance host s - reply.pulled)
    vaultShares := Function.update s.vaultShares vault (s.vaultShares vault + reply.minted)
    totalDeployedShares := s.totalDeployedShares + reply.minted
    totalDeployedXlm := s.totalDeployedXlm + amount }

/-- The stake aggregate after a redemption: a shortfall is marked down. -/
def markedStake (s : State D) (principal received : Int) : Int :=
  if received < principal then saturatingSub s.totalStaked (principal - received)
  else s.totalStaked

/-- The state after a redemption: what the vault paid is held, what it burned is
gone, and the shares and the principal they stand for are taken off the
books. -/
def State.afterRedemption (host : Host D) (s : State D) (vault : Address) (reply : VaultReply)
    (shares : Int) : State D :=
  { s with
    xlm := Function.update s.xlm host.contract (liquidBalance host s + reply.paid)
    vaultShares := Function.update s.vaultShares vault (s.vaultShares vault - reply.burned)
    totalDeployedShares := s.totalDeployedShares - shares
    totalDeployedXlm := s.totalDeployedXlm - principalOf s shares
    totalStaked := markedStake s (principalOf s shares) reply.paid }

variable {host : Host D} {env : Env} {s s' : State D} {vault : Address}

@[simp] theorem liquidBalance_afterDeposit {reply : VaultReply} {amount : Int} :
    liquidBalance host (s.afterDeposit host vault reply amount) =
      liquidBalance host s - reply.pulled := by
  simp [State.afterDeposit, liquidBalance]

@[simp] theorem liquidBalance_afterRedemption {reply : VaultReply} {shares : Int} :
    liquidBalance host (s.afterRedemption host vault reply shares) =
      liquidBalance host s + reply.paid := by
  simp [State.afterRedemption, liquidBalance]

/-- The principal that shares stand for is their slice of the deployed XLM. -/
theorem principalOf_eq_slice (s : State D) (shares : Int) :
    principalOf s shares = slice s.totalDeployedXlm shares s.totalDeployedShares := rfl

/-! ### Deposits -/

theorem depositAndBook_ok {amount minSharesOut gained : Int}
    (stepped : depositAndBook host env s vault amount minSharesOut = .ok (gained, s')) :
    gained = env.vault.minted ∧ s' = s.afterDeposit host vault env.vault amount := by
  simp only [depositAndBook, bind_eq_ok, i128_eq_ok, vaultDeposit_eq_ok, Except.ok.injEq,
    Prod.mk.injEq] at stepped
  obtain ⟨_, ⟨-, -, rfl⟩, _, ⟨-, rfl⟩, _, -, _, ⟨-, rfl⟩, _, ⟨-, rfl⟩, rfl, rfl⟩ := stepped
  simp [State.afterDeposit, liquidBalance]

theorem deployToVault_ok {amount minSharesOut gained : Int}
    (stepped : deployToVault host env s amount minSharesOut = .ok (gained, s')) :
    0 < amount ∧ ∃ vault, s.vault = some vault ∧ gained = env.vault.minted ∧
      s' = s.afterDeposit host vault env.vault amount := by
  simp only [deployToVault, bind_eq_ok, rejectIf_eq_ok, okOr_eq_ok, i128_eq_ok] at stepped
  obtain ⟨_, -, _, -, _, positive, vault, configured, _, -, _, -, _, -, _, -, _, -, deposited⟩ :=
    stepped
  exact ⟨not_le.mp positive, vault, configured, depositAndBook_ok deposited⟩

/-- The part of the pool's liquid XLM that may be deployed: within what claims do not
reserve and within the room below the ceiling. -/
theorem idleDeployable_ok {amount : Int} (computed : idleDeployable host s = .ok amount) :
    0 ≤ amount ∧ InI128 (liquidBalance host s - s.totalAllocated) ∧
      (0 < amount → ∃ ceiling, deployCeiling s = .ok ceiling ∧
        InI128 (ceiling - s.totalDeployedXlm) ∧
        amount ≤ liquidBalance host s - s.totalAllocated ∧
        amount ≤ ceiling - s.totalDeployedXlm) := by
  simp only [idleDeployable, bind_eq_ok, i128_eq_ok] at computed
  obtain ⟨surplus, ⟨fits, rfl⟩, computed⟩ := computed
  rcases ite_eq_ok.mp computed with ⟨none, computed⟩ | ⟨some, computed⟩
  · obtain rfl := Except.ok.inj computed
    exact ⟨le_rfl, fits, fun positive => absurd positive (lt_irrefl 0)⟩
  · simp only [bind_eq_ok, i128_eq_ok, Except.ok.injEq] at computed
    obtain ⟨ceiling, bounded, room, ⟨roomFits, rfl⟩, rfl⟩ := computed
    refine ⟨le_min (le_max_right _ _) (le_max_right _ _), fits, ?_⟩
    intro positive
    refine ⟨ceiling, bounded, roomFits, ?_, ?_⟩ <;> omega

theorem autoDeployLiquidity_ok {gained : Int}
    (stepped : autoDeployLiquidity host env s = .ok (gained, s')) :
    (0 < s.totalDeployedShares ∧ 0 < s.totalDeployedXlm) ∧
      ∃ amount, idleDeployable host s = .ok amount ∧
        ((amount = 0 ∧ gained = 0 ∧ s' = s) ∨
          (0 < amount ∧ ∃ vault, s.vault = some vault ∧ gained = env.vault.minted ∧
            s' = s.afterDeposit host vault env.vault amount)) := by
  simp only [autoDeployLiquidity, bind_eq_ok, rejectIf_eq_ok] at stepped
  obtain ⟨_, -, _, opened, amount, computed, outcome⟩ := stepped
  refine ⟨⟨?_, ?_⟩, amount, computed, ?_⟩
  · exact not_le.mp fun closed => opened (.inl closed)
  · exact not_le.mp fun closed => opened (.inr closed)
  rcases ite_eq_ok.mp outcome with ⟨none, outcome⟩ | ⟨some, outcome⟩
  · simp only [Except.ok.injEq, Prod.mk.injEq] at outcome
    exact .inl ⟨none, outcome.1.symm, outcome.2.symm⟩
  · simp only [bind_eq_ok, okOr_eq_ok] at outcome
    obtain ⟨vault, configured, _, -, _, -, _, -, deposited⟩ := outcome
    have positive := lt_of_le_of_ne (idleDeployable_ok computed).1 (Ne.symm some)
    exact .inr ⟨positive, vault, configured, depositAndBook_ok deposited⟩

/-! ### Redemptions -/

theorem redeem_ok {shares minXlmOut : Int} {redemption : Redemption D}
    (stepped : redeem host env s vault shares minXlmOut = .ok redemption) :
    (0 < shares ∧ shares ≤ s.totalDeployedShares) ∧ 0 ≤ env.vault.paid ∧
      redemption.received = env.vault.paid ∧ redemption.principal = principalOf s shares ∧
      redemption.state = s.afterRedemption host vault env.vault shares := by
  simp only [redeem, bind_eq_ok, rejectIf_eq_ok, i128_eq_ok, vaultWithdraw_eq_ok,
    Except.ok.injEq] at stepped
  obtain ⟨_, positive, _, -, _, within, _, -, _, ⟨-, nonneg, rfl⟩, _, ⟨-, rfl⟩, _, -, _, ⟨-, rfl⟩,
    _, ⟨-, rfl⟩, _, ⟨-, rfl⟩, rfl⟩ := stepped
  have received : liquidBalance host
      { s with
        xlm := Function.update s.xlm host.contract (s.xlm host.contract + env.vault.paid)
        vaultShares := Function.update s.vaultShares vault
          (s.vaultShares vault - env.vault.burned) } - liquidBalance host s =
      env.vault.paid := by
    simp [liquidBalance]
  refine ⟨⟨not_le.mp positive, not_lt.mp within⟩, nonneg, received, rfl, ?_⟩
  simp only [received]
  simp only [State.afterRedemption, markedStake, liquidBalance]
  by_cases lossy : env.vault.paid < principalOf s shares
  · have shortfall : max (principalOf s shares - env.vault.paid) 0 =
        principalOf s shares - env.vault.paid := max_eq_left (by omega)
    rw [if_pos lossy, if_pos lossy, shortfall]
  · rw [if_neg lossy, if_neg lossy]

/-- A redemption that passes every check and overflows nowhere succeeds. -/
theorem redeem_of_checks {shares minXlmOut : Int}
    (bounds : 0 < shares ∧ shares ≤ s.totalDeployedShares)
    (external : vault ≠ host.contract) (nonneg : 0 ≤ env.vault.paid)
    (floor : minXlmOut ≤ env.vault.paid) (paidFits : InI128 env.vault.paid)
    (productFits : InI128 (s.totalDeployedXlm * shares))
    (sharesFit : InI128 (s.totalDeployedShares - shares))
    (xlmFits : InI128 (s.totalDeployedXlm - principalOf s shares))
    (lossFits : InI128 (max (principalOf s shares - env.vault.paid) 0)) :
    ∃ redemption, redeem host env s vault shares minXlmOut = .ok redemption := by
  have received : liquidBalance host
      { s with
        xlm := Function.update s.xlm host.contract (s.xlm host.contract + env.vault.paid)
        vaultShares := Function.update s.vaultShares vault
          (s.vaultShares vault - env.vault.burned) } - liquidBalance host s =
      env.vault.paid := by
    simp [liquidBalance]
  simp only [redeem, bind_eq_ok, rejectIf_eq_ok, i128_eq_ok, vaultWithdraw_eq_ok,
    Except.ok.injEq]
  refine ⟨_, (), not_le.mpr bounds.1, (), not_le.mpr (bounds.1.trans_le bounds.2), (),
    not_lt.mpr bounds.2, _, ⟨productFits, rfl⟩, _, ⟨external, nonneg, rfl⟩, _, ⟨?_, rfl⟩, (), ?_, _,
    ⟨sharesFit, rfl⟩, _, ⟨xlmFits, rfl⟩, _, ⟨?_, rfl⟩, rfl⟩
  · rw [received]
    exact paidFits
  · rw [received]
    exact not_lt.mpr floor
  · rw [received]
    exact lossFits

theorem provideLiquidity_ok {shares minXlmOut received : Int}
    (stepped : provideLiquidity host env s shares minXlmOut = .ok (received, s')) :
    (0 < shares ∧ shares ≤ s.totalDeployedShares) ∧ 0 ≤ env.vault.paid ∧
      ∃ vault, s.vault = some vault ∧ received = env.vault.paid ∧
        s' = s.afterRedemption host vault env.vault shares := by
  simp only [provideLiquidity, bind_eq_ok, okOr_eq_ok, Except.ok.injEq, Prod.mk.injEq] at stepped
  obtain ⟨_, -, vault, configured, redemption, redeemed, rfl, rfl⟩ := stepped
  obtain ⟨bounds, nonneg, received, -, after⟩ := redeem_ok redeemed
  exact ⟨bounds, nonneg, vault, configured, received, after⟩

theorem rebalanceShortfall_ok {shortfall : Int}
    (computed : rebalanceShortfall host s = .ok shortfall) :
    ∃ ceiling, deployCeiling s = .ok ceiling ∧
      InI128 (s.totalAllocated - liquidBalance host s) ∧
      InI128 (s.totalDeployedXlm - ceiling) ∧
      shortfall = max (max (s.totalAllocated - liquidBalance host s) 0)
        (max (s.totalDeployedXlm - ceiling) 0) := by
  simp only [rebalanceShortfall, bind_eq_ok, i128_eq_ok, Except.ok.injEq] at computed
  obtain ⟨_, ⟨fits, rfl⟩, ceiling, bounded, _, ⟨driftFits, rfl⟩, rfl⟩ := computed
  exact ⟨ceiling, bounded, fits, driftFits, rfl⟩

theorem sharesNeeded_ok {shortfall shares : Int}
    (computed : sharesNeeded s shortfall = .ok shares) :
    InI128 (shortfall * s.totalDeployedShares) ∧
      shares = min (slice shortfall s.totalDeployedShares s.totalDeployedXlm)
        s.totalDeployedShares := by
  simp only [sharesNeeded, bind_eq_ok, i128_eq_ok, Except.ok.injEq] at computed
  obtain ⟨_, ⟨fits, rfl⟩, rfl⟩ := computed
  exact ⟨fits, rfl⟩

theorem slippageFloor_ok {expected least : Int} (computed : slippageFloor expected = .ok least) :
    InI128 (expected * (bpsDenominator - maxRebalanceSlippageBps)) := by
  simp only [slippageFloor, bind_eq_ok, i128_eq_ok] at computed
  obtain ⟨_, ⟨fits, -⟩, -⟩ := computed
  exact fits

theorem ensureLiquidity_ok {received : Int}
    (stepped : ensureLiquidity host env s = .ok (received, s')) :
    ∃ shortfall, rebalanceShortfall host s = .ok shortfall ∧
      ((shortfall = 0 ∧ received = 0 ∧ s' = s) ∨
        (0 < shortfall ∧ (0 < s.totalDeployedShares ∧ 0 < s.totalDeployedXlm) ∧
          ∃ shares vault, sharesNeeded s shortfall = .ok shares ∧
            InI128 (principalOf s shares * (bpsDenominator - maxRebalanceSlippageBps)) ∧
            (0 < shares ∧ shares ≤ s.totalDeployedShares) ∧ 0 ≤ env.vault.paid ∧
            s.vault = some vault ∧ received = env.vault.paid ∧
            s' = s.afterRedemption host vault env.vault shares)) := by
  simp only [ensureLiquidity, bind_eq_ok] at stepped
  obtain ⟨shortfall, computed, outcome⟩ := stepped
  refine ⟨shortfall, computed, ?_⟩
  rcases ite_eq_ok.mp outcome with ⟨none, outcome⟩ | ⟨some, outcome⟩
  · simp only [Except.ok.injEq, Prod.mk.injEq] at outcome
    exact .inl ⟨none, outcome.1.symm, outcome.2.symm⟩
  · simp only [bind_eq_ok, rejectIf_eq_ok, okOr_eq_ok, Except.ok.injEq, Prod.mk.injEq] at outcome
    obtain ⟨_, opened, shares, needed, _, -, minXlmOut, floored, vault, configured, redemption,
      redeemed, rfl, rfl⟩ := outcome
    obtain ⟨bounds, nonneg, received, -, after⟩ := redeem_ok redeemed
    obtain ⟨ceiling, -, -, -, rfl⟩ := rebalanceShortfall_ok computed
    refine .inr ⟨by omega, ⟨?_, ?_⟩, shares, vault, needed, slippageFloor_ok floored, bounds,
      nonneg, configured, received, after⟩
    · exact not_le.mp fun closed => opened (.inl closed)
    · exact not_le.mp fun closed => opened (.inr closed)

/-! ### Yield -/

/-- What a redemption brings in beyond its principal. -/
theorem extractYield_ok {shares minXlmOut sent : Int}
    (stepped : extractYield host env s shares minXlmOut = .ok (sent, s')) :
    (0 < shares ∧ shares ≤ s.totalDeployedShares) ∧ 0 ≤ env.vault.paid ∧
      ∃ vault treasury, s.vault = some vault ∧ s.treasury = some treasury ∧
        sent = max (env.vault.paid - principalOf s shares) 0 ∧
        sendYield host env (s.afterRedemption host vault env.vault shares) treasury sent =
          .ok s' := by
  simp only [extractYield, bind_eq_ok, okOr_eq_ok, i128_eq_ok, Except.ok.injEq,
    Prod.mk.injEq] at stepped
  obtain ⟨_, -, vault, configured, treasury, recipient, redemption, redeemed, _, ⟨-, rfl⟩, after,
    paid, rfl, rfl⟩ := stepped
  obtain ⟨bounds, nonneg, received, principal, left⟩ := redeem_ok redeemed
  refine ⟨bounds, nonneg, vault, treasury, configured, recipient, ?_, ?_⟩
  · rw [received, principal]
    split_ifs <;> omega
  · rw [← left]
    exact paid

/-! ### A concrete position -/

/-- The concrete deployment with half of its deposits at the vault, at a price of
five for four, and 5000 more than is staked. -/
def samplePosition : State Nat :=
  { samplePool with
    totalStaked := 100000
    vault := some (.contract 2)
    treasury := some (party 4)
    deployBps := 5000
    totalDeployedShares := 40000
    totalDeployedXlm := 50000
    xlm := fun holder => if holder = sampleHost.contract then 55000 else 0
    vaultShares := fun _ => 40000 }

end ProtectionPool
