/-
Module: ProtectionPool.Proofs.Rebalancing
Purpose: The two permissionless calls that move XLM between the pool and the vault.
  Pulling liquidity back restores the claims line and the ceiling exactly when the
  shortfall converts to shares and back without a rest, since both conversions
  round down.  Neither call undoes the other.
Trusted boundary: the vault pays at least the book value of what it burns, and pulls
  exactly the amount a deposit asks for
Main exports: ceilingOf, liquidityShortfall, LinesRestored, PaysBookValue,
  ConvertsExactly, ensure_liquidity_restores_iff, rebalancers_never_undo
-/
import ProtectionPool.Proofs.YieldEffect

namespace ProtectionPool

open Checked Proportion

variable {D : Type}

/-! ### The two lines -/

/-- The most principal that may be deployed at the configured ratio. -/
def ceilingOf (s : State D) : Int := (s.totalStaked * s.deployBps).tdiv deployBpsDenominator

/-- What the liquid XLM lacks of the allocations. -/
def claimsGap (host : Host D) (s : State D) : Int := s.totalAllocated - liquidBalance host s

/-- What is deployed beyond the ceiling. -/
def ceilingDrift (s : State D) : Int := s.totalDeployedXlm - ceilingOf s

/-- The larger of the two gaps. -/
def liquidityShortfall (host : Host D) (s : State D) : Int :=
  max (claimsGap host s) (ceilingDrift s)

/-- The liquid XLM covers the allocations, and no more is deployed than the ceiling
allows. -/
def LinesRestored (host : Host D) (s : State D) : Prop :=
  s.totalAllocated ≤ liquidBalance host s ∧ s.totalDeployedXlm ≤ ceilingOf s

/-- Pulling liquidity back succeeds and restores both lines. -/
def RestoresLines (host : Host D) (env : Env) (s : State D) : Prop :=
  ∃ result, ensureLiquidity host env s = .ok result ∧ LinesRestored host result.2

/-- The shares that stand for the shortfall. -/
def shortfallShares (host : Host D) (s : State D) : Int :=
  slice (liquidityShortfall host s) s.totalDeployedShares s.totalDeployedXlm

/-- The vault pays an amount the token can move, and at least the book value of the
shares that stand for the shortfall. -/
def PaysBookValue (host : Host D) (s : State D) (reply : VaultReply) : Prop :=
  InI128 reply.paid ∧ principalOf s (shortfallShares host s) ≤ reply.paid

/-- The products the computation of the shortfall and of its shares goes through fit
in an `i128`. -/
structure ProductsFit (host : Host D) (s : State D) : Prop where
  ceiling : InI128 (s.totalStaked * s.deployBps)
  claims : InI128 (claimsGap host s)
  drift : InI128 (ceilingDrift s)
  shares : InI128 (liquidityShortfall host s * s.totalDeployedShares)
  floor : InI128 (liquidityShortfall host s * (bpsDenominator - maxRebalanceSlippageBps))

/-- The condition under which both lines are restored: shares are held, nothing
overflows, and the shortfall stands for a whole number of shares at the book
price. -/
structure ConvertsExactly (host : Host D) (s : State D) : Prop where
  held : 0 < s.totalDeployedShares
  fits : ProductsFit host s
  divides : s.totalDeployedXlm ∣ liquidityShortfall host s * s.totalDeployedShares

instance (host : Host D) (s : State D) : Decidable (LinesRestored host s) :=
  inferInstanceAs (Decidable (_ ∧ _))

instance (host : Host D) (env : Env) (s : State D) : Decidable (RestoresLines host env s) :=
  inferInstanceAs (Decidable (∃ result, ensureLiquidity host env s = .ok result ∧ _))

instance (host : Host D) (s : State D) (reply : VaultReply) :
    Decidable (PaysBookValue host s reply) :=
  inferInstanceAs (Decidable (_ ∧ _))

variable {host : Host D} {env : Env} {s s' : State D} {vault : Address}

theorem deployCeiling_eq_ok {ceiling : Int} :
    deployCeiling s = .ok ceiling ↔
      InI128 (s.totalStaked * s.deployBps) ∧ ceiling = ceilingOf s := by
  simp only [deployCeiling, bind_eq_ok, i128_eq_ok, Except.ok.injEq]
  constructor
  · rintro ⟨_, ⟨fits, rfl⟩, rfl⟩
    exact ⟨fits, rfl⟩
  · rintro ⟨fits, rfl⟩
    exact ⟨_, ⟨fits, rfl⟩, rfl⟩

/-- A positive shortfall is the one the call computes. -/
theorem rebalanceShortfall_eq_ok (short : 0 < liquidityShortfall host s) {shortfall : Int} :
    rebalanceShortfall host s = .ok shortfall ↔
      (InI128 (s.totalStaked * s.deployBps) ∧ InI128 (claimsGap host s) ∧
        InI128 (ceilingDrift s)) ∧ shortfall = liquidityShortfall host s := by
  have larger : max (max (claimsGap host s) 0) (max (ceilingDrift s) 0) =
      liquidityShortfall host s := by
    unfold liquidityShortfall at *
    omega
  constructor
  · intro computed
    obtain ⟨ceiling, bounded, claims, drift, rfl⟩ := rebalanceShortfall_ok computed
    obtain ⟨fits, rfl⟩ := deployCeiling_eq_ok.mp bounded
    exact ⟨⟨fits, claims, drift⟩, larger⟩
  · rintro ⟨⟨fits, claims, drift⟩, rfl⟩
    simp only [rebalanceShortfall, bind_eq_ok, i128_eq_ok, Except.ok.injEq]
    exact ⟨_, ⟨claims, rfl⟩, _, deployCeiling_eq_ok.mpr ⟨fits, rfl⟩, _, ⟨drift, rfl⟩, larger⟩

/-! ### Restoring both lines -/

/-- A shortfall the position at a configured vault can cover. -/
structure CoverableShortfall (host : Host D) (s : State D) (vault : Address) : Prop where
  configured : s.vault = some vault
  external : vault ≠ host.contract
  short : 0 < liquidityShortfall host s
  within : liquidityShortfall host s ≤ s.totalDeployedXlm
  stored : InI128 s.totalDeployedXlm

instance : Decidable (CoverableShortfall host s vault) :=
  decidable_of_iff (s.vault = some vault ∧ vault ≠ host.contract ∧
      0 < liquidityShortfall host s ∧ liquidityShortfall host s ≤ s.totalDeployedXlm ∧
      InI128 s.totalDeployedXlm)
    ⟨fun ⟨configured, external, short, within, stored⟩ =>
      ⟨configured, external, short, within, stored⟩,
      fun ⟨configured, external, short, within, stored⟩ =>
        ⟨configured, external, short, within, stored⟩⟩

namespace CoverableShortfall

variable (coverable : CoverableShortfall host s vault)

include coverable

theorem position : 0 < s.totalDeployedXlm := coverable.short.trans_le coverable.within

/-- The shortfall stands for no more shares than are held. -/
theorem shares_bounds (held : 0 < s.totalDeployedShares) :
    0 ≤ shortfallShares host s ∧ shortfallShares host s ≤ s.totalDeployedShares := by
  refine ⟨slice_nonneg coverable.short.le held.le coverable.position.le, ?_⟩
  have product := slice_mul_le coverable.short.le held.le coverable.position
  have bounded : liquidityShortfall host s * s.totalDeployedShares ≤
      s.totalDeployedShares * s.totalDeployedXlm := by
    rw [mul_comm]
    exact Int.mul_le_mul_of_nonneg_left coverable.within held.le
  exact Int.le_of_mul_le_mul_right (product.trans bounded) coverable.position

/-- The shares the call computes are those that stand for the shortfall. -/
theorem sharesNeeded_eq_ok (held : 0 < s.totalDeployedShares) {shares : Int} :
    sharesNeeded s (liquidityShortfall host s) = .ok shares ↔
      InI128 (liquidityShortfall host s * s.totalDeployedShares) ∧
        shares = shortfallShares host s := by
  have capped : min (shortfallShares host s) s.totalDeployedShares = shortfallShares host s :=
    min_eq_left (coverable.shares_bounds held).2
  constructor
  · intro needed
    obtain ⟨fits, rfl⟩ := sharesNeeded_ok needed
    exact ⟨fits, capped⟩
  · rintro ⟨fits, rfl⟩
    simp only [sharesNeeded, bind_eq_ok, i128_eq_ok, Except.ok.injEq]
    exact ⟨_, ⟨fits, rfl⟩, capped⟩

/-- The shares are worth the shortfall exactly when it converts without a rest. -/
theorem worth_iff (held : 0 < s.totalDeployedShares) :
    principalOf s (shortfallShares host s) = liquidityShortfall host s ↔
      s.totalDeployedXlm ∣ liquidityShortfall host s * s.totalDeployedShares :=
  slice_slice_eq_iff coverable.short.le coverable.position held

theorem worth_le (held : 0 < s.totalDeployedShares) :
    principalOf s (shortfallShares host s) ≤ liquidityShortfall host s :=
  slice_slice_le coverable.short.le coverable.position held

/-- At any number of shares the vault can pay their book value. -/
theorem worth_fits : InI128 (principalOf s (shortfallShares host s)) := by
  rw [principalOf_eq_slice, shortfallShares]
  have worth : ∀ {shares : Int}, 0 < shares →
      InI128 (slice s.totalDeployedXlm
        (slice (liquidityShortfall host s) shares s.totalDeployedXlm) shares) := by
    intro shares held
    apply coverable.stored.of_le
    · exact slice_nonneg coverable.position.le
        (slice_nonneg coverable.short.le held.le coverable.position.le) held.le
    · exact (slice_slice_le coverable.short.le coverable.position held).trans coverable.within
  rcases lt_trichotomy 0 s.totalDeployedShares with held | none | owed
  · exact worth held
  · rw [← none, slice, Int.tdiv_zero]
    decide
  · rw [← slice_slice_neg]
    exact worth (neg_pos.mpr owed)

end CoverableShortfall

/-- A redemption that pays its principal restores both lines exactly when it brings
in what the claims lack and takes off what is above the ceiling. -/
theorem linesRestored_afterRedemption {reply : VaultReply} {shares : Int}
    (covered : principalOf s shares ≤ reply.paid) :
    LinesRestored host (s.afterRedemption host vault reply shares) ↔
      claimsGap host s ≤ reply.paid ∧ ceilingDrift s ≤ principalOf s shares := by
  have staked : (s.afterRedemption host vault reply shares).totalStaked = s.totalStaked :=
    if_neg (not_lt.mpr covered)
  have ceiling : ceilingOf (s.afterRedemption host vault reply shares) = ceilingOf s := by
    rw [ceilingOf, staked]
    rfl
  rw [LinesRestored, liquidBalance_afterRedemption, ceiling]
  simp only [State.afterRedemption, claimsGap, ceilingDrift]
  omega

/-- A call that restores both lines for the book value of its shares alone redeems
the whole shortfall. -/
theorem CoverableShortfall.converts_of_restores (coverable : CoverableShortfall host s vault)
    (paid : env.vault.paid = principalOf s (shortfallShares host s))
    (restores : RestoresLines host env s) : ConvertsExactly host s := by
  obtain ⟨⟨received, s'⟩, stepped, restored⟩ := restores
  obtain ⟨shortfall, computed, outcome⟩ := ensureLiquidity_ok stepped
  obtain ⟨⟨ceilingFits, claimsFit, driftFits⟩, rfl⟩ :=
    (rebalanceShortfall_eq_ok coverable.short).mp computed
  obtain ⟨none, -⟩ | ⟨-, ⟨held, -⟩, shares, used, needed, floorFits, -, -, -, -, rfl⟩ := outcome
  · exact absurd none coverable.short.ne'
  obtain ⟨sharesFit, rfl⟩ := (coverable.sharesNeeded_eq_ok held).mp needed
  obtain ⟨claims, drift⟩ := (linesRestored_afterRedemption paid.ge).mp restored
  have worth : principalOf s (shortfallShares host s) = liquidityShortfall host s := by
    apply le_antisymm (coverable.worth_le held)
    rw [paid] at claims
    exact max_le claims drift
  rw [worth] at floorFits
  exact ⟨held, ⟨ceilingFits, claimsFit, driftFits, sharesFit, floorFits⟩,
    (coverable.worth_iff held).mp worth⟩

theorem ConvertsExactly.shares_product (converts : ConvertsExactly host s) :
    s.totalDeployedXlm * shortfallShares host s =
      liquidityShortfall host s * s.totalDeployedShares :=
  Int.mul_tdiv_cancel' converts.divides

section Converts

variable (coverable : CoverableShortfall host s vault) (converts : ConvertsExactly host s)

include coverable converts

/-- A shortfall that converts exactly is worth the shares that stand for it. -/
theorem CoverableShortfall.worth_eq :
    principalOf s (shortfallShares host s) = liquidityShortfall host s :=
  (coverable.worth_iff converts.held).mpr converts.divides

/-- It stands for at least one share. -/
theorem CoverableShortfall.shares_pos : 0 < shortfallShares host s := by
  have scaled := Int.mul_pos coverable.short converts.held
  rw [← converts.shares_product] at scaled
  exact (mul_pos_iff_of_pos_left coverable.position).mp scaled

/-- The shares are redeemed for any payment of their book value, which is above the
slippage floor. -/
theorem CoverableShortfall.redeems (pays : PaysBookValue host s env.vault) :
    ∃ redemption, redeem host env s vault (shortfallShares host s)
      (slice (liquidityShortfall host s) (bpsDenominator - maxRebalanceSlippageBps)
        bpsDenominator) = .ok redemption := by
  obtain ⟨paidFits, covered⟩ := pays
  have worth := coverable.worth_eq converts
  have positive := coverable.shares_pos converts
  have bounded := (coverable.shares_bounds converts.held).2
  have heldFits : InI128 s.totalDeployedShares :=
    converts.fits.shares.of_le converts.held.le
      (le_mul_of_one_le_left converts.held.le coverable.short)
  have covers : liquidityShortfall host s ≤ env.vault.paid := worth ▸ covered
  apply redeem_of_checks ⟨positive, bounded⟩ coverable.external (coverable.short.le.trans covers)
  · exact (slice_le coverable.short.le (by decide) (by decide) (by decide)).trans covers
  · exact paidFits
  · rw [converts.shares_product]
    exact converts.fits.shares
  · exact heldFits.of_le (sub_nonneg.mpr bounded) (sub_le_self _ positive.le)
  · rw [worth]
    exact coverable.stored.of_le (sub_nonneg.mpr coverable.within)
      (sub_le_self _ coverable.short.le)
  · rw [max_eq_right (sub_nonpos.mpr covered)]
    decide

/-- The call asks for just this redemption. -/
theorem CoverableShortfall.ensureLiquidity_eq {redemption : Redemption D}
    (redeemed : redeem host env s vault (shortfallShares host s)
      (slice (liquidityShortfall host s) (bpsDenominator - maxRebalanceSlippageBps)
        bpsDenominator) = .ok redemption) :
    ensureLiquidity host env s = .ok (redemption.received, redemption.state) := by
  have fits := converts.fits
  have productFits : InI128 (s.totalDeployedXlm * shortfallShares host s) := by
    rw [converts.shares_product]
    exact fits.shares
  simp only [ensureLiquidity, bind_eq_ok]
  refine ⟨_, (rebalanceShortfall_eq_ok coverable.short).mpr
    ⟨⟨fits.ceiling, fits.claims, fits.drift⟩, rfl⟩, ?_⟩
  rw [if_neg coverable.short.ne']
  simp only [bind_eq_ok, rejectIf_eq_ok, i128_eq_ok, okOr_eq_ok]
  refine ⟨(), ?_, _, (coverable.sharesNeeded_eq_ok converts.held).mpr ⟨fits.shares, rfl⟩, _,
    ⟨productFits, rfl⟩, _, ?_, vault, coverable.configured, redemption, redeemed, rfl⟩
  · exact not_or.mpr ⟨not_le.mpr converts.held, not_le.mpr coverable.position⟩
  · simp only [slippageFloor, bind_eq_ok, i128_eq_ok, coverable.worth_eq converts]
    exact ⟨_, ⟨fits.floor, rfl⟩, rfl⟩

/-- Where the shortfall converts exactly every payment of its book value restores
both lines. -/
theorem CoverableShortfall.restores_of_converts (pays : PaysBookValue host s env.vault) :
    RestoresLines host env s := by
  have worth := coverable.worth_eq converts
  have covers : liquidityShortfall host s ≤ env.vault.paid := worth ▸ pays.2
  obtain ⟨redemption, redeemed⟩ := coverable.redeems converts pays
  obtain ⟨-, -, -, -, after⟩ := redeem_ok redeemed
  refine ⟨_, coverable.ensureLiquidity_eq converts redeemed, ?_⟩
  rw [after, linesRestored_afterRedemption pays.2, worth]
  exact ⟨(le_max_left _ _).trans covers, le_max_right _ _⟩

end Converts

/-- Pulling liquidity back restores both lines, whatever the vault pays above the
book value of what it burns, exactly when shares are held, nothing overflows and the
shortfall converts to shares without a rest. -/
theorem ensure_liquidity_restores_iff (host : Host D) {s : State D} {vault : Address}
    (coverable : CoverableShortfall host s vault) :
    (∀ env, PaysBookValue host s env.vault → RestoresLines host env s) ↔
      ConvertsExactly host s := by
  constructor
  · intro restores
    exact coverable.converts_of_restores rfl
      (restores (.of [] ⟨0, 0, principalOf s (shortfallShares host s), 0⟩)
        ⟨coverable.worth_fits, le_rfl⟩)
  · intro converts env pays
    exact coverable.restores_of_converts converts pays

/-- The concrete position with 60000 allocated: 5000 are lacking, worth 4000 shares. -/
def sampleShortfall : State Nat := { samplePosition with totalAllocated := 60000 }

/-- The 5000 are pulled back at their book value. -/
theorem ensure_liquidity_restores_sample :
    RestoresLines sampleHost (.of [] ⟨0, 0, 5000, 4000⟩) sampleShortfall := by
  have coverable : CoverableShortfall sampleHost sampleShortfall (.contract 2) :=
    ⟨rfl, by decide, by decide, by decide, by decide⟩
  have converts : ConvertsExactly sampleHost sampleShortfall :=
    ⟨by decide, ⟨by decide, by decide, by decide, by decide, by decide⟩, by decide⟩
  exact (ensure_liquidity_restores_iff sampleHost coverable).mpr converts _ (by decide)

/-- A deposit of some XLM at 40000 shares, after which the ratio is lowered to put the
ceiling at 49990. -/
def sampleDrift (deployed : Int) : List (Action Nat) :=
  sampleVault ++
    [.invoke (.of [party 1] ⟨deployed, 40000, 0, 0⟩) (.deployToVault deployed 1),
     callBy 1 (.setDeployBps 4999)]

/-- A drift of 3 stands for two shares worth 2, so 1 stays above the ceiling, and a
drift of 1 stands for no share at all, so the call is rejected. -/
theorem shortfall_rounded_away :
    (∃ log s, (poolSystem sampleHost).Run System.anyStep log s ∧
      CoverableShortfall sampleHost s (.contract 2) ∧
      PaysBookValue sampleHost s ⟨0, 0, 2, 2⟩ ∧
      ¬ RestoresLines sampleHost (.of [] ⟨0, 0, 2, 2⟩) s) ∧
      ∃ log s, (poolSystem sampleHost).Run System.anyStep log s ∧
        CoverableShortfall sampleHost s (.contract 2) ∧
        PaysBookValue sampleHost s ⟨0, 0, 0, 0⟩ ∧
        ¬ RestoresLines sampleHost (.of [] ⟨0, 0, 0, 0⟩) s := by
  constructor
  · obtain ⟨log, s, run, ends⟩ := System.exists_run_of_replay (poolSystem sampleHost)
      System.anyStep samplePool_deployed (sampleDrift 49993)
      (fun _ s => CoverableShortfall sampleHost s (.contract 2) ∧
        PaysBookValue sampleHost s ⟨0, 0, 2, 2⟩ ∧
        ¬ RestoresLines sampleHost (.of [] ⟨0, 0, 2, 2⟩) s) (by decide +kernel)
    exact ⟨log, s, run, ends⟩
  · obtain ⟨log, s, run, ends⟩ := System.exists_run_of_replay (poolSystem sampleHost)
      System.anyStep samplePool_deployed (sampleDrift 49991)
      (fun _ s => CoverableShortfall sampleHost s (.contract 2) ∧
        PaysBookValue sampleHost s ⟨0, 0, 0, 0⟩ ∧
        ¬ RestoresLines sampleHost (.of [] ⟨0, 0, 0, 0⟩) s) (by decide +kernel)
    exact ⟨log, s, run, ends⟩

/-! ### Neither call undoes the other -/

/-- The ratio is only set to what `set_deploy_bps` accepts. -/
theorem PositionStep.deployBps_nonneg {action : Action D} {p : Position}
    (step : PositionStep host s action p) (nonneg : 0 ≤ s.deployBps) : 0 ≤ p.deployBps := by
  cases step with
  | deployBpsSet bounds => exact bounds.1
  | kept | capSet | vaultSet | deposited | redeemed | sharesMoved => exact nonneg

variable [DecidableEq D]

/-- The ratio is never negative. -/
theorem deployBps_nonneg_of_run {log : List (Entry (State D) (Action D) (Output D))}
    (run : (poolSystem host).Run System.anyStep log s) : 0 ≤ s.deployBps := by
  apply run.invariant (P := fun _ s => 0 ≤ s.deployBps)
  · intro s deployed
    exact (deployed_position deployed).2.1.ge
  · intro log s action output s' run nonneg met stepped
    exact (step_positions stepped).deployBps_nonneg nonneg

omit [DecidableEq D] in
/-- With no shortfall the call to pull liquidity back does nothing. -/
theorem ensureLiquidity_of_covered (covered : rebalanceShortfall host s = .ok 0) :
    ensureLiquidity host env s = .ok (0, s) := by
  simp only [ensureLiquidity, bind_eq_ok]
  exact ⟨0, covered, if_pos rfl⟩

omit [DecidableEq D] in
/-- After a deployment nothing is lacking and nothing is above the ceiling. -/
theorem ensureLiquidity_after_autoDeploy {gained : Int}
    (pulls : PullsRequested host s env .autoDeployLiquidity)
    (stepped : autoDeployLiquidity host env s = .ok (gained, s'))
    (deployed : s.totalDeployedXlm < s'.totalDeployedXlm) (env' : Env) :
    ensureLiquidity host env' s' = .ok (0, s') := by
  obtain ⟨-, amount, computed, ⟨-, -, rfl⟩ | ⟨positive, vault, -, -, rfl⟩⟩ :=
    autoDeployLiquidity_ok stepped
  · exact absurd deployed (lt_irrefl _)
  have pulled : env.vault.pulled = amount := by
    apply pulls
    simp only [depositedXlm, computed, positive.ne', if_false, Option.mem_some_iff]
  obtain ⟨-, surplusFits, room⟩ := idleDeployable_ok computed
  obtain ⟨ceiling, bounded, headroomFits, idle, headroom⟩ := room positive
  have liquid : liquidBalance host (s.afterDeposit host vault env.vault amount) =
      liquidBalance host s - amount := by
    rw [liquidBalance_afterDeposit, pulled]
  have covered : rebalanceShortfall host (s.afterDeposit host vault env.vault amount) = .ok 0 := by
    simp only [rebalanceShortfall, bind_eq_ok, i128_eq_ok, Except.ok.injEq, liquid]
    change ∃ uncovered, (InI128 (s.totalAllocated - (liquidBalance host s - amount)) ∧
        uncovered = s.totalAllocated - (liquidBalance host s - amount)) ∧
      ∃ limit, deployCeiling s = .ok limit ∧
        ∃ drift, (InI128 (s.totalDeployedXlm + amount - limit) ∧
          drift = s.totalDeployedXlm + amount - limit) ∧ max (max uncovered 0) (max drift 0) = 0
    refine ⟨_, ⟨?_, rfl⟩, ceiling, bounded, _, ⟨?_, rfl⟩, ?_⟩
    · exact surplusFits.of_neg_le (by omega) (by omega)
    · exact headroomFits.of_neg_le (by omega) (by omega)
    · omega
  simp only [ensureLiquidity, bind_eq_ok]
  exact ⟨0, covered, if_pos rfl⟩

omit [DecidableEq D] in
/-- A redemption never raises the ceiling, since a loss only lowers the stake
aggregate. -/
theorem ceilingOf_afterRedemption_le {reply : VaultReply} {shares : Int}
    (ratio : 0 ≤ s.deployBps) (fits : InI128 (s.totalStaked * s.deployBps)) :
    ceilingOf (s.afterRedemption host vault reply shares) ≤ ceilingOf s := by
  rcases ratio.eq_or_lt with none | positive
  · simp [ceilingOf, State.afterRedemption, ← none]
  · have least : i128Min ≤ s.totalStaked := by
      by_contra below
      have negative : s.totalStaked < 0 := (not_le.mp below).trans (by decide)
      have lower : s.totalStaked * s.deployBps ≤ s.totalStaked * 1 :=
        Int.mul_le_mul_of_nonpos_left negative.le positive
      rw [mul_one] at lower
      exact below (fits.1.trans lower)
    have marked : (s.afterRedemption host vault reply shares).totalStaked ≤ s.totalStaked := by
      simp only [State.afterRedemption, markedStake]
      split_ifs with lossy
      · exact saturateI128_le_of_le least (sub_le_self _ (sub_nonneg.mpr lossy.le))
      · exact le_rfl
    exact Int.tdiv_le_tdiv (by decide) (Int.mul_le_mul_of_nonneg_right marked ratio)

omit [DecidableEq D] in
/-- After a redemption of at most the shortfall nothing can be deployed: the line
that was short is still short, or just met. -/
theorem autoDeploy_after_ensureLiquidity {shortfall received : Int} (ratio : 0 ≤ s.deployBps)
    (computed : rebalanceShortfall host s = .ok shortfall) (short : 0 < shortfall)
    (stepped : ensureLiquidity host env s = .ok (received, s')) (within : received ≤ shortfall)
    {env' : Env} {gained : Int} {s'' : State D}
    (followed : autoDeployLiquidity host env' s' = .ok (gained, s'')) :
    gained = 0 ∧ s'' = s' := by
  obtain ⟨shortfall', computed', outcome⟩ := ensureLiquidity_ok stepped
  obtain rfl := Except.ok.inj (computed.symm.trans computed')
  obtain ⟨none, -⟩ | ⟨-, ⟨held, position⟩, shares, vault, needed, -, ⟨taken, -⟩, -, -, rfl, rfl⟩ :=
    outcome
  · exact absurd none short.ne'
  obtain ⟨-, amount, idle, ⟨-, none, same⟩ | ⟨positive, -⟩⟩ := autoDeployLiquidity_ok followed
  · exact ⟨none, same⟩
  obtain ⟨ceiling, bounded, -, -, larger⟩ := rebalanceShortfall_ok computed
  obtain ⟨fits, rfl⟩ := deployCeiling_eq_ok.mp bounded
  obtain ⟨ceiling', bounded', -, surplus, headroom⟩ := (idleDeployable_ok idle).2.2 positive
  obtain ⟨-, rfl⟩ := deployCeiling_eq_ok.mp bounded'
  have ceilings : ceilingOf (s.afterRedemption host vault env.vault shares) ≤ ceilingOf s :=
    ceilingOf_afterRedemption_le ratio fits
  have worth : principalOf s shares ≤ shortfall := by
    obtain ⟨-, capped⟩ := sharesNeeded_ok needed
    apply slice_le_of_le_slice short.le position held taken.le
    rw [capped]
    exact min_le_left _ _
  rw [liquidBalance_afterRedemption] at surplus
  have idle : amount ≤ liquidBalance host s + env.vault.paid - s.totalAllocated := surplus
  have room : amount ≤ ceilingOf (s.afterRedemption host vault env.vault shares) -
      (s.totalDeployedXlm - principalOf s shares) := headroom
  -- either the claims line or the ceiling set the shortfall, and it leaves no room
  omega

/-- After a deployment pulling liquidity back does nothing, and after a redemption of
at most a positive shortfall nothing is deployed, from every state whose ratio is not
negative; every reachable state is one. -/
theorem rebalancers_never_undo (host : Host D) :
    (∀ {s s' : State D} {env gained}, PullsRequested host s env .autoDeployLiquidity →
      autoDeployLiquidity host env s = .ok (gained, s') →
        s.totalDeployedXlm < s'.totalDeployedXlm →
          ∀ env', ensureLiquidity host env' s' = .ok (0, s')) ∧
      (∀ {s s' : State D} {env shortfall received}, 0 ≤ s.deployBps →
        rebalanceShortfall host s = .ok shortfall → 0 < shortfall →
          ensureLiquidity host env s = .ok (received, s') → received ≤ shortfall →
            ∀ {env' gained s''}, autoDeployLiquidity host env' s' = .ok (gained, s'') →
              gained = 0 ∧ s'' = s') ∧
      ∀ {log : List (Entry (State D) (Action D) (Output D))} {s},
        (poolSystem host).Run System.anyStep log s → 0 ≤ s.deployBps :=
  ⟨ensureLiquidity_after_autoDeploy, autoDeploy_after_ensureLiquidity, deployBps_nonneg_of_run⟩

/-- At a ratio of 6000 the concrete position takes 10000 more, none of which is pulled
back; with 60000 allocated 4800 are pulled back at a loss of 200, none of which is
deployed. -/
theorem rebalancers_never_undo_sample :
    (∃ result, autoDeployLiquidity sampleHost (.of [] ⟨10000, 8000, 0, 0⟩)
        { samplePosition with deployBps := 6000 } = .ok result ∧
        ensureLiquidity sampleHost (.of [] ⟨0, 0, 0, 0⟩) result.2 = .ok (0, result.2)) ∧
      ∃ result, ensureLiquidity sampleHost (.of [] ⟨0, 0, 4800, 4000⟩) sampleShortfall =
        .ok result ∧
        ∀ {env gained s''}, autoDeployLiquidity sampleHost env result.2 = .ok (gained, s'') →
          gained = 0 ∧ s'' = result.2 := by
  obtain ⟨afterDeploy, afterRebalance, -⟩ := rebalancers_never_undo sampleHost
  constructor
  · obtain ⟨⟨gained, s'⟩, stepped, deployed⟩ : ∃ result, autoDeployLiquidity sampleHost
        (.of [] ⟨10000, 8000, 0, 0⟩) { samplePosition with deployBps := 6000 } = .ok result ∧
          50000 < result.2.totalDeployedXlm := of_decide_eq_true (by decide +kernel)
    have pulls : PullsRequested sampleHost { samplePosition with deployBps := 6000 }
        (.of [] ⟨10000, 8000, 0, 0⟩) .autoDeployLiquidity := by
      decide +kernel
    exact ⟨_, stepped, afterDeploy pulls stepped deployed _⟩
  · obtain ⟨⟨received, s'⟩, stepped, within⟩ : ∃ result, ensureLiquidity sampleHost
        (.of [] ⟨0, 0, 4800, 4000⟩) sampleShortfall = .ok result ∧ result.1 ≤ 5000 :=
      of_decide_eq_true (by decide +kernel)
    have short : rebalanceShortfall sampleHost sampleShortfall = .ok 5000 := rfl
    exact ⟨_, stepped, afterRebalance (by decide) short (by decide) stepped within⟩

/-- With nothing lacking the call to pull liquidity back receives 0, which is not above
the shortfall of 0, and the idle XLM is deployed right after it. -/
theorem deployed_after_idle_rebalance :
    ∃ log s, (poolSystem sampleHost).Run System.anyStep log s ∧
      rebalanceShortfall sampleHost s = .ok 0 ∧
      (∀ env, ensureLiquidity sampleHost env s = .ok (0, s)) ∧
      ∃ result, autoDeployLiquidity sampleHost (.of [] ⟨10000, 7500, 0, 0⟩) s = .ok result ∧
        s.totalDeployedXlm < result.2.totalDeployedXlm := by
  obtain ⟨log, s, run, ends⟩ := System.exists_run_of_replay (poolSystem sampleHost)
    System.anyStep samplePool_deployed
    (sampleVault ++
      [.invoke (.of [party 1] ⟨40000, 30000, 0, 0⟩) (.deployToVault 40000 1)])
    (fun _ s => (∃ shortfall, rebalanceShortfall sampleHost s = .ok shortfall ∧ shortfall = 0) ∧
      ∃ result, autoDeployLiquidity sampleHost (.of [] ⟨10000, 7500, 0, 0⟩) s = .ok result ∧
        s.totalDeployedXlm < result.2.totalDeployedXlm) (by decide +kernel)
  obtain ⟨⟨_, covered, rfl⟩, deploys⟩ := ends
  exact ⟨log, s, run, covered, fun _ => ensureLiquidity_of_covered covered, deploys⟩

end ProtectionPool
