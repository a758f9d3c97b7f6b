/-
Module: ProtectionPool.Proofs.VaultPosition
Purpose: The position at the vault as the pool books it.  Its shares and its
  principal vanish together, but for a first deposit that mints no shares; and the
  booked shares are always among those the configured vault holds for the pool.
Trusted boundary: the vault mints no negative amount of shares and burns what it is
  asked to burn
Main exports: Position.Sound, AnswersFaithfully, opensWithShares,
  shares_and_principal_together, NotStranded, shares_not_stranded
-/
import ProtectionPool.Books.Position

namespace ProtectionPool

open Checked Proportion

variable {D : Type}

/-! ### The vault's answers -/

/-- The vault mints no negative amount of shares for a deposit and burns exactly
the shares a redemption asks for. -/
def AnswersFaithfully (host : Host D) (s : State D) : Action D → Prop
  | .invoke env call =>
      ((depositedXlm host s call).isSome = true → 0 ≤ env.vault.minted) ∧
        ∀ shares ∈ redeemedShares host s call, env.vault.burned = shares
  | _ => True

instance (host : Host D) (s : State D) (action : Action D) :
    Decidable (AnswersFaithfully host s action) := by
  induction action using Action.casesOn with
  | invoke env call =>
      exact inferInstanceAs (Decidable ((_ = true → _) ∧ ∀ shares ∈ redeemedShares host s call, _))
  | _ => exact inferInstanceAs (Decidable True)

/-- Neither figure of the position is negative. -/
structure Position.Sound (p : Position) : Prop where
  shares : 0 ≤ p.totalDeployedShares
  principal : 0 ≤ p.totalDeployedXlm

variable {host : Host D} {s s' : State D} {action : Action D} {output : Output D} {p : Position}

/-- The part of the principal a redemption takes off the books is within it. -/
theorem Position.Sound.slice_le (sound : s.position.Sound) {shares : Int} (positive : 0 < shares)
    (within : shares ≤ s.totalDeployedShares) :
    slice s.totalDeployedXlm shares s.totalDeployedShares ≤ s.totalDeployedXlm :=
  Proportion.slice_le sound.principal positive.le within (positive.trans_le within)

/-- A vault that answers faithfully leaves neither figure negative. -/
theorem PositionStep.sound (step : PositionStep host s action p)
    (faithful : AnswersFaithfully host s action) (sound : s.position.Sound) : p.Sound := by
  cases step with
  | deposited asked positive =>
      have minted := faithful.1 (Option.isSome_of_eq_some asked)
      exact ⟨add_nonneg sound.shares minted, add_nonneg sound.principal positive.le⟩
  | redeemed asked positive within =>
      exact ⟨sub_nonneg.mpr within, sub_nonneg.mpr (sound.slice_le positive within)⟩
  | kept | capSet | vaultSet | deployBpsSet | sharesMoved => exact ⟨sound.shares, sound.principal⟩

/-! ### Shares and principal -/

/-- The booked shares and the booked principal vanish together. -/
def SharesWithPrincipal (s : State D) : Prop :=
  s.totalDeployedShares = 0 ↔ s.totalDeployedXlm = 0

instance (s : State D) : Decidable (SharesWithPrincipal s) :=
  inferInstanceAs (Decidable (_ ↔ _))

/-- The condition under which a step keeps the two figures together: a deposit into
an empty position mints at least one share. -/
def OpensWithShares (host : Host D) (s : State D) : Action D → Prop
  | .invoke env call =>
      (depositedXlm host s call).isSome = true → s.totalDeployedShares = 0 →
        0 < env.vault.minted
  | _ => True

instance (host : Host D) (s : State D) (action : Action D) :
    Decidable (OpensWithShares host s action) := by
  induction action using Action.casesOn with
  | invoke => exact inferInstanceAs (Decidable (_ = true → _ → _ < _))
  | _ => exact inferInstanceAs (Decidable True)

/-- A call does not both deposit and redeem. -/
theorem depositedXlm_of_redeems {call : Call D} {shares : Int}
    (asked : redeemedShares host s call = some shares) : depositedXlm host s call = none := by
  cases call with
  | deployToVault | autoDeployLiquidity => cases asked
  | _ => rfl

/-- A redemption of part of a position leaves some of both figures, one of the
whole position nothing of either. -/
theorem redemption_together {xlm held shares : Int} (together : held = 0 ↔ xlm = 0)
    (nonneg : 0 ≤ xlm) (positive : 0 < shares) (within : shares ≤ held) :
    held - shares = 0 ↔ xlm - slice xlm shares held = 0 := by
  have open' : 0 < held := positive.trans_le within
  have principal : 0 < xlm :=
    lt_of_le_of_ne nonneg fun none => open'.ne' (together.mpr none.symm)
  rcases within.lt_or_eq with part | whole
  · have rest := slice_lt principal positive.le part
    omega
  · rw [whole, slice_whole open', sub_self, sub_self]

/-- One step keeps the two figures together exactly when it opens no position
without shares. -/
theorem PositionStep.together_iff (step : PositionStep host s action p)
    (faithful : AnswersFaithfully host s action) (sound : s.position.Sound)
    (together : SharesWithPrincipal s) :
    (p.totalDeployedShares = 0 ↔ p.totalDeployedXlm = 0) ↔ OpensWithShares host s action := by
  cases step with
  | kept unmoved =>
      refine iff_of_true together ?_
      cases action with
      | invoke env call =>
          intro asked
          rw [unmoved.2.1] at asked
          cases asked
      | _ => trivial
  | capSet | vaultSet | deployBpsSet => exact iff_of_true together nofun
  | sharesMoved => exact iff_of_true together trivial
  | deposited asked positive =>
      have minted := faithful.1 (Option.isSome_of_eq_some asked)
      have held : 0 ≤ s.totalDeployedShares := sound.shares
      have booked : 0 ≤ s.totalDeployedXlm := sound.principal
      simp only [Position.afterDeposit, State.position, OpensWithShares, asked, Option.isSome_some,
        true_implies]
      omega
  | redeemed asked positive within =>
      refine iff_of_true (redemption_together together sound.principal positive within) ?_
      intro deposits
      rw [depositedXlm_of_redeems asked] at deposits
      cases deposits

/-- The steps taken with a faithful vault. -/
def faithfulVault (host : Host D) : System.Guard (State D) (Action D) (Output D) :=
  fun _ s action => AnswersFaithfully host s action

/-- The steps that open no position without shares. -/
def opensWithShares (host : Host D) : System.Guard (State D) (Action D) (Output D) :=
  fun _ s action => OpensWithShares host s action

instance (host : Host D) (log : List (Entry (State D) (Action D) (Output D))) (s : State D)
    (action : Action D) : Decidable (faithfulVault host log s action) :=
  inferInstanceAs (Decidable (AnswersFaithfully _ _ _))

instance (host : Host D) (log : List (Entry (State D) (Action D) (Output D))) (s : State D)
    (action : Action D) : Decidable (opensWithShares host log s action) :=
  inferInstanceAs (Decidable (OpensWithShares _ _ _))

variable [DecidableEq D]

/-- In every run with a faithful vault neither figure is negative. -/
theorem position_sound_of_run {guard : System.Guard (State D) (Action D) (Output D)}
    {log : List (Entry (State D) (Action D) (Output D))}
    (faithful : ∀ log s action, guard log s action → AnswersFaithfully host s action)
    (run : (poolSystem host).Run guard log s) : s.position.Sound := by
  apply run.invariant (P := fun _ s => s.position.Sound)
  · intro s deployed
    obtain ⟨-, -, -, noShares, noXlm⟩ := deployed_position deployed
    exact ⟨noShares.ge, noXlm.ge⟩
  · intro log s action output s' _ sound met stepped
    exact (step_positions stepped).sound (faithful _ _ _ met) sound

/-- In every run with a faithful vault whose deposits open no position without
shares, the shares and the principal vanish together.  A further step with a
faithful vault keeps this exactly when it opens no such position. -/
theorem shares_and_principal_together (host : Host D)
    {log : List (Entry (State D) (Action D) (Output D))} {s : State D}
    (run : (poolSystem host).Run (fun log s action =>
      faithfulVault host log s action ∧ opensWithShares host log s action) log s) :
    SharesWithPrincipal s ∧
      ∀ {action output s'}, (poolSystem host).step s action = .ok (output, s') →
        faithfulVault host log s action →
          (SharesWithPrincipal s' ↔ opensWithShares host log s action) := by
  have together : SharesWithPrincipal s := by
    apply run.invariant (P := fun _ s => SharesWithPrincipal s)
    · intro s deployed
      obtain ⟨-, -, -, noShares, noXlm⟩ := deployed_position deployed
      exact iff_of_true noShares noXlm
    · intro log s action output s' run together met stepped
      have sound := position_sound_of_run (fun _ _ _ met => met.1) run
      exact ((step_positions stepped).together_iff met.1 sound together).mpr met.2
  constructor
  · exact together
  · intro action output s' stepped faithful
    have sound := position_sound_of_run (fun _ _ _ met => met.1) run
    exact (step_positions stepped).together_iff faithful sound together

/-- Such a run deposits, redeems a part, deposits again and redeems the rest. -/
theorem shares_and_principal_together_sample :
    ∃ log s, (poolSystem sampleHost).Run (fun log s action =>
        faithfulVault sampleHost log s action ∧ opensWithShares sampleHost log s action) log s ∧
      log.length = 8 ∧ SharesWithPrincipal s := by
  obtain ⟨log, s, run, ends⟩ := System.exists_run_of_replay (poolSystem sampleHost)
    (fun log s action =>
      faithfulVault sampleHost log s action ∧ opensWithShares sampleHost log s action)
    samplePool_deployed
    (sampleVault ++
      [.invoke (.of [party 1] ⟨40000, 30000, 0, 0⟩) (.deployToVault 40000 1),
       .invoke (.of [party 1] ⟨0, 0, 14000, 10000⟩) (.provideLiquidity 10000 0),
       .invoke (.of [] ⟨23334, 17500, 0, 0⟩) .autoDeployLiquidity,
       callBy 1 (.setDeployBps 0),
       .invoke (.of [] ⟨0, 0, 50000, 37500⟩) .ensureLiquidity])
    (fun log _ => log.length = 8) (by decide +kernel)
  exact ⟨log, s, run, ends,
    (shares_and_principal_together sampleHost run).1⟩

/-- A first deposit of one stroop for which the vault mints nothing is accepted with
a share floor of zero: principal is booked without shares. -/
theorem deposit_without_shares :
    ∃ log s, (poolSystem sampleHost).Run (faithfulVault sampleHost) log s ∧
      ¬ SharesWithPrincipal s := by
  obtain ⟨log, s, run, ends⟩ := System.exists_run_of_replay (poolSystem sampleHost)
    (faithfulVault sampleHost) samplePool_deployed
    (sampleVault ++
      [.invoke (.of [party 1] ⟨1, 0, 0, 0⟩) (.deployToVault 1 0)])
    (fun _ s => ¬ SharesWithPrincipal s) (by decide +kernel)
  exact ⟨log, s, run, ends⟩

/-! ### Booked and held shares -/

/-- The shares the configured vault holds for the pool. -/
def Position.held (p : Position) : Int :=
  match p.vault with
  | some vault => p.vaultShares vault
  | none => 0

/-- The booked shares are among those the configured vault holds for the pool. -/
def Position.NotStranded (p : Position) : Prop :=
  0 ≤ p.totalDeployedShares ∧ p.totalDeployedShares ≤ p.held

instance (p : Position) : Decidable p.NotStranded := inferInstanceAs (Decidable (_ ∧ _))

/-- Outside the calls of the pool its shares at a vault only grow, and a share
balance is never negative. -/
def OnlyAddsShares (s : State D) : Action D → Prop
  | .moveShares vault balance => s.vaultShares vault ≤ balance
  | .invoke _ (.setVault vault) => 0 ≤ s.vaultShares vault
  | _ => True

instance (s : State D) (action : Action D) : Decidable (OnlyAddsShares s action) := by
  induction action using Action.casesOn with
  | moveShares => exact inferInstanceAs (Decidable (_ ≤ _))
  | invoke _ call =>
      induction call using Call.casesOn with
      | setVault => exact inferInstanceAs (Decidable (_ ≤ _))
      | _ => exact inferInstanceAs (Decidable True)
  | _ => exact inferInstanceAs (Decidable True)

theorem Position.held_of_configured {vault : Address} (configured : p.vault = some vault) :
    p.held = p.vaultShares vault := by
  simp only [Position.held, configured]

omit [DecidableEq D] in
/-- One step leaves no booked share behind. -/
theorem PositionStep.notStranded (step : PositionStep host s action p)
    (faithful : AnswersFaithfully host s action) (adds : OnlyAddsShares s action)
    (kept : s.position.NotStranded) : p.NotStranded := by
  obtain ⟨nonneg, within⟩ := kept
  cases step with
  | kept | capSet | deployBpsSet => exact ⟨nonneg, within⟩
  | vaultSet closed => exact ⟨nonneg, closed.trans adds⟩
  | @deposited env call amount vault asked positive configured =>
      have minted := faithful.1 (Option.isSome_of_eq_some asked)
      have held := Position.held_of_configured (p := s.position) configured
      have held' : (s.position.afterDeposit vault amount env.vault.minted).held =
          s.vaultShares vault + env.vault.minted := by
        rw [Position.held_of_configured configured]
        exact Function.update_self _ _ _
      rw [held] at within
      refine ⟨add_nonneg nonneg minted, ?_⟩
      rw [held']
      exact Int.add_le_add_right within _
  | @redeemed env call shares vault asked positive redeemable configured =>
      have burned := faithful.2 _ asked
      have held := Position.held_of_configured (p := s.position) configured
      have held' : (s.position.afterRedemption vault shares env.vault.burned).held =
          s.vaultShares vault - env.vault.burned := by
        rw [Position.held_of_configured configured]
        exact Function.update_self _ _ _
      rw [held] at within
      refine ⟨sub_nonneg.mpr redeemable, ?_⟩
      rw [held', burned]
      exact Int.sub_le_sub_right within _
  | @sharesMoved vault balance =>
      refine ⟨nonneg, within.trans ?_⟩
      cases configured : s.vault with
      | none => simp only [Position.held, State.position, configured, le_refl]
      | some current =>
          simp only [Position.held, State.position, configured, Function.update_apply]
          split_ifs with same
          · rw [same]
            exact adds
          · exact le_rfl

/-- The steps between which shares at a vault are only added. -/
def onlyAddsShares : System.Guard (State D) (Action D) (Output D) :=
  fun _ s action => OnlyAddsShares s action

instance (log : List (Entry (State D) (Action D) (Output D))) (s : State D) (action : Action D) :
    Decidable (onlyAddsShares log s action) :=
  inferInstanceAs (Decidable (OnlyAddsShares _ _))

/-- In every run with a faithful vault and no shares taken from the pool, the
booked shares are among those the configured vault holds for the pool. -/
theorem shares_not_stranded (host : Host D)
    {log : List (Entry (State D) (Action D) (Output D))} {s : State D}
    (run : (poolSystem host).Run (fun log s action =>
      faithfulVault host log s action ∧ onlyAddsShares log s action) log s) :
    s.position.NotStranded := by
  apply run.invariant (P := fun _ s => s.position.NotStranded)
  · intro s deployed
    obtain ⟨-, -, noVault, noShares, -⟩ := deployed_position deployed
    have held : s.position.held = 0 := by simp only [Position.held, State.position, noVault]
    exact ⟨noShares.ge, noShares.le.trans held.ge⟩
  · intro log s action output s' _ kept met stepped
    exact (step_positions stepped).notStranded met.1 met.2 kept

/-- Such a run is given shares, redeems in two parts, and moves to another
vault. -/
theorem shares_not_stranded_sample :
    ∃ log s, (poolSystem sampleHost).Run (fun log s action =>
        faithfulVault sampleHost log s action ∧ onlyAddsShares log s action) log s ∧
      s.vault = some (.contract 3) ∧ s.totalDeployedShares = 9000 ∧ s.position.NotStranded := by
  obtain ⟨log, s, run, ends⟩ := System.exists_run_of_replay (poolSystem sampleHost)
    (fun log s action =>
      faithfulVault sampleHost log s action ∧ onlyAddsShares log s action)
    samplePool_deployed
    (sampleVault ++
      [.invoke (.of [party 1] ⟨40000, 30000, 0, 0⟩) (.deployToVault 40000 1),
       .moveShares (.contract 2) 35000,
       .invoke (.of [party 1] ⟨0, 0, 14000, 10000⟩) (.provideLiquidity 10000 0),
       .invoke (.of [party 1] ⟨0, 0, 27000, 20000⟩) (.provideLiquidity 20000 0),
       callBy 1 (.setVault (.contract 3)),
       .invoke (.of [party 1] ⟨10000, 9000, 0, 0⟩) (.deployToVault 10000 1)])
    (fun _ s => s.vault = some (.contract 3) ∧ s.totalDeployedShares = 9000) (by decide +kernel)
  obtain ⟨moved, shares⟩ := ends
  exact ⟨log, s, run, moved, shares, shares_not_stranded sampleHost run⟩

end ProtectionPool
