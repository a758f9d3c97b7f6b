/-
Module: ProtectionPool.Proofs.BookValue
Purpose: What a position at the vault is worth on the books while it is taken down.
  Each redemption takes off the principal its shares stand for, rounded down, so the
  book value of a share never falls and the rounding is paid out with the last
  share: all shares together stand for the whole principal, in whatever tranches
  they are redeemed.
Trusted boundary: none
Main exports: Action.redeems, redeemedTotal, principalTotal, AtBookValue,
  redemptions_at_book_value
-/
import ProtectionPool.Proofs.VaultPosition

namespace ProtectionPool

open Proportion

variable {D : Type}

/-- The XLM an action deposits, if it deposits any. -/
def Action.deposits (host : Host D) (s : State D) : Action D → Option Int
  | .invoke _ call => depositedXlm host s call
  | _ => none

/-- The shares an action redeems, if it redeems any. -/
def Action.redeems (host : Host D) (s : State D) : Action D → Option Int
  | .invoke _ call => redeemedShares host s call
  | _ => none

/-- The steps that deposit nothing. -/
def depositsNothing (host : Host D) : System.Guard (State D) (Action D) (Output D) :=
  fun _ s action => action.deposits host s = none

instance (host : Host D) (log : List (Entry (State D) (Action D) (Output D))) (s : State D)
    (action : Action D) : Decidable (depositsNothing host log s action) :=
  inferInstanceAs (Decidable (_ = none))

/-- The shares redeemed so far. -/
def redeemedTotal (host : Host D) : List (Entry (State D) (Action D) (Output D)) → Int
  | [] => 0
  | e :: past => redeemedTotal host past + (e.action.redeems host e.pre).getD 0

/-- The principal the redeemed shares stood for, each tranche when it was redeemed. -/
def principalTotal (host : Host D) : List (Entry (State D) (Action D) (Output D)) → Int
  | [] => 0
  | e :: past =>
      principalTotal host past + ((e.action.redeems host e.pre).map (principalOf e.pre)).getD 0

/-- A redemption books the principal its shares stand for, which is within the
position, and no step lowers the book value of a share. -/
structure AtBookValue (host : Host D) (e : Entry (State D) (Action D) (Output D)) : Prop where
  booked : ∀ shares ∈ e.action.redeems host e.pre,
    e.post.totalDeployedShares = e.pre.totalDeployedShares - shares ∧
      e.post.totalDeployedXlm = e.pre.totalDeployedXlm - principalOf e.pre shares
  within : ∀ shares ∈ e.action.redeems host e.pre,
    0 ≤ principalOf e.pre shares ∧ principalOf e.pre shares ≤ e.pre.totalDeployedXlm
  value : e.pre.totalDeployedXlm * e.post.totalDeployedShares ≤
    e.post.totalDeployedXlm * e.pre.totalDeployedShares

variable {host : Host D} {s s' : State D} {action : Action D} {output : Output D} {p : Position}

/-- Without deposits the position changes by what an action redeems alone. -/
theorem PositionStep.redeems_only (step : PositionStep host s action p)
    (without : action.deposits host s = none) :
    (action.redeems host s = none ∧ p.totalDeployedShares = s.totalDeployedShares ∧
        p.totalDeployedXlm = s.totalDeployedXlm) ∨
      ∃ shares, action.redeems host s = some shares ∧
        (0 < shares ∧ shares ≤ s.totalDeployedShares) ∧
        p.totalDeployedShares = s.totalDeployedShares - shares ∧
        p.totalDeployedXlm = s.totalDeployedXlm - principalOf s shares := by
  cases step with
  | kept unmoved =>
      left
      refine ⟨?_, rfl, rfl⟩
      cases action with
      | invoke env call => exact unmoved.2.2
      | _ => rfl
  | capSet | vaultSet | deployBpsSet | sharesMoved => exact .inl ⟨rfl, rfl, rfl⟩
  | deposited asked =>
      cases asked.symm.trans without
  | redeemed asked positive within =>
      exact .inr ⟨_, asked, ⟨positive, within⟩, rfl, rfl⟩

/-- The position while it is taken down: what was redeemed and what is left make up
what there was, and principal is left exactly as long as shares are. -/
structure TakenDown (host : Host D) (xlm shares : Int)
    (log : List (Entry (State D) (Action D) (Output D))) (s : State D) : Prop where
  sound : s.position.Sound
  together : SharesWithPrincipal s
  shares : s.totalDeployedShares + redeemedTotal host log = shares
  principal : s.totalDeployedXlm + principalTotal host log = xlm

/-- A step that redeems nothing leaves the position as it is. -/
theorem TakenDown.unmoved {xlm shares : Int} {log : List (Entry (State D) (Action D) (Output D))}
    (down : TakenDown host xlm shares log s) (nothing : action.redeems host s = none)
    (sharesKept : s'.totalDeployedShares = s.totalDeployedShares)
    (xlmKept : s'.totalDeployedXlm = s.totalDeployedXlm) :
    AtBookValue host ⟨s, action, output, s'⟩ ∧
      TakenDown host xlm shares (⟨s, action, output, s'⟩ :: log) s' := by
  obtain ⟨⟨held, worth⟩, together, sum, worthSum⟩ := down
  simp only [State.position, SharesWithPrincipal] at held worth together
  constructor
  · constructor
    · simp [nothing]
    · simp [nothing]
    · simp only [sharesKept, xlmKept, le_refl]
  · constructor
    · constructor <;> simp only [State.position, sharesKept, xlmKept, held, worth]
    · simpa only [SharesWithPrincipal, sharesKept, xlmKept] using together
    · simpa [redeemedTotal, nothing, sharesKept] using sum
    · simpa [principalTotal, nothing, xlmKept] using worthSum

/-- A redemption takes the principal its shares stand for. -/
theorem TakenDown.redeemed {xlm shares redeemed : Int}
    {log : List (Entry (State D) (Action D) (Output D))} (down : TakenDown host xlm shares log s)
    (asked : action.redeems host s = some redeemed)
    (bounds : 0 < redeemed ∧ redeemed ≤ s.totalDeployedShares)
    (sharesLeft : s'.totalDeployedShares = s.totalDeployedShares - redeemed)
    (xlmLeft : s'.totalDeployedXlm = s.totalDeployedXlm - principalOf s redeemed) :
    AtBookValue host ⟨s, action, output, s'⟩ ∧
      TakenDown host xlm shares (⟨s, action, output, s'⟩ :: log) s' := by
  obtain ⟨positive, within⟩ := bounds
  have xlm : 0 ≤ s.totalDeployedXlm := down.sound.principal
  have held : 0 < s.totalDeployedShares := positive.trans_le within
  have slice : principalOf s redeemed ≤ s.totalDeployedXlm := down.sound.slice_le positive within
  have nonneg : 0 ≤ principalOf s redeemed := slice_nonneg xlm positive.le held.le
  constructor
  · constructor
    · simp [asked, sharesLeft, xlmLeft]
    · simpa [asked] using ⟨nonneg, slice⟩
    · simp only [sharesLeft, xlmLeft]
      exact mul_rest_le xlm positive.le held
  · constructor
    · constructor <;> simp only [State.position, sharesLeft, xlmLeft, sub_nonneg, within, slice]
    · rw [SharesWithPrincipal, sharesLeft, xlmLeft]
      exact redemption_together down.together xlm positive within
    · have before := down.shares
      simp only [redeemedTotal, asked, Option.getD_some, sharesLeft]
      omega
    · have before := down.principal
      simp only [principalTotal, asked, Option.map_some, Option.getD_some, xlmLeft]
      omega

variable [DecidableEq D]

/-- A step without a deposit is made at book value and takes the position down. -/
theorem TakenDown.step {xlm shares : Int} {log : List (Entry (State D) (Action D) (Output D))}
    (down : TakenDown host xlm shares log s) (without : action.deposits host s = none)
    (stepped : poolStep host s action = .ok (output, s')) :
    AtBookValue host ⟨s, action, output, s'⟩ ∧
      TakenDown host xlm shares (⟨s, action, output, s'⟩ :: log) s' := by
  rcases (step_positions stepped).redeems_only without with
    ⟨nothing, sharesKept, xlmKept⟩ | ⟨redeemed, asked, bounds, sharesLeft, xlmLeft⟩
  · exact down.unmoved nothing sharesKept xlmKept
  · exact down.redeemed asked bounds sharesLeft xlmLeft

/-- From every position with principal and shares, whatever steps without a deposit
are taken: each is made at book value, principal is left exactly as long as shares
are, and once the redeemed shares add up to all there were, the principal they
stood for adds up to all there was. -/
theorem redemptions_at_book_value (host : Host D) {s s' : State D}
    {log : List (Entry (State D) (Action D) (Output D))} (principal : 0 < s.totalDeployedXlm)
    (shares : 0 < s.totalDeployedShares)
    (run : ((poolSystem host).startingAt s).Run (depositsNothing host) log s') :
    System.Along (fun _ e => AtBookValue host e) log ∧
      (0 < s'.totalDeployedXlm ↔ 0 < s'.totalDeployedShares) ∧
      (redeemedTotal host log = s.totalDeployedShares →
        principalTotal host log = s.totalDeployedXlm) := by
  have opening : TakenDown host s.totalDeployedXlm s.totalDeployedShares [] s := by
    refine ⟨⟨shares.le, principal.le⟩, ?_, add_zero _, add_zero _⟩
    exact iff_of_false shares.ne' principal.ne'
  obtain ⟨along, down⟩ := run.along (P := fun _ e => AtBookValue host e)
    (I := TakenDown host s.totalDeployedXlm s.totalDeployedShares)
    (by
      rintro _ rfl
      exact opening)
    (fun _ _ _ _ _ _ down without stepped => down.step without stepped)
  have nonneg := down.sound.shares
  have worth := down.sound.principal
  have together := down.together
  have sum := down.shares
  have worthSum := down.principal
  simp only [State.position, SharesWithPrincipal] at nonneg worth together
  refine ⟨along, ?_, ?_⟩
  · omega
  · intro all
    have none : s'.totalDeployedShares = 0 := by omega
    have nothing := together.mp none
    omega

/-- The 40000 shares of the concrete position are redeemed in three tranches. -/
theorem redemptions_at_book_value_sample :
    0 < samplePosition.totalDeployedXlm ∧ 0 < samplePosition.totalDeployedShares ∧
      ∃ log s, ((poolSystem sampleHost).startingAt samplePosition).Run
          (depositsNothing sampleHost) log s ∧
        redeemedTotal sampleHost log = 40000 ∧ principalTotal sampleHost log = 50000 := by
  refine ⟨by decide, by decide, ?_⟩
  obtain ⟨log, s, run, ends⟩ := System.exists_run_of_replay
    ((poolSystem sampleHost).startingAt samplePosition) (depositsNothing sampleHost) rfl
    [.invoke (.of [party 1] ⟨0, 0, 8, 7⟩) (.provideLiquidity 7 0),
     .invoke (.of [party 1] ⟨0, 0, 40000, 33333⟩) (.extractYield 33333 0),
     .invoke (.of [party 1] ⟨0, 0, 9000, 6660⟩) (.provideLiquidity 6660 0)]
    (fun log _ => redeemedTotal sampleHost log = 40000) (by decide +kernel)
  exact ⟨log, s, run, ends,
    (redemptions_at_book_value sampleHost (by decide) (by decide) run).2.2 ends⟩

end ProtectionPool
