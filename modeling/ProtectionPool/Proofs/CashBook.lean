/-
Module: ProtectionPool.Proofs.CashBook
Purpose: The XLM that changes hands.  The token transfers a call orders are read off
  the call, the state and its answer; what the vault moves while it serves the call and
  what moves outside the contract is kept apart.  From any state on each holder has what
  it had, what it received and not what it spent, and the transfers are those the
  published events announce.
Trusted boundary: none
Main exports: ordered, outside, step_balances, Announces, balances_settle, Sanctioned,
  dispatch_sanctioned
-/
import ProtectionPool.Library.Accounts
import ProtectionPool.Library.Replay
import ProtectionPool.Model.Events
import ProtectionPool.Books.Frames
import ProtectionPool.Books.Position
import ProtectionPool.Books.Register

namespace ProtectionPool

open Checked Accounts

variable {D : Type}

/-! ### Who pays whom -/

/-- The token transfers a call orders, given what it answered. -/
def ordered (host : Host D) (s : State D) (output : Output D) :
    Call D → List (Transfer Address Int)
  | .stake staker amount _ => [⟨staker, host.contract, amount⟩]
  | .withdraw staker beneficiary => [⟨host.contract, beneficiary, depositOf s staker⟩]
  | .emergencyExit staker => [⟨host.contract, staker, depositOf s staker⟩]
  | .claimStream _ beneficiary =>
      match output with
      | .amount paid => [⟨host.contract, beneficiary, paid⟩]
      | _ => []
  | .extractYield _ _ =>
      match s.treasury, output with
      | some treasury, .amount sent =>
          if 0 < sent then [⟨host.contract, treasury, sent⟩] else []
      | _, _ => []
  | .withdrawYield amount =>
      s.treasury.elim [] fun treasury => [⟨host.contract, treasury, amount⟩]
  | _ => []

/-- The transfers of a step. -/
def Action.ordered (host : Host D) (s : State D) (output : Output D) :
    Action D → List (Transfer Address Int)
  | .invoke _ call => ProtectionPool.ordered host s output call
  | _ => []

/-- What the vault pays into the pool, or pulls out of it, while it serves a call. -/
def vaultFlow (host : Host D) (env : Env) (s : State D) (call : Call D) : Int :=
  (if (redeemedShares host s call).isSome then env.vault.paid else 0) -
    if (depositedXlm host s call).isSome then env.vault.pulled else 0

/-- What reaches a holder by other ways than the contract's own transfers. -/
def Action.outside (host : Host D) (s : State D) (holder : Address) : Action D → Int
  | .invoke env call => if holder = host.contract then vaultFlow host env s call else 0
  | .moveXlm mover balance => if holder = mover then balance - s.xlm mover else 0
  | _ => 0

/-- The transfers of a run, in their order. -/
def transfersOf (host : Host D) (log : Log D) : List (Transfer Address Int) :=
  System.trace (fun e => e.action.ordered host e.pre e.result) log

/-- What reached a holder in a run by other ways. -/
def outsideOf (host : Host D) (holder : Address) (log : Log D) : Int :=
  (log.map fun e => e.action.outside host e.pre holder).sum

variable {host : Host D} {env : Env} {s s' : State D} {output : Output D}

theorem moved_eq_settle {xlm : Address → Int} {payer payee : Address} {amount : Int} :
    moved xlm payer payee amount = (Transfer.mk payer payee amount).settle xlm := rfl

/-! ### Calls that ask the vault -/

/-- A deposit takes what the vault pulled from the pool. -/
theorem xlm_afterDeposit {call : Call D} {vault : Address} {amount : Int}
    (asked : depositedXlm host s call = some amount)
    (noRedemption : redeemedShares host s call = none) :
    (s.afterDeposit host vault env.vault amount).xlm =
      fun holder => s.xlm holder + (Action.invoke env call).outside host s holder := by
  funext holder
  simp only [State.afterDeposit, Action.outside, vaultFlow, asked, noRedemption,
    Option.isSome_some, Option.isSome_none, Bool.false_eq_true, if_true, if_false,
    Function.update_apply, liquidBalance]
  split_ifs with pool
  · subst pool
    omega
  · exact (add_zero _).symm

/-- A redemption brings what the vault paid to the pool. -/
theorem xlm_afterRedemption {call : Call D} {vault : Address} {shares : Int}
    (asked : redeemedShares host s call = some shares)
    (noDeposit : depositedXlm host s call = none) :
    (s.afterRedemption host vault env.vault shares).xlm =
      fun holder => s.xlm holder + (Action.invoke env call).outside host s holder := by
  funext holder
  simp only [State.afterRedemption, Action.outside, vaultFlow, asked, noDeposit,
    Option.isSome_some, Option.isSome_none, Bool.false_eq_true, if_true, if_false,
    Function.update_apply, liquidBalance]
  split_ifs with pool
  · subst pool
    omega
  · exact (add_zero _).symm

/-! ### Every step -/

/-- A call that asks nothing of the vault reaches holders by its own transfers
alone. -/
theorem outside_of_quiet {call : Call D} (noDeposit : depositedXlm host s call = none)
    (noRedemption : redeemedShares host s call = none) :
    (fun holder => s.xlm holder + (Action.invoke env call).outside host s holder) = s.xlm := by
  funext holder
  simp [Action.outside, vaultFlow, noRedemption, noDeposit]

variable [DecidableEq D]

/-- A call leaves every holder with what it had, what the vault moved and what the
ordered transfers brought and took. -/
theorem dispatch_settles {call : Call D} (stepped : dispatch host env s call = .ok (output, s')) :
    s'.xlm = (ordered host s output call).foldl (fun xlm t => t.settle xlm)
      (fun holder => s.xlm holder + (Action.invoke env call).outside host s holder) := by
  cases call with
  | stake staker amount beneficiary =>
      obtain ⟨stepped, -⟩ := returningUnit_eq_ok.mp stepped
      rw [outside_of_quiet rfl rfl, (stake_eq_ok.mp stepped).state]
      rfl
  | withdraw staker beneficiary =>
      obtain ⟨stepped, -⟩ := returningUnit_eq_ok.mp stepped
      obtain ⟨record, _, _, withdrawn⟩ := withdraw_eq_ok.mp stepped
      rw [outside_of_quiet rfl rfl, ordered, depositOf, withdrawn.stored, withdrawn.state]
      rfl
  | emergencyExit staker =>
      obtain ⟨stepped, -⟩ := returningUnit_eq_ok.mp stepped
      obtain ⟨record, exited⟩ := emergencyExit_eq_ok.mp stepped
      rw [outside_of_quiet rfl rfl, ordered, depositOf, exited.stored, exited.state]
      rfl
  | claimStream claimId beneficiary =>
      obtain ⟨paid, payout, rfl⟩ := returning_eq_ok.mp stepped
      obtain ⟨_, _, streamed⟩ := claimStream_eq_ok.mp payout
      rw [outside_of_quiet rfl rfl, streamed.state]
      rfl
  | submitClaim | tryReleaseQueuedClaim | approveClaim | cancelClaim | approveOverride
  | setBeneficiary | suspendStake | unsuspendStake | revokeApproval | unlockPendingClaim
  | expireQueuedClaim | expirePendingApproval | expireStaleClaim | cancelPendingOverride =>
      rw [outside_of_quiet rfl rfl]
      exact dispatch_leaves_offBooks State.xlm (fun _ => rfl) rfl _ stepped
  | deployToVault amount minSharesOut =>
      obtain ⟨gained, stepped, -⟩ := returning_eq_ok.mp stepped
      obtain ⟨positive, vault, configured, -, rfl⟩ := deployToVault_ok stepped
      exact xlm_afterDeposit rfl rfl
  | autoDeployLiquidity =>
      obtain ⟨gained, stepped, -⟩ := returning_eq_ok.mp stepped
      obtain ⟨-, amount, computed, ⟨nothing, -, rfl⟩ | ⟨positive, vault, configured, -, rfl⟩⟩ :=
        autoDeployLiquidity_ok stepped
      · have noDeposit : depositedXlm host s' .autoDeployLiquidity = none := by
          simp only [depositedXlm, computed, nothing, if_true]
        rw [outside_of_quiet noDeposit rfl]
        rfl
      · have asked : depositedXlm host s .autoDeployLiquidity = some amount := by
          simp only [depositedXlm, computed, positive.ne', if_false]
        exact xlm_afterDeposit asked rfl
  | provideLiquidity shares minXlmOut =>
      obtain ⟨received, stepped, -⟩ := returning_eq_ok.mp stepped
      obtain ⟨⟨positive, within⟩, -, vault, configured, -, rfl⟩ := provideLiquidity_ok stepped
      exact xlm_afterRedemption rfl rfl
  | ensureLiquidity =>
      obtain ⟨received, stepped, -⟩ := returning_eq_ok.mp stepped
      obtain ⟨shortfall, computed, ⟨nothing, -, rfl⟩ |
        ⟨short, -, shares, vault, needed, -, -, -, configured, -, rfl⟩⟩ :=
        ensureLiquidity_ok stepped
      · have noRedemption : redeemedShares host s' .ensureLiquidity = none := by
          simp only [redeemedShares, computed, nothing, if_true]
        rw [outside_of_quiet rfl noRedemption]
        rfl
      · have asked : redeemedShares host s .ensureLiquidity = some shares := by
          simp only [redeemedShares, computed, short.ne', if_false, needed]
        exact xlm_afterRedemption asked rfl
  | extractYield shares minXlmOut =>
      obtain ⟨sent, extracted, rfl⟩ := returning_eq_ok.mp stepped
      obtain ⟨-, -, vault, treasury, configured, recipient, -, paid⟩ := extractYield_ok extracted
      have redeemed : (s.afterRedemption host vault env.vault shares).xlm = fun holder =>
          s.xlm holder +
            (Action.invoke env (.extractYield shares minXlmOut)).outside host s holder :=
        xlm_afterRedemption rfl rfl
      simp only [ordered, recipient]
      rcases sendYield_ok paid with ⟨some, -, rfl⟩ | ⟨nothing, rfl⟩
      · rw [if_pos some, ← redeemed]
        rfl
      · rw [if_neg (not_lt.mpr nothing), ← redeemed]
        rfl
  | withdrawYield amount =>
      obtain ⟨stepped, -⟩ := returningUnit_eq_ok.mp stepped
      obtain ⟨treasury, _, drawn⟩ := withdrawYield_ok stepped
      rw [outside_of_quiet rfl rfl, ordered, drawn.recipient, drawn.state]
      rfl
  | setOracle | setOraclePubkey | setOracleIdentity | setCoSigner | transferAdmin | pause
  | unpause | setTreasury | setPoolCap | setVault | setDeployBps =>
      rw [outside_of_quiet rfl rfl]
      exact dispatch_leaves_offSettings State.xlm (fun _ => rfl) rfl _ stepped

/-- Every step of the deployed contract and its surroundings settles its transfers. -/
theorem step_balances {action : Action D} (stepped : poolStep host s action = .ok (output, s'))
    (holder : Address) :
    s'.xlm holder = s.xlm holder + action.outside host s holder +
      received holder (action.ordered host s output) -
      spent holder (action.ordered host s output) := by
  cases action with
  | invoke env call =>
      rw [dispatch_settles stepped, settleAll_apply]
      rfl
  | closeLedger sequence timestamp =>
      obtain ⟨-, -, rfl⟩ := closeLedger_eq_ok.mp (returningUnit_eq_ok.mp stepped).1
      simp [Action.outside, Action.ordered]
  | moveXlm mover balance =>
      obtain ⟨-, -, rfl⟩ := moveXlm_eq_ok.mp (returningUnit_eq_ok.mp stepped).1
      simp only [Action.outside, Action.ordered, received_nil, spent_nil, Function.update_apply]
      split_ifs with own
      · subst own
        omega
      · omega
  | moveShares vault balance =>
      obtain rfl := moveShares_eq_ok.mp (returningUnit_eq_ok.mp stepped).1
      simp [Action.outside, Action.ordered]

/-! ### What the events announce -/

/-- An event that announces a payment. -/
def Event.isPayment : Event D → Bool
  | .staked _ _ | .withdrawn _ _ | .emergencyExit _ _ | .claimStreamed _ _
  | .yieldWithdrawn _ _ => true
  | .yieldExtracted _ _ _ yieldAmount => decide (0 < yieldAmount)
  | _ => false

/-- An event announces a transfer: who stakes pays the pool, and the pool pays the amount
named, to whom it names if it names anybody. -/
inductive Announces (host : Host D) : Event D → Transfer Address Int → Prop where
  | staked {staker : Address} {amount : Int} :
      Announces host (.staked staker amount) ⟨staker, host.contract, amount⟩
  | withdrawn {staker beneficiary : Address} {amount : Int} :
      Announces host (.withdrawn staker amount) ⟨host.contract, beneficiary, amount⟩
  | emergencyExit {staker : Address} {amount : Int} :
      Announces host (.emergencyExit staker amount) ⟨host.contract, staker, amount⟩
  | claimStreamed {wallet beneficiary : Address} {amount : Int} :
      Announces host (.claimStreamed wallet amount) ⟨host.contract, beneficiary, amount⟩
  | yieldExtracted {treasury : Address} {shares received yieldAmount : Int} :
      Announces host (.yieldExtracted treasury shares received yieldAmount)
        ⟨host.contract, treasury, yieldAmount⟩
  | yieldWithdrawn {treasury : Address} {amount : Int} :
      Announces host (.yieldWithdrawn treasury amount) ⟨host.contract, treasury, amount⟩

/-- The payments a list of events announces. -/
def paymentEvents (events : List (Event D)) : List (Event D) := events.filter Event.isPayment

/-- The events of a run, in their order. -/
def eventsOf (host : Host D) (log : Log D) : List (Event D) :=
  System.trace (fun e => e.action.published host e.pre e.result) log

omit [DecidableEq D] in
theorem paymentEvents_append (events events' : List (Event D)) :
    paymentEvents (events ++ events') = paymentEvents events ++ paymentEvents events' :=
  List.filter_append ..

/-- What a claim operation says of its claim announces nothing, unless it is a payout. -/
theorem paymentEvents_claimPublished {claimId : D} {event : Claim → Event D}
    (quiet : ∀ claim, (event claim).isPayment = false) :
    paymentEvents (claimPublished s claimId event) = [] := by
  unfold claimPublished
  split
  · exact List.filter_eq_nil_iff.mpr fun e member => by
      rw [List.mem_singleton.mp member, quiet]
      nofun
  · rfl

omit [DecidableEq D] in
/-- A redemption announces what its own event does. -/
theorem paymentEvents_redemptionPublished {vault : Address} {shares : Int}
    (configured : s.vault = some vault) {event : Address → Event D} :
    paymentEvents (redemptionPublished env s shares event) = paymentEvents [event vault] := by
  simp only [redemptionPublished, configured, redeemPublished, paymentEvents_append]
  split_ifs <;> rfl

omit [DecidableEq D] in
theorem paymentEvents_redemption_quiet {shares : Int} {event : Address → Event D}
    (quiet : ∀ vault, (event vault).isPayment = false) :
    paymentEvents (redemptionPublished env s shares event) = [] := by
  cases configured : s.vault with
  | none =>
      rw [redemptionPublished, configured]
      rfl
  | some vault =>
      rw [paymentEvents_redemptionPublished configured, paymentEvents, List.filter_singleton, quiet]
      rfl

/-- The events of a call announce its transfers. -/
theorem dispatch_announces {call : Call D} (stepped : dispatch host env s call = .ok (output, s')) :
    List.Forall₂ (Announces host) (paymentEvents (published host env s output call))
      (ordered host s output call) := by
  cases call with
  | stake => exact .cons .staked .nil
  | withdraw => exact .cons .withdrawn .nil
  | emergencyExit => exact .cons .emergencyExit .nil
  | claimStream claimId beneficiary =>
      obtain ⟨paid, payout, rfl⟩ := returning_eq_ok.mp stepped
      obtain ⟨claim, _, streamed⟩ := claimStream_eq_ok.mp payout
      simp only [published, claimPublished, streamed.listed]
      exact .cons .claimStreamed .nil
  | extractYield shares minXlmOut =>
      obtain ⟨sent, extracted, rfl⟩ := returning_eq_ok.mp stepped
      obtain ⟨-, -, vault, treasury, configured, recipient, -, -⟩ := extractYield_ok extracted
      simp only [published, ordered, recipient, paymentEvents_redemptionPublished configured]
      by_cases some : 0 < sent
      · simp only [paymentEvents, Event.isPayment, some, decide_true, List.filter_cons_of_pos,
          if_true]
        exact .cons .yieldExtracted .nil
      · simp only [paymentEvents, Event.isPayment, some, decide_false, Bool.false_eq_true,
          List.filter_cons_of_neg, not_false_eq_true, List.filter_nil, if_false]
        exact .nil
  | withdrawYield amount =>
      obtain ⟨stepped, -⟩ := returningUnit_eq_ok.mp stepped
      obtain ⟨treasury, _, drawn⟩ := withdrawYield_ok stepped
      simp only [published, ordered, drawn.recipient]
      exact .cons .yieldWithdrawn .nil
  | unlockPendingClaim | tryReleaseQueuedClaim | expireQueuedClaim | approveClaim
  | expirePendingApproval | expireStaleClaim | cancelClaim =>
      rw [published, paymentEvents_claimPublished fun _ => rfl]
      exact .nil
  | provideLiquidity =>
      rw [published, paymentEvents_redemption_quiet fun _ => rfl]
      exact .nil
  | ensureLiquidity =>
      have quiet : paymentEvents (ensurePublished host env s) = [] := by
        unfold ensurePublished
        repeat' split
        all_goals first | rfl | exact paymentEvents_redemption_quiet fun _ => rfl
      rw [published, quiet]
      exact .nil
  | deployToVault =>
      rw [published]
      cases s.vault <;> exact .nil
  | autoDeployLiquidity =>
      have quiet : paymentEvents (autoDeployPublished host env s) = [] := by
        unfold autoDeployPublished
        split
        · split
          · rfl
          · cases s.vault <;> rfl
        · rfl
      rw [published, quiet]
      exact .nil
  | approveOverride caller wallet txHash entitlement tier =>
      have quiet : paymentEvents (overridePublished host s caller wallet txHash entitlement tier) =
          [] := by
        unfold overridePublished
        dsimp only
        split
        · split <;> rfl
        · rfl
      rw [published, quiet]
      exact .nil
  | submitClaim =>
      rw [published]
      split <;> exact .nil
  | _ => exact .nil

theorem step_announces {action : Action D} (stepped : poolStep host s action = .ok (output, s')) :
    List.Forall₂ (Announces host) (paymentEvents (action.published host s output))
      (action.ordered host s output) := by
  cases action with
  | invoke env call => exact dispatch_announces stepped
  | closeLedger | moveXlm | moveShares => exact .nil

/-- From any state on each holder has what it had, what reached it by other ways, and what
the contract's transfers brought it and did not take; and the transfers are those the
published events announce, one for one and in their order. -/
theorem balances_settle (host : Host D) {first s : State D} {log : Log D}
    (run : ((poolSystem host).startingAt first).Run System.anyStep log s) :
    (∀ holder, s.xlm holder = first.xlm holder + outsideOf host holder log +
        received holder (transfersOf host log) - spent holder (transfersOf host log)) ∧
      List.Forall₂ (Announces host) (paymentEvents (eventsOf host log)) (transfersOf host log) := by
  induction run with
  | start initial =>
      obtain rfl := initial
      refine ⟨fun holder => ?_, .nil⟩
      simp [outsideOf, transfersOf, System.trace]
  | step run met stepped inductionHypothesis =>
      obtain ⟨settled, announced⟩ := inductionHypothesis
      constructor
      · intro holder
        have earlier := settled holder
        have now := step_balances stepped holder
        simp only [outsideOf, transfersOf, System.trace, List.map_cons, List.sum_cons,
          received_append, spent_append] at earlier ⊢
        omega
      · rw [eventsOf, transfersOf, System.trace, System.trace, paymentEvents_append]
        exact List.rel_append announced (step_announces stepped)

/-- A deposit, a payout, a redemption and an outside movement settled together. -/
theorem balances_settle_sample :
    ∃ log s, ((poolSystem sampleHost).startingAt samplePool).Run System.anyStep log s ∧
      (transfersOf sampleHost log).length = 3 ∧
      (∀ holder, s.xlm holder = samplePool.xlm holder + outsideOf sampleHost holder log +
          received holder (transfersOf sampleHost log) -
          spent holder (transfersOf sampleHost log)) ∧
        List.Forall₂ (Announces sampleHost) (paymentEvents (eventsOf sampleHost log))
          (transfersOf sampleHost log) := by
  obtain ⟨log, s, run, three⟩ := System.exists_run_of_replay
    ((poolSystem sampleHost).startingAt samplePool) System.anyStep rfl
    (sampleOpening 20000 ++ [afterDays 60,
      callBy 11 (.claimStream (computeClaimId sampleHost (party 11) 0) (party 21)),
      callBy 1 (.setVault (.contract 2)), callBy 1 (.setDeployBps 5000),
      .invoke (.of [party 1] ⟨40000, 40000, 0, 0⟩) (.deployToVault 40000 0),
      .invoke (.of [party 1] ⟨0, 0, 9000, 10000⟩) (.provideLiquidity 10000 0),
      .moveXlm (party 21) 5])
    (fun log _ => (transfersOf sampleHost log).length = 3) (by decide +kernel)
  exact ⟨log, s, run, three, balances_settle sampleHost run⟩

/-! ### What sanctions a transfer -/

/-- The grounds on which a call moves XLM: the staker's own deposit, principal taken out
by its staker, a payout of a claim in effect to the address its wallet committed to, or
yield sent to the treasury by the admin. -/
inductive Sanctioned (host : Host D) (env : Env) (s : State D) :
    Call D → Transfer Address Int → Prop where
  | deposit {staker beneficiary : Address} {amount : Int} (unpaused : s.paused = false)
      (signed : staker ∈ env.signers) (pays : staker ≠ host.contract) (positive : 0 < amount) :
      Sanctioned host env s (.stake staker amount beneficiary) ⟨staker, host.contract, amount⟩
  | withdrawal {staker beneficiary : Address} {record : StakeRecord D}
      (unpaused : s.paused = false) (signed : staker ∈ env.signers)
      (stored : s.stakes.get staker = some record) (live : record.isLive = true)
      (free : record.activeClaimId = none) (unlocked : record.penaltyLockedUntilLedger ≤ s.sequence)
      (committed : addressHash host beneficiary = record.beneficiaryHash) :
      Sanctioned host env s (.withdraw staker beneficiary)
        ⟨host.contract, beneficiary, record.amount⟩
  | exit {staker : Address} {record : StakeRecord D} (signed : staker ∈ env.signers)
      (stored : s.stakes.get staker = some record) (live : record.isLive = true)
      (free : record.activeClaimId = none) :
      Sanctioned host env s (.emergencyExit staker) ⟨host.contract, staker, record.amount⟩
  | payout {claimId : D} {beneficiary : Address} {claim : Claim} {record : StakeRecord D}
      {amount : Int} (unpaused : s.paused = false) (listed : s.claims.get claimId = some claim)
      (signed : claim.wallet ∈ env.signers) (active : claim.status = .active)
      (cooled : claim.cooldownEndsLedger ≤ s.sequence)
      (stored : s.stakes.get claim.wallet = some record) (unsuspended : record.suspended = false)
      (committed : addressHash host beneficiary = record.beneficiaryHash)
      (due : transferAmount s claim = .ok amount) :
      Sanctioned host env s (.claimStream claimId beneficiary)
        ⟨host.contract, beneficiary, amount⟩
  | extraction {shares minXlmOut sent : Int} {treasury : Address}
      (signed : s.admin ∈ env.signers) (recipient : s.treasury = some treasury)
      (gain : sent = env.vault.paid - principalOf s shares) (positive : 0 < sent) :
      Sanctioned host env s (.extractYield shares minXlmOut) ⟨host.contract, treasury, sent⟩
  | surplus {amount available : Int} {treasury : Address} (signed : s.admin ∈ env.signers)
      (recipient : s.treasury = some treasury) (positive : 0 < amount)
      (computed : yieldBalance host s = .ok available) (within : amount ≤ available) :
      Sanctioned host env s (.withdrawYield amount) ⟨host.contract, treasury, amount⟩

/-- The transfers a call orders are sanctioned and covered by their payer. -/
theorem dispatch_sanctioned {call : Call D}
    (stepped : dispatch host env s call = .ok (output, s')) :
    ∀ t ∈ ordered host s output call, Sanctioned host env s call t := by
  cases call with
  | stake staker amount beneficiary =>
      obtain ⟨stepped, -⟩ := returningUnit_eq_ok.mp stepped
      have staked := stake_eq_ok.mp stepped
      simpa [ordered] using
        Sanctioned.deposit staked.running staked.signed.1 staked.signed.2 staked.positive
  | withdraw staker beneficiary =>
      obtain ⟨stepped, -⟩ := returningUnit_eq_ok.mp stepped
      obtain ⟨record, _, _, withdrawn⟩ := withdraw_eq_ok.mp stepped
      simpa [ordered, depositOf, withdrawn.stored] using
        Sanctioned.withdrawal withdrawn.running withdrawn.signed.1 withdrawn.stored withdrawn.live
          withdrawn.inactive withdrawn.unlocked withdrawn.committed
  | emergencyExit staker =>
      obtain ⟨stepped, -⟩ := returningUnit_eq_ok.mp stepped
      obtain ⟨record, exited⟩ := emergencyExit_eq_ok.mp stepped
      simpa [ordered, depositOf, exited.stored] using
        Sanctioned.exit exited.signed.1 exited.stored exited.live exited.inactive
  | claimStream claimId beneficiary =>
      obtain ⟨paid, payout, rfl⟩ := returning_eq_ok.mp stepped
      obtain ⟨claim, record, streamed⟩ := claimStream_eq_ok.mp payout
      simpa [ordered] using
        Sanctioned.payout streamed.running streamed.listed streamed.signed.1 streamed.active
          streamed.cooled streamed.stored streamed.unsuspended streamed.committed streamed.computed
  | extractYield shares minXlmOut =>
      obtain ⟨sent, extracted, rfl⟩ := returning_eq_ok.mp stepped
      obtain ⟨-, -, vault, treasury, -, recipient, gain, -⟩ := extractYield_ok extracted
      have signed : s.admin ∈ env.signers := by
        simp only [extractYield, bind_eq_ok, requireAuth_eq_ok] at extracted
        obtain ⟨_, ⟨signed, -⟩, -⟩ := extracted
        exact signed
      intro t member
      simp only [ordered, recipient] at member
      split_ifs at member with positive
      · obtain rfl := List.mem_singleton.mp member
        exact .extraction signed recipient (by omega) positive
      · cases member
  | withdrawYield amount =>
      obtain ⟨stepped, -⟩ := returningUnit_eq_ok.mp stepped
      obtain ⟨treasury, available, drawn⟩ := withdrawYield_ok stepped
      simpa [ordered, drawn.recipient] using
        Sanctioned.surplus drawn.signed.1 drawn.recipient drawn.positive drawn.computed
          drawn.within
  | _ =>
      intro t member
      cases member

end ProtectionPool
