/-
Module: ProtectionPool.Proofs.Indexer
Purpose: What an observer of the contract's events knows.  An indexer that reads
  the published events in their order, and nothing else, has the deposits on file,
  the phase of every claim, the stake aggregates, the position at the vault and the
  extracted yield exactly as the contract stores them.
Trusted boundary: none
Main exports: Phase, Index, Index.follow, State.index, indexer_follows_run
-/
import ProtectionPool.Library.Replay
import ProtectionPool.Model.Events
import ProtectionPool.Books.Position
import ProtectionPool.Books.Registration

namespace ProtectionPool

open Checked Proportion

variable {D : Type} [DecidableEq D]

/-- How far a claim has got, with the stake an activation took. -/
inductive Phase where
  | queued
  | admitted
  | inEffect (stake : Int)
  | expired
  | cancelled
deriving DecidableEq, Repr

/-- A deposit as the events tell it: its amount, and whether it was taken out or
forfeited. -/
structure Holding where
  amount : Int
  withdrawn : Bool
deriving DecidableEq, Repr

/-- What the indexer keeps. -/
@[ext] structure Index (D : Type) where
  deposits : Address → Option Holding
  phases : D → Option Phase
  totalStaked : Int
  totalStakers : Nat
  deployedShares : Int
  deployedXlm : Int
  extractedYield : Int

namespace Index

/-- The index of a pool just deployed. -/
def opening : Index D where
  deposits _ := none
  phases _ := none
  totalStaked := 0
  totalStakers := 0
  deployedShares := 0
  deployedXlm := 0
  extractedYield := 0

/-- The amount of a wallet's deposit. -/
def amountOf (index : Index D) (wallet : Address) : Int :=
  ((index.deposits wallet).map Holding.amount).getD 0

/-- A deposit leaves the pool. -/
def left (index : Index D) (staker : Address) (amount : Int) : Index D :=
  { index with
    deposits := Function.update index.deposits staker (some ⟨0, true⟩)
    totalStaked := index.totalStaked - amount
    totalStakers := index.totalStakers - 1 }

/-- A claim enters a phase. -/
def enters (index : Index D) (claimId : D) (phase : Phase) : Index D :=
  { index with phases := Function.update index.phases claimId (some phase) }

/-- A deposit is forfeited to a claim. -/
def forfeits (index : Index D) (wallet : Address) (claimId : D) : Index D :=
  { index with
    deposits := Function.update index.deposits wallet (some ⟨index.amountOf wallet, true⟩)
    phases := Function.update index.phases claimId (some (.inEffect (index.amountOf wallet)))
    totalStaked := index.totalStaked - index.amountOf wallet
    totalStakers := index.totalStakers - 1 }

/-- A claim in effect takes a deposit that is forfeited already. -/
def retakes (index : Index D) (wallet : Address) (claimId : D) : Index D :=
  index.enters claimId (.inEffect (index.amountOf wallet))

/-- A claim is cancelled; one in effect gives the forfeited stake back. -/
def cancels (index : Index D) (wallet : Address) (claimId : D) : Index D :=
  match index.phases claimId with
  | some (.inEffect stake) =>
      { index with
        deposits := Function.update index.deposits wallet (some ⟨index.amountOf wallet, false⟩)
        phases := Function.update index.phases claimId (some .cancelled)
        totalStaked := index.totalStaked + stake
        totalStakers := index.totalStakers + 1 }
  | _ => index.enters claimId .cancelled

/-- XLM is deployed for shares. -/
def deploys (index : Index D) (xlmAmount sharesGained : Int) : Index D :=
  { index with
    deployedShares := index.deployedShares + sharesGained
    deployedXlm := index.deployedXlm + xlmAmount }

/-- Shares are redeemed for the principal they stand for. -/
def redeems (index : Index D) (shares : Int) : Index D :=
  { index with
    deployedShares := index.deployedShares - shares
    deployedXlm := index.deployedXlm - slice index.deployedXlm shares index.deployedShares }

/-- What the indexer makes of an event. -/
def follow (index : Index D) : Event D → Index D
  | .staked staker amount =>
      { index with
        deposits := Function.update index.deposits staker (some ⟨amount, false⟩)
        totalStaked := index.totalStaked + amount
        totalStakers := index.totalStakers + 1 }
  | .withdrawn staker amount | .emergencyExit staker amount => index.left staker amount
  | .claimSubmitted _ claimId _ | .claimQueueReleased _ claimId | .claimUnlocked _ claimId =>
      index.enters claimId .admitted
  | .claimQueued _ claimId _ => index.enters claimId .queued
  | .claimQueueExpired _ claimId | .claimExpired _ claimId _ => index.enters claimId .expired
  | .claimApproved wallet claimId _ => index.forfeits wallet claimId
  | .claimCancelled wallet claimId => index.cancels wallet claimId
  | .overrideExecuted wallet claimId _ =>
      if ((index.deposits wallet).map Holding.withdrawn).getD false then
        index.retakes wallet claimId
      else index.forfeits wallet claimId
  | .deployed _ xlmAmount sharesGained | .liquidityAutoDeployed _ xlmAmount sharesGained =>
      index.deploys xlmAmount sharesGained
  | .deploymentShortfall _ principalExpected xlmReceived =>
      { index with
        totalStaked := saturatingSub index.totalStaked (principalExpected - xlmReceived) }
  | .liquidityProvided _ shares _ | .liquidityAutoRebalanced _ shares _ => index.redeems shares
  | .yieldExtracted _ shares _ yieldAmount =>
      { index.redeems shares with extractedYield := index.extractedYield + yieldAmount }
  | .yieldWithdrawn _ amount => { index with extractedYield := index.extractedYield + amount }
  | .claimStreamed _ _ | .overrideCancelled _ | .approvalRevoked _ _ => index

end Index

/-! ### The contract as the indexer sees it -/

def StakeRecord.holding (record : StakeRecord D) : Holding := ⟨record.amount, record.withdrawn⟩

/-- The phase of a stored claim. -/
def Claim.phase (claim : Claim) : Option Phase :=
  match claim.status with
  | .unused => none
  | .reserved => some .queued
  | .pendingTime | .awaitingApproval => some .admitted
  | .active | .completed => some (.inEffect claim.stake)
  | .expired => some .expired
  | .cancelled => some .cancelled

/-- The index of a state. -/
def State.index (s : State D) : Index D where
  deposits wallet := (s.stakes.get wallet).map StakeRecord.holding
  phases claimId := (s.claims.get claimId).bind Claim.phase
  totalStaked := s.totalStaked
  totalStakers := s.totalStakers
  deployedShares := s.totalDeployedShares
  deployedXlm := s.totalDeployedXlm
  extractedYield := s.totalExtractedYield

variable {host : Host D} {env : Env} {s s' : State D} {output : Output D}

/-! ### The views under updates -/

section Views

variable {stakes : Store Address (StakeRecord D)} {claims : Store D Claim} {wallet : Address}
  {claimId : D} {record record' : StakeRecord D} {claim claim' : Claim}

omit [DecidableEq D] in
theorem deposits_set :
    (fun w => ((stakes.set wallet record).get w).map StakeRecord.holding) =
      Function.update (fun w => (stakes.get w).map StakeRecord.holding) wallet
        (some record.holding) := by
  funext w
  by_cases own : w = wallet
  · rw [own, Store.get_set_self, Function.update_self, Option.map_some]
  · rw [Store.get_set_ne _ _ own, Function.update_of_ne own]

omit [DecidableEq D] in
/-- A record rewritten with its holding shows no difference. -/
theorem deposits_amend (stored : stakes.get wallet = some record)
    (same : record'.holding = record.holding) :
    (fun w => ((stakes.set wallet record').get w).map StakeRecord.holding) =
      fun w => (stakes.get w).map StakeRecord.holding := by
  rw [deposits_set, same, Function.update_eq_self_iff, stored, Option.map_some]

theorem phases_set :
    (fun id => ((claims.set claimId claim).get id).bind Claim.phase) =
      Function.update (fun id => (claims.get id).bind Claim.phase) claimId claim.phase := by
  funext id
  by_cases own : id = claimId
  · rw [own, Store.get_set_self, Function.update_self, Option.bind_some]
  · rw [Store.get_set_ne _ _ own, Function.update_of_ne own]

/-- A claim rewritten in its phase shows no difference. -/
theorem phases_amend (listed : claims.get claimId = some claim)
    (same : claim'.phase = claim.phase) :
    (fun id => ((claims.set claimId claim').get id).bind Claim.phase) =
      fun id => (claims.get id).bind Claim.phase := by
  rw [phases_set, same, Function.update_eq_self_iff, listed, Option.bind_some]

end Views

/-! ### Deposits -/

theorem stake_indexed {staker beneficiary : Address} {amount : Int}
    (stepped : stake host env s staker amount beneficiary = .ok s') :
    s'.index = s.index.follow (.staked staker amount) := by
  rw [(stake_eq_ok.mp stepped).state]
  simp only [State.index, State.afterStake, Index.follow, deposits_set]
  rfl

theorem withdraw_indexed {staker beneficiary : Address}
    (stepped : withdraw host env s staker beneficiary = .ok s') :
    s'.index = s.index.follow (.withdrawn staker (depositOf s staker)) := by
  obtain ⟨record, points, balances, withdrawn⟩ := withdraw_eq_ok.mp stepped
  rw [withdrawn.state]
  simp only [State.index, State.afterLeaving, Index.follow, Index.left, deposits_set, depositOf,
    withdrawn.stored, Option.map_some, Option.getD_some]
  rfl

theorem emergencyExit_indexed {staker : Address}
    (stepped : emergencyExit host env s staker = .ok s') :
    s'.index = s.index.follow (.emergencyExit staker (depositOf s staker)) := by
  obtain ⟨record, exited⟩ := emergencyExit_eq_ok.mp stepped
  rw [exited.state]
  simp only [State.index, State.afterLeaving, Index.follow, Index.left, deposits_set, depositOf,
    exited.stored, Option.map_some, Option.getD_some]
  rfl

theorem setBeneficiary_indexed {staker newBeneficiary : Address}
    (stepped : setBeneficiary host env s staker newBeneficiary = .ok s') :
    s'.index = s.index := by
  simp [setBeneficiary] at stepped
  obtain ⟨-, -, -, -, -, -, record, stored, -, -, rfl⟩ := stepped
  exact Index.ext (deposits_amend stored rfl) rfl rfl rfl rfl rfl rfl

/-! ### Claims -/

/-- A claim operation publishes about the claim it found. -/
theorem claimPublished_of_get {claimId : D} {claim : Claim} {event : Claim → Event D}
    (listed : s.claims.get claimId = some claim) :
    claimPublished s claimId event = [event claim] := by
  rw [claimPublished, listed]

/-- An admitted claim is shown as admitted. -/
theorem admitClaim_indexed (host : Host D) {wallet : Address} {txHash : BytesN 32} {claimId : D}
    {entitlement : Int} {tier hackTimestamp : Nat} {record : StakeRecord D} {counted : Bool}
    (stored : s.stakes.get wallet = some record)
    (stepped : admitClaim s wallet txHash claimId entitlement tier hackTimestamp record counted =
      .ok s') :
    s'.index = s.index.enters claimId .admitted := by
  simp [admitClaim] at stepped
  obtain ⟨-, -, -, status, deadline, decided, rfl⟩ := stepped
  have admission : (s.books host).Admission record status := admissionStatus_ok decided
  have shown : (freshClaim wallet txHash hackTimestamp entitlement record.amount tier status
      deadline).phase = some .admitted := by
    rcases admission with ⟨rfl, -⟩ | ⟨rfl, -⟩ <;> rfl
  refine Index.ext (deposits_amend stored rfl) (phases_set.trans ?_) rfl rfl rfl rfl rfl
  rw [shown]
  rfl

/-- Whether a submission is queued is known before it is made. -/
theorem submitClaim_indexed {caller wallet : Address} {txHash : BytesN 32} {entitlement : Int}
    {tier hackTimestamp deadline : Nat} {signature : BytesN 64} {claimId : D}
    (stepped : submitClaim host env s caller wallet txHash entitlement tier hackTimestamp deadline
      signature = .ok (claimId, s')) :
    s'.index = s.index.enters (computeClaimId host wallet txHash)
      (if queues s caller entitlement then .queued else .admitted) := by
  simp only [submitClaim, bind_eq_ok, rejectIf_eq_ok, okOr_eq_ok, i128_eq_ok] at stepped
  obtain ⟨-, -, -, -, -, -, -, -, -, -, -, -, record, stored, _, -, _, ⟨-, rfl⟩,
    _, ⟨-, rfl⟩, stress, stressed, -, -, outcome⟩ := stepped
  rcases ite_eq_ok.mp outcome with ⟨blocked, outcome⟩ | ⟨room, outcome⟩
  · simp only [Except.ok.injEq, Prod.mk.injEq] at outcome
    obtain ⟨-, rfl⟩ := outcome
    have queued : queues s caller entitlement = true := by
      simpa [queues, stressed, or_assoc] using blocked
    rw [if_pos queued]
    exact Index.ext (deposits_amend stored rfl) phases_set rfl rfl rfl rfl rfl
  · simp only [bind_eq_ok, Except.ok.injEq, Prod.mk.injEq] at outcome
    obtain ⟨admitted, stepped, -, rfl⟩ := outcome
    have open' : queues s caller entitlement = false := by
      simpa [queues, stressed, and_assoc] using room
    rw [open', if_neg Bool.false_ne_true]
    exact admitClaim_indexed host stored stepped

theorem tryReleaseQueuedClaim_indexed (host : Host D) {claimId : D}
    (stepped : tryReleaseQueuedClaim s claimId = .ok s') :
    ∃ claim, s.claims.get claimId = some claim ∧
      s'.index = s.index.follow (.claimQueueReleased claim.wallet claimId) := by
  simp [tryReleaseQueuedClaim] at stepped
  obtain ⟨-, claim, listed, -, record, stored, -, -, -, -, -, -, -, stepped⟩ := stepped
  exact ⟨claim, listed, admitClaim_indexed host stored stepped⟩

theorem expireQueuedClaim_indexed {claimId : D}
    (stepped : expireQueuedClaim s claimId = .ok s') :
    ∃ claim, s.claims.get claimId = some claim ∧
      s'.index = s.index.follow (.claimQueueExpired claim.wallet claimId) := by
  simp [expireQueuedClaim] at stepped
  obtain ⟨-, claim, listed, -, -, -, record, stored, rfl⟩ := stepped
  exact ⟨claim, listed,
    Index.ext (deposits_amend stored rfl) phases_set rfl rfl rfl rfl rfl⟩

theorem unlockPendingClaim_indexed {claimId : D}
    (stepped : unlockPendingClaim s claimId = .ok s') :
    ∃ claim, s.claims.get claimId = some claim ∧
      s'.index = s.index.follow (.claimUnlocked claim.wallet claimId) := by
  simp [unlockPendingClaim] at stepped
  obtain ⟨-, claim, listed, -, record, -, -, -, -, rfl⟩ := stepped
  exact ⟨claim, listed, Index.ext rfl phases_set rfl rfl rfl rfl rfl⟩

/-- The indexer has the amount on file. -/
theorem amountOf_of_get {wallet : Address} {record : StakeRecord D}
    (stored : s.stakes.get wallet = some record) : s.index.amountOf wallet = record.amount := by
  simp only [Index.amountOf, State.index, stored, Option.map_some, Option.getD_some,
    StakeRecord.holding]

theorem approveClaim_indexed {claimId : D} {points : Claim → Int}
    (stepped : approveClaim host env s claimId = .ok s') :
    ∃ claim, s.claims.get claimId = some claim ∧
      s'.index = s.index.follow (.claimApproved claim.wallet claimId (points claim)) := by
  simp [approveClaim, activateClaim] at stepped
  obtain ⟨-, claim, listed, -, -, -, record, stored, -, -, -, -, -, -, -, rfl⟩ := stepped
  refine ⟨claim, listed, ?_⟩
  simp only [Index.follow, Index.forfeits, amountOf_of_get stored]
  exact Index.ext deposits_set phases_set rfl rfl rfl rfl rfl

theorem expirePendingApproval_indexed {claimId : D} {released : Claim → Int}
    (stepped : expirePendingApproval s claimId = .ok s') :
    ∃ claim, s.claims.get claimId = some claim ∧
      s'.index = s.index.follow (.claimExpired claim.wallet claimId (released claim)) := by
  simp [expirePendingApproval] at stepped
  obtain ⟨claim, listed, -, record, stored, -, -, rfl⟩ := stepped
  exact ⟨claim, listed,
    Index.ext (deposits_amend stored rfl) phases_set rfl rfl rfl rfl rfl⟩

theorem expireStaleClaim_indexed {claimId : D} {released : Claim → Int}
    (stepped : expireStaleClaim s claimId = .ok s') :
    ∃ claim, s.claims.get claimId = some claim ∧
      s'.index = s.index.follow (.claimExpired claim.wallet claimId (released claim)) := by
  simp [expireStaleClaim] at stepped
  obtain ⟨claim, listed, -, -, record, stored, -, -, -, rfl⟩ := stepped
  exact ⟨claim, listed,
    Index.ext (deposits_amend stored rfl) phases_set rfl rfl rfl rfl rfl⟩

/-- A payout leaves a claim in effect, also the last one. -/
theorem claimStream_indexed {claimId : D} {beneficiary : Address} {paid : Int}
    (stepped : claimStream host env s claimId beneficiary = .ok (paid, s')) :
    s'.index = s.index := by
  obtain ⟨claim, record, streamed⟩ := claimStream_eq_ok.mp stepped
  rw [streamed.state]
  refine Index.ext rfl (phases_amend streamed.listed ?_) rfl rfl rfl rfl rfl
  simp only [Claim.phase, Claim.paid, streamed.active]
  split_ifs <;> rfl

theorem cancelClaim_indexed {claimId : D} (stepped : cancelClaim host env s claimId = .ok s') :
    ∃ claim, s.claims.get claimId = some claim ∧
      s'.index = s.index.follow (.claimCancelled claim.wallet claimId) := by
  simp [cancelClaim] at stepped
  obtain ⟨-, claim, listed, cancellable, -, record, stored, record', rest, restored, rfl⟩ := stepped
  refine ⟨claim, listed, ?_⟩
  have shown : s.index.phases claimId = claim.phase := by
    simp only [State.index, listed, Option.bind_some]
  by_cases active : claim.status = .active
  · simp [restoreStake, active] at restored
    obtain ⟨-, -, -, rfl, rfl⟩ := restored
    have inEffect : claim.phase = some (.inEffect claim.stake) := by
      simp only [Claim.phase, active]
    simp only [Index.follow, Index.cancels, shown, inEffect, amountOf_of_get stored]
    exact Index.ext deposits_set phases_set rfl rfl rfl rfl rfl
  · simp [restoreStake, active] at restored
    obtain ⟨rfl, rfl⟩ := restored
    have admitted : claim.phase = some .admitted := by
      by_cases pending : claim.status = .pendingTime
      · simp only [Claim.phase, pending]
      · simp only [Claim.phase, cancellable active pending]
    simp only [Index.follow, Index.cancels, shown, admitted]
    exact Index.ext (deposits_amend stored rfl) phases_set rfl rfl rfl rfl rfl

/-! ### Overrides -/

/-- An override forfeits the deposit, unless that was done before. -/
theorem executeOverride_indexed {claimId : D} {req : OverrideRequest}
    (stepped : executeOverride s claimId req = .ok s') :
    ∃ record, s.stakes.get req.wallet = some record ∧
      s'.index = s.index.follow (.overrideExecuted req.wallet claimId
        (if record.withdrawn then 0 else pointsBurned s record req.wallet)) := by
  simp only [executeOverride, bind_eq_ok, rejectIf_eq_ok, okOr_eq_ok, i128_eq_ok,
    Except.ok.injEq] at stepped
  obtain ⟨_, -, _, -, record, stored, _, -, _, -, cap, -, _, -, _, -, _, -, _, -, activation,
    activated, rfl⟩ := stepped
  refine ⟨record, stored, ?_⟩
  have held : ((s.index.deposits req.wallet).map Holding.withdrawn).getD false =
      record.withdrawn := by
    simp only [State.index, stored, Option.map_some, Option.getD_some, StakeRecord.holding]
  simp only [Index.follow, held]
  by_cases withdrawn : record.withdrawn = true
  · simp [overrideActivation, withdrawn, reexecuteClaim] at activated
    obtain ⟨-, -, rfl⟩ := activated
    simp only [withdrawn, if_true, Index.retakes, Index.enters, amountOf_of_get stored]
    refine Index.ext (deposits_amend stored ?_) phases_set rfl rfl rfl rfl rfl
    simp only [StakeRecord.holding, withdrawn]
  · simp [overrideActivation, withdrawn, activateClaim] at activated
    obtain ⟨-, -, -, -, -, -, rfl⟩ := activated
    simp only [withdrawn, Bool.false_eq_true, if_false, Index.forfeits, amountOf_of_get stored]
    exact Index.ext deposits_set phases_set rfl rfl rfl rfl rfl

theorem approveOverride_indexed {caller wallet : Address} {txHash : BytesN 32}
    {entitlement : Int} {tier : Nat}
    (stepped : approveOverride host env s caller wallet txHash entitlement tier = .ok s') :
    s'.index = (overridePublished host s caller wallet txHash entitlement tier).foldl
      Index.follow s.index := by
  simp only [approveOverride, bind_eq_ok] at stepped
  obtain ⟨-, -, -, -, -, -, -, -, -, -, -, -, outcome⟩ := stepped
  simp only [overridePublished]
  rcases ite_eq_ok.mp outcome with ⟨ready, outcome⟩ | ⟨unready, outcome⟩
  · simp only [bind_eq_ok, Except.ok.injEq] at outcome
    obtain ⟨executed, stepped, rfl⟩ := outcome
    obtain ⟨record, stored, followed⟩ := executeOverride_indexed stepped
    rw [if_pos ready, stored]
    exact followed
  · obtain rfl := Except.ok.inj outcome
    rw [if_neg unready]
    rfl

/-! ### The vault -/

/-- A redemption is announced with its loss, if it makes one. -/
theorem afterRedemption_indexed {vault : Address} {shares : Int} :
    (s.afterRedemption host vault env.vault shares).index =
      ((redeemPublished env s vault shares).foldl Index.follow s.index).redeems shares := by
  simp only [redeemPublished, State.afterRedemption, markedStake]
  split_ifs <;> rfl

/-- What a redemption call publishes, with an event the indexer takes for the
redemption. -/
theorem redemption_indexed {vault : Address} {shares : Int} {event : Address → Event D}
    (configured : s.vault = some vault)
    (redeems : ∀ index : Index D, index.follow (event vault) = index.redeems shares) :
    (s.afterRedemption host vault env.vault shares).index =
      (redemptionPublished env s shares event).foldl Index.follow s.index := by
  rw [redemptionPublished, configured, List.foldl_append, afterRedemption_indexed,
    List.foldl_cons, redeems, List.foldl_nil]

theorem deployToVault_indexed {amount minSharesOut gained : Int}
    (stepped : deployToVault host env s amount minSharesOut = .ok (gained, s')) :
    s'.index = (published host env s output (.deployToVault amount minSharesOut)).foldl
      Index.follow s.index := by
  obtain ⟨-, vault, configured, -, rfl⟩ := deployToVault_ok stepped
  simp only [published, configured]
  rfl

theorem autoDeployLiquidity_indexed {gained : Int}
    (stepped : autoDeployLiquidity host env s = .ok (gained, s')) :
    s'.index = (autoDeployPublished host env s).foldl Index.follow s.index := by
  obtain ⟨-, amount, computed, ⟨none, -, rfl⟩ | ⟨positive, vault, configured, -, rfl⟩⟩ :=
    autoDeployLiquidity_ok stepped
  · simp only [autoDeployPublished, computed, none, if_true]
    rfl
  · simp only [autoDeployPublished, computed, configured, positive.ne', if_false]
    rfl

theorem provideLiquidity_indexed {shares minXlmOut received : Int}
    (stepped : provideLiquidity host env s shares minXlmOut = .ok (received, s')) :
    s'.index = (published host env s output (.provideLiquidity shares minXlmOut)).foldl
      Index.follow s.index := by
  obtain ⟨-, -, vault, configured, -, rfl⟩ := provideLiquidity_ok stepped
  exact redemption_indexed configured fun _ => rfl

theorem ensureLiquidity_indexed {received : Int}
    (stepped : ensureLiquidity host env s = .ok (received, s')) :
    s'.index = (ensurePublished host env s).foldl Index.follow s.index := by
  obtain ⟨shortfall, computed, ⟨none, -, rfl⟩ |
    ⟨short, -, shares, vault, needed, -, -, -, configured, -, rfl⟩⟩ := ensureLiquidity_ok stepped
  · simp only [ensurePublished, computed, none, if_true]
    rfl
  · simp only [ensurePublished, computed, short.ne', if_false, needed]
    exact redemption_indexed configured fun _ => rfl

/-- A payment of yield adds to the extracted yield. -/
theorem sendYield_indexed {treasury : Address} {yieldAmount : Int} (nonneg : 0 ≤ yieldAmount)
    (sent : sendYield host env s treasury yieldAmount = .ok s') :
    s'.index = { s.index with extractedYield := s.totalExtractedYield + yieldAmount } := by
  rcases sendYield_ok sent with ⟨-, -, rfl⟩ | ⟨none, rfl⟩
  · rfl
  · rw [le_antisymm none nonneg, add_zero]
    rfl

theorem extractYield_indexed {shares minXlmOut sent : Int}
    (stepped : extractYield host env s shares minXlmOut = .ok (sent, s')) :
    s'.index = (published host env s (.amount sent) (.extractYield shares minXlmOut)).foldl
      Index.follow s.index := by
  obtain ⟨-, -, vault, treasury, configured, recipient, rfl, paid⟩ := extractYield_ok stepped
  simp only [published, recipient, redemptionPublished, configured, List.foldl_append,
    List.foldl_cons, List.foldl_nil, Index.follow]
  rw [sendYield_indexed (le_max_right _ _) paid, afterRedemption_indexed]
  simp only [redeemPublished]
  split_ifs <;> rfl

theorem withdrawYield_indexed {amount : Int}
    (stepped : withdrawYield host env s amount = .ok s') :
    s'.index = (published host env s output (.withdrawYield amount)).foldl Index.follow
      s.index := by
  obtain ⟨treasury, _, drawn⟩ := withdrawYield_ok stepped
  simp only [published, drawn.recipient, drawn.state]
  rfl

/-! ### The suspension of a stake -/

theorem suspendStake_indexed {wallet : Address}
    (stepped : suspendStake host env s wallet = .ok s') : s'.index = s.index := by
  simp only [suspendStake, bind_eq_ok, okOr_eq_ok, Except.ok.injEq] at stepped
  obtain ⟨_, -, record, stored, _, -, _, -, rfl⟩ := stepped
  exact Index.ext (deposits_amend stored rfl) rfl rfl rfl rfl rfl rfl

/-- A clock started over shows no difference. -/
theorem resetClaimClock_indexed {wallet : Address} {claimId : Option D} {claims : Store D Claim}
    (reset : resetClaimClock s wallet claimId = .ok claims) :
    (fun id => (claims.get id).bind Claim.phase) =
      fun id => (s.claims.get id).bind Claim.phase := by
  cases claimId with
  | none =>
      obtain rfl := Except.ok.inj reset
      rfl
  | some id =>
      cases listed : s.claims.get id with
      | none =>
          simp only [resetClaimClock, listed, Except.ok.injEq] at reset
          rw [reset]
      | some claim =>
          simp only [resetClaimClock, listed] at reset
          rcases ite_eq_ok.mp reset with ⟨-, reset⟩ | ⟨-, reset⟩
          · obtain rfl := Except.ok.inj reset
            rfl
          · simp only [bind_eq_ok, Except.ok.injEq] at reset
            obtain ⟨restarted, computed, rfl⟩ := reset
            obtain ⟨deadline, collected, rfl⟩ := restartClock_ok computed
            exact phases_amend listed rfl

theorem unsuspendStake_indexed {wallet : Address} {claimId : Option D}
    (stepped : unsuspendStake host env s wallet claimId = .ok s') : s'.index = s.index := by
  simp only [unsuspendStake, bind_eq_ok, okOr_eq_ok, Except.ok.injEq] at stepped
  obtain ⟨_, -, record, stored, _, -, claims, reset, rfl⟩ := stepped
  exact Index.ext (deposits_amend stored rfl) (resetClaimClock_indexed reset) rfl rfl rfl rfl rfl

/-! ### Every step -/

/-- An operation on a claim the indexer follows by the event it publishes. -/
theorem claim_indexed {claimId : D} {event : Claim → Event D}
    (followed : ∃ claim, s.claims.get claimId = some claim ∧
      s'.index = s.index.follow (event claim)) :
    s'.index = (claimPublished s claimId event).foldl Index.follow s.index := by
  obtain ⟨claim, listed, followed⟩ := followed
  rw [claimPublished_of_get listed]
  exact followed

/-- The indexer makes of what a call publishes what the call makes of the state. -/
theorem dispatch_indexed {call : Call D} (stepped : dispatch host env s call = .ok (output, s')) :
    s'.index = (published host env s output call).foldl Index.follow s.index := by
  cases call with
  | stake => exact stake_indexed (returningUnit_eq_ok.mp stepped).1
  | withdraw => exact withdraw_indexed (returningUnit_eq_ok.mp stepped).1
  | emergencyExit => exact emergencyExit_indexed (returningUnit_eq_ok.mp stepped).1
  | setBeneficiary => exact setBeneficiary_indexed (returningUnit_eq_ok.mp stepped).1
  | submitClaim caller wallet txHash entitlement =>
      obtain ⟨claimId, stepped, -⟩ := returning_eq_ok.mp stepped
      simp only [published]
      rw [submitClaim_indexed stepped]
      split_ifs <;> rfl
  | tryReleaseQueuedClaim =>
      exact claim_indexed (tryReleaseQueuedClaim_indexed host (returningUnit_eq_ok.mp stepped).1)
  | expireQueuedClaim =>
      exact claim_indexed (expireQueuedClaim_indexed (returningUnit_eq_ok.mp stepped).1)
  | unlockPendingClaim =>
      exact claim_indexed (unlockPendingClaim_indexed (returningUnit_eq_ok.mp stepped).1)
  | approveClaim =>
      exact claim_indexed (approveClaim_indexed (returningUnit_eq_ok.mp stepped).1)
  | expirePendingApproval =>
      exact claim_indexed (expirePendingApproval_indexed (returningUnit_eq_ok.mp stepped).1)
  | expireStaleClaim =>
      exact claim_indexed (expireStaleClaim_indexed (returningUnit_eq_ok.mp stepped).1)
  | claimStream claimId beneficiary =>
      obtain ⟨paid, streamed, rfl⟩ := returning_eq_ok.mp stepped
      rw [claimStream_indexed streamed]
      simp only [published, claimPublished]
      split <;> rfl
  | cancelClaim => exact claim_indexed (cancelClaim_indexed (returningUnit_eq_ok.mp stepped).1)
  | approveOverride => exact approveOverride_indexed (returningUnit_eq_ok.mp stepped).1
  | suspendStake => exact suspendStake_indexed (returningUnit_eq_ok.mp stepped).1
  | unsuspendStake => exact unsuspendStake_indexed (returningUnit_eq_ok.mp stepped).1
  | deployToVault =>
      obtain ⟨gained, stepped, -⟩ := returning_eq_ok.mp stepped
      exact deployToVault_indexed stepped
  | autoDeployLiquidity =>
      obtain ⟨gained, stepped, -⟩ := returning_eq_ok.mp stepped
      exact autoDeployLiquidity_indexed stepped
  | provideLiquidity =>
      obtain ⟨received, stepped, -⟩ := returning_eq_ok.mp stepped
      exact provideLiquidity_indexed stepped
  | ensureLiquidity =>
      obtain ⟨received, stepped, -⟩ := returning_eq_ok.mp stepped
      exact ensureLiquidity_indexed stepped
  | extractYield =>
      obtain ⟨sent, extracted, rfl⟩ := returning_eq_ok.mp stepped
      exact extractYield_indexed extracted
  | withdrawYield => exact withdrawYield_indexed (returningUnit_eq_ok.mp stepped).1
  | revokeApproval =>
      simp [dispatch, revokeApproval] at stepped
      obtain ⟨⟨-, -, -, rfl⟩, -⟩ := stepped
      rfl
  | cancelPendingOverride =>
      simp [dispatch, cancelPendingOverride] at stepped
      obtain ⟨⟨-, -, -, rfl⟩, -⟩ := stepped
      rfl
  | setCoSigner | setPoolCap | setDeployBps =>
      simp [dispatch, setCoSigner, setPoolCap, setDeployBps] at stepped
      obtain ⟨⟨-, -, -, rfl⟩, -⟩ := stepped
      rfl
  | setOracle | setOracleIdentity | transferAdmin | setVault =>
      simp [dispatch, setOracle, setOracleIdentity, transferAdmin, setVault] at stepped
      obtain ⟨⟨-, -, rfl⟩, -⟩ := stepped
      rfl
  | setOraclePubkey | pause | unpause | setTreasury =>
      simp [dispatch, setOraclePubkey, setPaused, setTreasury] at stepped
      obtain ⟨⟨-, rfl⟩, -⟩ := stepped
      rfl

theorem step_indexed {action : Action D} (stepped : poolStep host s action = .ok (output, s')) :
    s'.index = (action.published host s output).foldl Index.follow s.index := by
  cases action with
  | invoke env call => exact dispatch_indexed stepped
  | closeLedger sequence timestamp =>
      obtain ⟨-, -, rfl⟩ := closeLedger_eq_ok.mp (returningUnit_eq_ok.mp stepped).1
      rfl
  | moveXlm holder balance =>
      obtain ⟨-, -, rfl⟩ := moveXlm_eq_ok.mp (returningUnit_eq_ok.mp stepped).1
      rfl
  | moveShares vault balance =>
      obtain rfl := moveShares_eq_ok.mp (returningUnit_eq_ok.mp stepped).1
      rfl

/-- The index of a pool just deployed is the opening one. -/
theorem deployed_index (deployed : Deployed host s) : s.index = Index.opening := by
  obtain ⟨env, _, _, xlm, _, _, _, _, _, _, _, -, -, -, built⟩ := deployed
  simp [initializePool] at built
  obtain ⟨-, -, -, -, rfl⟩ := built
  refine Index.ext ?_ ?_ rfl rfl rfl rfl rfl
  · funext wallet
    simp only [State.index, Store.get_empty, Option.map_none, Index.opening]
  · funext claimId
    simp only [State.index, Store.get_empty, Option.bind_none, Index.opening]

/-- In every run an indexer that has read the published events from the deployment on
knows each deposit, the phase of each claim with the stake it took, the stake
aggregates, the position at the vault and the extracted yield as they are stored. -/
theorem indexer_follows_run (host : Host D) {log : Log D} {s : State D}
    (run : (poolSystem host).Run System.anyStep log s) :
    s.index = (System.trace (fun e => e.action.published host e.pre e.result) log).foldl
      Index.follow Index.opening := by
  apply run.followed
  · intro s deployed
    exact deployed_index deployed
  · intro log s action output s' _ stepped
    exact step_indexed stepped

/-- A claim in effect, its payout, its reversal, and a redemption at a loss, as the events
of a run tell them. -/
theorem indexer_follows_sample :
    ∃ log s, (poolSystem sampleHost).Run System.anyStep log s ∧
      (System.trace (fun e => e.action.published sampleHost e.pre e.result) log).length = 8 ∧
      s.index = (System.trace (fun e => e.action.published sampleHost e.pre e.result) log).foldl
        Index.follow Index.opening := by
  obtain ⟨log, s, run, told⟩ := System.exists_run_of_replay (poolSystem sampleHost)
    System.anyStep samplePool_deployed
    (sampleOpening 20000 ++ [afterDays 60,
      callBy 11 (.claimStream (computeClaimId sampleHost (party 11) 0) (party 21)),
      callBy 1 (.cancelClaim (computeClaimId sampleHost (party 11) 0)),
      callBy 1 (.setVault (.contract 2)), callBy 1 (.setDeployBps 5000),
      .invoke (.of [party 1] ⟨40000, 40000, 0, 0⟩) (.deployToVault 40000 0),
      .invoke (.of [party 1] ⟨0, 0, 9000, 10000⟩) (.provideLiquidity 10000 0)])
    (fun log _ =>
      (System.trace (fun e => e.action.published sampleHost e.pre e.result) log).length = 8)
    (by decide +kernel)
  exact ⟨log, s, run, told, indexer_follows_run sampleHost run⟩

end ProtectionPool
