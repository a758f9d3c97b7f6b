/-
Module: ProtectionPool.Proofs.Treasury
Purpose: What the treasury may take.  The contract measures the yield against the two
  aggregates, and the losses marked down in the stake aggregate are owed to the stakers
  all the same.  What is owed stays covered where the treasury leaves the losses marked
  down so far in the pool, and as long as the two ledgers are kept it stays covered
  nowhere else.
Trusted boundary: none
Main exports: owed, missed, surplus, TreasuryCovered, CountsDeposits, LeavesLosses,
  treasury_leaves_losses
-/
import ProtectionPool.Books.Register
import ProtectionPool.Proofs.Allocation
import ProtectionPool.Proofs.StakeLedger

namespace ProtectionPool

open Checked

variable {D : Type} [DecidableEq D]

/-- What is owed: the live deposits, and what the live claims have yet to be paid. -/
def owed (s : State D) : Int :=
  Store.total StakeRecord.liveAmount s.stakes + Store.total Claim.reserved s.claims

/-- What the pool controls: the XLM it holds, and the XLM deployed at its book
value. -/
def controlled (host : Host D) (s : State D) : Int := liquidBalance host s + s.totalDeployedXlm

/-- What the two aggregates miss of what is owed. -/
def missed (s : State D) : Int := owed s - (s.totalStaked + s.totalAllocated)

/-- What the pool controls beyond the two aggregates: the yield balance, when it is
positive. -/
def surplus (host : Host D) (s : State D) : Int :=
  controlled host s - (s.totalStaked + s.totalAllocated)

/-- A step sends XLM to the treasury. -/
def Action.paysTreasury : Action D → Output D → Bool
  | .invoke _ (.withdrawYield _), _ => true
  | .invoke _ (.extractYield _ _), .amount sent => decide (0 < sent)
  | _, _ => false

/-- After XLM is sent to the treasury the pool still controls what is owed. -/
def TreasuryCovered (host : Host D) (e : Entry (State D) (Action D) (Output D)) : Prop :=
  e.action.paysTreasury e.result = true → owed e.post ≤ controlled host e.post

/-- What a redemption brings in beyond the principal its shares stand for. -/
def redemptionGain (env : Env) (s : State D) (shares : Int) : Int :=
  env.vault.paid - principalOf s shares

/-- What leaves the pool when an amount is sent to the treasury. -/
def leavesPool (host : Host D) (s : State D) (amount : Int) : Int :=
  if s.treasury = some host.contract then 0 else amount

/-- The condition under which the treasury is paid out of what is not owed: a
withdrawal and what the aggregates miss are within the surplus, and a redemption
with a gain finds the surplus at what they miss at least. -/
def TakesSurplus (host : Host D) (s : State D) : Action D → Prop
  | .invoke _ (.withdrawYield amount) => missed s + leavesPool host s amount ≤ surplus host s
  | .invoke env (.extractYield shares _) =>
      0 < redemptionGain env s shares →
        missed s + leavesPool host s (redemptionGain env s shares) ≤
          surplus host s + redemptionGain env s shares
  | _ => True

instance (host : Host D) (e : Entry (State D) (Action D) (Output D)) :
    Decidable (TreasuryCovered host e) :=
  inferInstanceAs (Decidable (_ = true → _ ≤ _))

instance (host : Host D) (s : State D) (action : Action D) :
    Decidable (TakesSurplus host s action) := by
  induction action using Action.casesOn with
  | invoke _ call =>
      induction call using Call.casesOn with
      | withdrawYield => exact inferInstanceAs (Decidable (_ ≤ _))
      | extractYield => exact inferInstanceAs (Decidable (_ → _ ≤ _))
      | _ => exact inferInstanceAs (Decidable True)
  | _ => exact inferInstanceAs (Decidable True)

variable {host : Host D} {env : Env} {s s' : State D} {action : Action D} {output : Output D}

/-! ### The steps that pay the treasury -/

omit [DecidableEq D] in
/-- The positive yield balance is the surplus. -/
theorem yieldBalance_ok {available : Int} (computed : yieldBalance host s = .ok available) :
    available = max (surplus host s) 0 := by
  simp only [yieldBalance, bind_eq_ok, i128_eq_ok] at computed
  obtain ⟨total, ⟨-, rfl⟩, reserved, ⟨-, rfl⟩, computed⟩ := computed
  simp only [surplus, controlled]
  rcases ite_eq_ok.mp computed with ⟨positive, computed⟩ | ⟨none, computed⟩
  · have available := (i128_eq_ok.mp computed).2
    omega
  · have available := Except.ok.inj computed
    omega

/-- What a payment to the treasury does. -/
theorem afterYield_controlled {treasury : Address} {amount : Int}
    (recipient : s.treasury = some treasury) :
    owed (s.afterYield host treasury amount) = owed s ∧
      controlled host (s.afterYield host treasury amount) =
        controlled host s - leavesPool host s amount := by
  refine ⟨rfl, ?_⟩
  simp only [State.afterYield, controlled, liquidBalance, moved_payer, leavesPool, recipient,
    Option.some.injEq]
  split_ifs <;> omega

/-- A redemption owes what was owed before, and adds its gain to what the pool
controls. -/
theorem redeem_controlled {vault : Address} {shares minXlmOut : Int} {redemption : Redemption D}
    (redeemed : redeem host env s vault shares minXlmOut = .ok redemption) :
    owed redemption.state = owed s ∧
      controlled host redemption.state = controlled host s + redemptionGain env s shares := by
  obtain ⟨-, -, booked⟩ := redeem_books redeemed
  have stakes : redemption.state.stakes = s.stakes := congrArg Books.stakes booked
  have claims : redemption.state.claims = s.claims := congrArg Books.claims booked
  have funds := congrArg Books.funds booked
  rw [owed, owed, stakes, claims]
  exact ⟨rfl, funds⟩

omit [DecidableEq D] in
theorem redeem_treasury {vault : Address} {shares minXlmOut : Int} {redemption : Redemption D}
    (redeemed : redeem host env s vault shares minXlmOut = .ok redemption) :
    redemption.state.treasury = s.treasury := by
  simp only [redeem, bind_eq_ok, vaultWithdraw_eq_ok, Except.ok.injEq] at redeemed
  obtain ⟨_, -, _, -, _, -, _, -, _, ⟨-, -, rfl⟩, _, -, _, -, _, -, _, -, _, -, rfl⟩ := redeemed
  rfl

/-- The yield that was redeemed is sent to the treasury if it is positive. -/
theorem sendYield_controlled {treasury : Address} {yieldAmount : Int}
    (recipient : s.treasury = some treasury)
    (sent : sendYield host env s treasury yieldAmount = .ok s') :
    owed s' = owed s ∧
      controlled host s' = controlled host s - leavesPool host s (max yieldAmount 0) := by
  rcases sendYield_ok sent with ⟨positive, -, rfl⟩ | ⟨none, rfl⟩
  · rw [max_eq_left positive.le]
    exact afterYield_controlled recipient
  · refine ⟨rfl, ?_⟩
    rw [max_eq_right none, leavesPool, ite_self, sub_zero]

/-- A withdrawal leaves what is owed covered exactly when it and what the
aggregates miss are within the surplus. -/
theorem withdrawYield_covered_iff {amount : Int}
    (stepped : withdrawYield host env s amount = .ok s') :
    owed s' ≤ controlled host s' ↔ missed s + leavesPool host s amount ≤ surplus host s := by
  obtain ⟨treasury, _, drawn⟩ := withdrawYield_ok stepped
  obtain ⟨owes, controls⟩ : owed (s.afterYield host treasury amount) = owed s ∧
      controlled host (s.afterYield host treasury amount) =
        controlled host s - leavesPool host s amount := afterYield_controlled drawn.recipient
  rw [drawn.state, owes, controls]
  simp only [owed, missed, surplus, controlled, liquidBalance, leavesPool]
  omega

/-- A redemption with a gain leaves what is owed covered exactly when the surplus
with the gain covers what the aggregates miss. -/
theorem extractYield_covered_iff {shares minXlmOut sent : Int}
    (stepped : extractYield host env s shares minXlmOut = .ok (sent, s')) :
    (0 < sent → owed s' ≤ controlled host s') ↔
      (0 < redemptionGain env s shares →
        missed s + leavesPool host s (redemptionGain env s shares) ≤
          surplus host s + redemptionGain env s shares) := by
  simp only [extractYield, bind_eq_ok, okOr_eq_ok, i128_eq_ok, Except.ok.injEq,
    Prod.mk.injEq] at stepped
  obtain ⟨_, -, vault, -, treasury, recipient, redemption, redeemed, _, ⟨-, rfl⟩, after, paid,
    rfl, rfl⟩ := stepped
  obtain ⟨⟨principal, received⟩, -⟩ := redeem_books redeemed
  obtain ⟨owes, controls⟩ := redeem_controlled redeemed
  have yielded : (if redemption.received > redemption.principal then
      redemption.received - redemption.principal else 0) = max (redemptionGain env s shares) 0 := by
    rw [principal, received, redemptionGain]
    split_ifs <;> omega
  have unchanged := redeem_treasury redeemed
  obtain ⟨owes', controls'⟩ := sendYield_controlled (unchanged.trans recipient) paid
  have leaves : leavesPool host redemption.state (max (max (redemptionGain env s shares) 0) 0) =
      leavesPool host s (max (redemptionGain env s shares) 0) := by
    rw [max_eq_left (le_max_right _ _), leavesPool, unchanged, leavesPool]
  rw [yielded] at controls' ⊢
  rw [owes', owes, controls', controls, leaves]
  rcases lt_or_ge 0 (redemptionGain env s shares) with gains | lossy
  · rw [max_eq_left gains.le, imp_iff_right gains, imp_iff_right gains, missed, surplus]
    omega
  · rw [max_eq_right lossy]
    exact iff_of_true (fun gains => absurd gains (lt_irrefl 0)) fun gains =>
      absurd gains (not_lt.mpr lossy)

/-- A step leaves what is owed covered exactly when the treasury takes from the
surplus. -/
theorem treasuryCovered_iff (stepped : poolStep host s action = .ok (output, s')) :
    TreasuryCovered host ⟨s, action, output, s'⟩ ↔ TakesSurplus host s action := by
  cases action with
  | invoke env call =>
      cases call with
      | withdrawYield amount =>
          obtain ⟨taken, rfl⟩ := returningUnit_eq_ok.mp stepped
          refine Iff.trans ?_ (withdrawYield_covered_iff taken)
          exact imp_iff_right rfl
      | extractYield shares minXlmOut =>
          obtain ⟨sent, taken, rfl⟩ := returning_eq_ok.mp stepped
          rw [TreasuryCovered, Action.paysTreasury, decide_eq_true_eq]
          exact extractYield_covered_iff taken
      | _ => exact iff_of_true nofun trivial
  | _ => exact iff_of_true nofun trivial

/-! ### What the aggregates miss -/

/-- The deposits in the pool are within the stake aggregate and the losses marked down in
it. -/
def Books.DepositsCounted (b : Books D) (marked : Int) : Prop :=
  Store.total StakeRecord.liveAmount b.stakes ≤ b.totalStaked + marked

/-- The condition under which an entry counts the deposits: an approval takes off the
aggregate what it takes out of the pool, and a reversal brings back no more than it adds
to the aggregate. -/
def BookEvent.CountsDeposits (b : Books D) : BookEvent D → Prop
  | .approved wallet _ =>
      ∀ record ∈ b.stakes.get wallet, record.withdrawn = true → record.amount = 0
  | .cancelled wallet claimId =>
      ∀ claim ∈ b.claims.get claimId, claim.status = .active →
        ∀ record ∈ b.stakes.get wallet,
          (if record.withdrawn then record.amount else 0) ≤ claim.stake
  | _ => True

instance (b : Books D) (event : BookEvent D) : Decidable (event.CountsDeposits b) := by
  induction event using BookEvent.casesOn with
  | approved => exact inferInstanceAs (Decidable (∀ record ∈ b.stakes.get _, _))
  | cancelled => exact inferInstanceAs (Decidable (∀ claim ∈ b.claims.get _, _))
  | _ => exact inferInstanceAs (Decidable True)

variable {idOf : Address → BytesN 32 → D} {event : BookEvent D} {b b' : Books D}
  {marked : Int} {wallet : Address} {record record' : StakeRecord D}

omit [DecidableEq D] in
/-- What is counted once a stored record is replaced. -/
theorem Books.DepositsCounted.replace (counted : b.DepositsCounted marked)
    (record' : StakeRecord D) (stored : b.stakes.get wallet = some record) :
    Store.total StakeRecord.liveAmount (b.stakes.set wallet record') ≤
      b.totalStaked + marked + (record'.liveAmount - record.liveAmount) := by
  rw [(ledger_replace record' stored).1]
  unfold Books.DepositsCounted at counted
  omega

omit [DecidableEq D] in
/-- A record that keeps its amount and its standing keeps the count. -/
theorem Books.DepositsCounted.amend (counted : b.DepositsCounted marked)
    (stored : b.stakes.get wallet = some record) (amount : record'.amount = record.amount)
    (standing : record'.withdrawn = record.withdrawn) :
    Store.total StakeRecord.liveAmount (b.stakes.set wallet record') ≤
      b.totalStaked + (marked + 0) := by
  rw [(ledger_amend stored amount standing).1, add_zero]
  exact counted

omit [DecidableEq D] in
/-- What a record with a mark has in the pool. -/
theorem StakeRecord.liveAmount_eq (amounts : 0 ≤ record.amount) :
    record.liveAmount = if record.withdrawn then 0 else record.amount := by
  rcases Bool.eq_false_or_eq_true record.withdrawn with out | standing
  · rw [StakeRecord.liveAmount_of_not_live (by simp [StakeRecord.isLive, out]), if_pos out]
  · rw [if_neg (ne_true_of_eq_false standing)]
    rcases amounts.eq_or_lt with none | funded
    · rw [StakeRecord.liveAmount_of_not_live (by simp [StakeRecord.isLive, ← none]), ← none]
    · exact StakeRecord.liveAmount_of_live (StakeRecord.isLive_iff.mpr ⟨funded, standing⟩)

/-- Every entry that counts the deposits keeps them within the aggregate and what it marks
down. -/
theorem BookStep.deposits_counted (step : BookStep idOf event b b') (kept : b.WellKept)
    (counted : b.DepositsCounted marked) (counts : event.CountsDeposits b) :
    b'.DepositsCounted (marked + event.markdown b.totalStaked) := by
  unfold Books.DepositsCounted
  cases step with
  | @staked _ _ _ _ _ beneficiaryHash positive vacant =>
      rw [(ledger_deposit (b := b) beneficiaryHash positive vacant).1]
      simp only [BookEvent.markdown]
      unfold Books.DepositsCounted at counted
      omega
  | @exited _ _ record _ _ stored funded standing =>
      have replaced := counted.replace { record with withdrawn := true, amount := 0 } stored
      rw [StakeRecord.liveAmount_eq (le_refl 0), StakeRecord.liveAmount_eq funded.le,
        standing] at replaced
      simp only [BookEvent.markdown, if_true, Bool.false_eq_true, if_false] at replaced ⊢
      omega
  | @approved _ _ _ record _ _ stored =>
      have amounts := kept.amounts _ _ stored
      have replaced := counted.replace { record with withdrawn := true } stored
      have taken := counts record stored
      rw [StakeRecord.liveAmount_eq amounts,
        StakeRecord.liveAmount_eq (by exact amounts)] at replaced
      simp only [BookEvent.markdown, if_true] at replaced ⊢
      split_ifs at replaced with withdrawn
      · have none := taken withdrawn
        omega
      · omega
  | @reversed _ _ claim record lockedUntil listed active stored =>
      have amounts := kept.amounts _ _ stored
      have replaced := counted.replace
        { record with
          withdrawn := false
          penaltyLockedUntilLedger := lockedUntil
          activeClaimId := none } stored
      have back := counts claim listed active record stored
      rw [StakeRecord.liveAmount_eq amounts,
        StakeRecord.liveAmount_eq (by exact amounts)] at replaced
      simp only [BookEvent.markdown, Bool.false_eq_true, if_false] at replaced ⊢
      split_ifs at replaced back <;> omega
  | @overridden _ claimId _ record _ _ stored _ funded =>
      have replaced := counted.replace
        { record with
          withdrawn := true
          activeClaimId := some claimId
          reservedClaimId :=
            if record.reservedClaimId = some claimId then none else record.reservedClaimId } stored
      rw [StakeRecord.liveAmount_eq funded.le, StakeRecord.liveAmount_eq (by exact funded.le)]
        at replaced
      simp only [BookEvent.markdown, if_true] at replaced ⊢
      split_ifs at replaced ⊢ <;> omega
  | queued _ stored | admitted _ stored | amended stored | restarted stored =>
      exact counted.amend stored rfl rfl
  | released _ _ stored | queueExpired _ _ stored | approvalExpired _ _ stored
  | droppedPending _ _ stored =>
      exact counted.amend stored rfl rfl
  | staleExpired _ _ _ stored => exact counted.amend stored rfl rfl
  | redeemed =>
      simp only [BookEvent.markdown]
      unfold Books.DepositsCounted at counted
      omega
  | unlocked | streamed | deployed | kept | treasury | clock =>
      simp only [BookEvent.markdown, add_zero]
      exact counted

/-- What is reserved for the claims is within the allocation. -/
theorem reserved_le_allocated (kept : b.WellKept) :
    Store.total Claim.reserved b.claims ≤ b.totalAllocated := by
  refine (Store.total_le_total fun _ claim _ => ?_).trans kept.covered
  simp only [Claim.reserved, Claim.outstanding]
  split_ifs
  · exact le_max_left _ _
  · exact le_refl 0

/-- The steps that count the deposits. -/
def countsDeposits (host : Host D) : System.Guard (State D) (Action D) (Output D) :=
  fun _ s action => (bookEvent host s action).CountsDeposits (s.books host)

instance (log : Log D) (s : State D) (action : Action D) :
    Decidable (countsDeposits host log s action) :=
  inferInstanceAs (Decidable (BookEvent.CountsDeposits _ _))

/-- In every run of such steps the aggregates miss at most the losses marked down. -/
theorem missed_le_markedDown {log : Log D}
    (run : (poolSystem host).Run (countsDeposits host) log s) :
    missed s ≤ markedDown host log := by
  have counted : (s.books host).DepositsCounted (markedDown host log) := by
    apply run.invariant (P := fun log s => (s.books host).DepositsCounted (markedDown host log))
    · intro s deployed
      obtain ⟨noStakes, -, staked, -⟩ := deployed_books deployed
      simp only [Books.DepositsCounted, State.books, noStakes, staked, markedDown,
        Store.total_empty, add_zero, le_refl]
    · intro log s action output s' run counted counts stepped
      exact (step_refines stepped).deposits_counted (wellKept_of_run run) counted counts
  have reserved := reserved_le_allocated (wellKept_of_run run)
  simp only [Books.DepositsCounted, State.books] at counted reserved
  rw [missed, owed]
  omega

/-- As long as the two ledgers are kept the aggregates miss the losses marked down
and nothing else. -/
theorem missed_eq_markedDown {log : Log D}
    (run : (poolSystem host).Run (fun log s action =>
      forfeitsAndRestores host log s action ∧ carriesNothing host log s action) log s) :
    missed s = markedDown host log := by
  have ledger := stakeLedger_of_run (run.mono fun _ _ _ met => met.1)
  have allocated := (allocation_of_run (run.mono fun _ _ _ met => met.2)).2
  rw [missed, owed, ← ledger.staked, allocated]
  omega

/-! ### The losses marked down -/

/-- The condition under which a payment to the treasury leaves the losses marked down so
far in the pool.  A withdrawal after a loss takes no more of the surplus than what is left
over the losses; an extraction with a gain finds a surplus that reaches them, which it
never checks. -/
def LeavesLosses (host : Host D) (past : Log D) (s : State D) : Action D → Prop
  | .invoke _ (.withdrawYield amount) =>
      0 < markedDown host past →
        markedDown host past + leavesPool host s amount ≤ surplus host s
  | .invoke env (.extractYield shares _) =>
      0 < redemptionGain env s shares →
        markedDown host past + leavesPool host s (redemptionGain env s shares) ≤
          surplus host s + redemptionGain env s shares
  | _ => True

instance (past : Log D) (s : State D) (action : Action D) :
    Decidable (LeavesLosses host past s action) := by
  induction action using Action.casesOn with
  | invoke _ call =>
      induction call using Call.casesOn with
      | withdrawYield => exact inferInstanceAs (Decidable (_ → _))
      | extractYield => exact inferInstanceAs (Decidable (_ → _))
      | _ => exact inferInstanceAs (Decidable True)
  | _ => exact inferInstanceAs (Decidable True)

/-- Where nothing is missed the contract's own check keeps a withdrawal within the
surplus. -/
theorem withdrawYield_takesSurplus {amount : Int} (complete : missed s ≤ 0)
    (stepped : withdrawYield host env s amount = .ok s') :
    TakesSurplus host s (.invoke env (.withdrawYield amount)) := by
  obtain ⟨_, available, drawn⟩ := withdrawYield_ok stepped
  have yields := yieldBalance_ok drawn.computed
  have within := drawn.within
  have positive := drawn.positive
  simp only [TakesSurplus, leavesPool]
  split_ifs <;> omega

/-- A payment that leaves the losses takes from the surplus, where no more is missed. -/
theorem takesSurplus_of_leavesLosses {past : Log D} (within : missed s ≤ markedDown host past)
    (leaves : LeavesLosses host past s action)
    (stepped : poolStep host s action = .ok (output, s')) : TakesSurplus host s action := by
  cases action with
  | invoke env call =>
      cases call with
      | withdrawYield amount =>
          obtain ⟨taken, -⟩ := returningUnit_eq_ok.mp stepped
          by_cases marked : 0 < markedDown host past
          · exact (Int.add_le_add_right within _).trans (leaves marked)
          · exact withdrawYield_takesSurplus (within.trans (not_lt.mp marked)) taken
      | extractYield shares minXlmOut =>
          exact fun gains => (Int.add_le_add_right within _).trans (leaves gains)
      | _ => trivial
  | _ => trivial

/-- Where just the losses are missed, a payment from the surplus leaves them. -/
theorem leavesLosses_of_takesSurplus {past : Log D} (exactly : missed s = markedDown host past)
    (takes : TakesSurplus host s action) : LeavesLosses host past s action := by
  cases action with
  | invoke env call =>
      cases call with
      | withdrawYield amount => exact fun _ => exactly ▸ takes
      | extractYield shares minXlmOut => exact fun gains => exactly ▸ takes gains
      | _ => trivial
  | _ => trivial

/-- In every run that counts the deposits, what is owed is covered after each payment to the
treasury if each leaves the losses marked down so far in the pool.  In every run that keeps
the two ledgers it is covered only if each does. -/
theorem treasury_leaves_losses (host : Host D) {log : Log D} {s : State D} :
    ((poolSystem host).Run (fun past s action =>
        countsDeposits host past s action ∧ LeavesLosses host past s action) log s →
      System.Along (fun _ e => TreasuryCovered host e) log) ∧
    ((poolSystem host).Run (fun past s action =>
        forfeitsAndRestores host past s action ∧ carriesNothing host past s action) log s →
      (System.Along (fun _ e => TreasuryCovered host e) log ↔
        System.Along (fun past e => LeavesLosses host past e.pre e.action) log)) := by
  constructor
  · intro run
    apply run.along_of_steps
    intro past s action output s' run met stepped
    have within := missed_le_markedDown (run.mono fun _ _ _ met => met.1)
    exact (treasuryCovered_iff stepped).mpr (takesSurplus_of_leavesLosses within met.2 stepped)
  · intro run
    apply run.along_congr
    intro past s action output s' run stepped
    have exactly := missed_eq_markedDown run
    refine (treasuryCovered_iff stepped).trans ⟨leavesLosses_of_takesSurplus exactly, ?_⟩
    exact fun leaves => takesSurplus_of_leavesLosses exactly.le leaves stepped

/-- A deployment is redeemed at a loss of 10000 which a donation makes up for and more: what
is above the loss is taken by the treasury. -/
theorem treasury_leaves_losses_sample :
    ∃ log s, (poolSystem sampleHost).Run System.anyStep log s ∧
      markedDown sampleHost log = 10000 ∧ s.totalExtractedYield = 5000 ∧
      System.Along (fun _ e => TreasuryCovered sampleHost e) log := by
  obtain ⟨log, s, run, ends⟩ := System.exists_run_of_replay (poolSystem sampleHost)
    (fun past s action =>
      countsDeposits sampleHost past s action ∧ LeavesLosses sampleHost past s action)
    samplePool_deployed
    [callBy 12 (.stake (party 12) 100000 (party 22)),
      callBy 1 (.setVault (.contract 2)), callBy 1 (.setTreasury (party 4)),
      callBy 1 (.setDeployBps 5000),
      .invoke (.of [party 1] ⟨50000, 50000, 0, 0⟩) (.deployToVault 50000 0),
      .invoke (.of [party 1] ⟨0, 0, 40000, 50000⟩) (.provideLiquidity 50000 0),
      .moveXlm sampleHost.contract 105000, callBy 1 (.withdrawYield 5000)]
    (fun log s => markedDown sampleHost log = 10000 ∧ s.totalExtractedYield = 5000)
    (by decide +kernel)
  exact ⟨log, s, run.mono fun _ _ _ _ => trivial, ends.1, ends.2,
    (treasury_leaves_losses sampleHost).1 run⟩

/-- A deployment is redeemed at a loss of 10000, another one at a gain of 5000: the
gain goes to the treasury, and 90000 are left for the 100000 of the wallet. -/
theorem recovered_loss_taken_as_yield :
    ∃ log s, (poolSystem sampleHost).Run System.anyStep log s ∧
      ¬ System.Along (fun _ e => TreasuryCovered sampleHost e) log := by
  obtain ⟨log, s, run, ends⟩ := System.exists_run_of_replay (poolSystem sampleHost)
    System.anyStep samplePool_deployed
    [callBy 12 (.stake (party 12) 100000 (party 22)),
      callBy 1 (.setVault (.contract 2)), callBy 1 (.setTreasury (party 4)),
      callBy 1 (.setDeployBps 5000),
      .invoke (.of [party 1] ⟨50000, 50000, 0, 0⟩) (.deployToVault 50000 0),
      .invoke (.of [party 1] ⟨0, 0, 40000, 50000⟩) (.provideLiquidity 50000 0),
      .invoke (.of [party 1] ⟨40000, 40000, 0, 0⟩) (.deployToVault 40000 0),
      .invoke (.of [party 1] ⟨0, 0, 45000, 40000⟩) (.provideLiquidity 40000 0),
      callBy 1 (.withdrawYield 5000)]
    (fun log _ => ¬ System.Along (fun _ e => TreasuryCovered sampleHost e) log)
    (by decide +kernel)
  exact ⟨log, s, run, ends⟩

end ProtectionPool
