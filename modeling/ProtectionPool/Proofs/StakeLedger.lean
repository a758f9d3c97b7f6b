/-
Module: ProtectionPool.Proofs.StakeLedger
Purpose: The stake aggregate, with the redemption losses marked down in it added
  back, is the sum of the deposits still in the pool, and the staker count is
  their number.  Two kinds of steps break this: an approval whose wallet has no
  deposit in the pool, and a reversal that restores anything but the deposit the
  claim forfeited.
Trusted boundary: none
Main exports: StakeRecord.liveAmount, markedDown, StakeLedger, forfeitsAndRestores,
  stake_ledger_exact
-/
import ProtectionPool.Proofs.WellKept

namespace ProtectionPool

open Checked

variable {D : Type}

/-- What a record adds to the stake ledger: its amount while it is in the pool. -/
def StakeRecord.liveAmount (record : StakeRecord D) : Int :=
  if record.isLive then record.amount else 0

/-- What an entry marks down in the stake aggregate it finds: the loss of a
redemption. -/
def BookEvent.markdown (totalStaked : Int) : BookEvent D → Int
  | .redeemed loss =>
      totalStaked - (if 0 < loss then saturatingSub totalStaked loss else totalStaked)
  | _ => 0

variable {stakes : Store Address (StakeRecord D)} {wallet : Address}
  {record record' : StakeRecord D}

/-! ### One record replaced -/

/-- The two sums over the records once one stored record is replaced. -/
theorem ledger_replace (record' : StakeRecord D) (stored : stakes.get wallet = some record) :
    Store.total StakeRecord.liveAmount (stakes.set wallet record') =
        Store.total StakeRecord.liveAmount stakes - record.liveAmount + record'.liveAmount ∧
      (Store.count StakeRecord.isLive (stakes.set wallet record') : Int) =
        Store.count StakeRecord.isLive stakes - (if record.isLive then 1 else 0) +
          if record'.isLive then 1 else 0 := by
  rw [Store.total_set, Store.count_set, stored]
  exact ⟨rfl, rfl⟩

/-- A record that keeps its amount and its standing keeps both sums. -/
theorem ledger_amend (stored : stakes.get wallet = some record)
    (amount : record'.amount = record.amount) (standing : record'.withdrawn = record.withdrawn) :
    Store.total StakeRecord.liveAmount (stakes.set wallet record') =
        Store.total StakeRecord.liveAmount stakes ∧
      Store.count StakeRecord.isLive (stakes.set wallet record') =
        Store.count StakeRecord.isLive stakes := by
  have live : record'.isLive = record.isLive := by
    simp only [StakeRecord.isLive, amount, standing]
  have weight : record'.liveAmount = record.liveAmount := by
    simp only [StakeRecord.liveAmount, live, amount]
  have replaced := ledger_replace record' stored
  rw [live, weight] at replaced
  constructor
  · rw [replaced.1]
    omega
  · have counted := replaced.2
    rw [sub_add_cancel] at counted
    exact_mod_cast counted

/-- A record of which nothing is in the pool weighs nothing. -/
theorem StakeRecord.liveAmount_of_not_live (out : record.isLive = false) :
    record.liveAmount = 0 := by
  simp [StakeRecord.liveAmount, out]

theorem StakeRecord.liveAmount_of_live (live : record.isLive = true) :
    record.liveAmount = record.amount := if_pos live

/-! ### The ledger of a run -/

variable [DecidableEq D]

/-- The losses marked down along a run. -/
def markedDown (host : Host D) : List (Entry (State D) (Action D) (Output D)) → Int
  | [] => 0
  | e :: log =>
      markedDown host log + (bookEvent host e.pre e.action).markdown e.pre.totalStaked

/-- The stake ledger: the two aggregates against the records. -/
structure StakeLedger (host : Host D) (log : List (Entry (State D) (Action D) (Output D)))
    (s : State D) : Prop where
  staked : s.totalStaked + markedDown host log = Store.total StakeRecord.liveAmount s.stakes
  stakers : s.totalStakers = Store.count StakeRecord.isLive s.stakes

/-- The condition under which an approval keeps the stake ledger: the record it
forfeits is in the pool, or it forfeits nothing in an empty pool. -/
def ForfeitsDeposit (b : Books D) (wallet : Address) : Prop :=
  ∀ record ∈ b.stakes.get wallet,
    record.isLive = true ∨ (record.amount = 0 ∧ b.totalStakers = 0)

/-- The condition under which a reversal keeps the stake ledger: the record it
restores is the forfeited deposit of the reversed claim. -/
def RestoresDeposit (b : Books D) (wallet : Address) (claimId : D) : Prop :=
  ∀ claim ∈ b.claims.get claimId, claim.status = .active →
    ∀ record ∈ b.stakes.get wallet,
      record.withdrawn = true ∧ 0 < record.amount ∧ record.amount = claim.stake

instance (b : Books D) (wallet : Address) : Decidable (ForfeitsDeposit b wallet) :=
  inferInstanceAs (Decidable (∀ record ∈ b.stakes.get wallet, _))

instance (b : Books D) (wallet : Address) (claimId : D) :
    Decidable (RestoresDeposit b wallet claimId) :=
  inferInstanceAs (Decidable (∀ claim ∈ b.claims.get claimId, _))

/-- The condition under which an entry keeps the stake ledger. -/
def BookEvent.ForfeitsAndRestores (b : Books D) : BookEvent D → Prop
  | .approved wallet _ => ForfeitsDeposit b wallet
  | .cancelled wallet claimId => RestoresDeposit b wallet claimId
  | _ => True

instance (b : Books D) (event : BookEvent D) : Decidable (event.ForfeitsAndRestores b) := by
  induction event using BookEvent.casesOn with
  | approved => exact inferInstanceAs (Decidable (ForfeitsDeposit _ _))
  | cancelled => exact inferInstanceAs (Decidable (RestoresDeposit _ _ _))
  | _ => exact inferInstanceAs (Decidable True)

variable {idOf : Address → BytesN 32 → D} {event : BookEvent D} {b b' : Books D}

/-! ### The ledger under an entry -/

/-- The stake ledger of the books, with what was marked down so far. -/
def Books.StakesBalance (b : Books D) (marked : Int) : Prop :=
  b.totalStaked + marked = Store.total StakeRecord.liveAmount b.stakes ∧
    b.totalStakers = Store.count StakeRecord.isLive b.stakes

omit [DecidableEq D] in
/-- Taking a deposit out of the pool takes one amount off the sum and one off
the count. -/
theorem ledger_forfeit (record' : StakeRecord D) (stored : stakes.get wallet = some record)
    (live : record.isLive = true) (out : record'.isLive = false) :
    Store.total StakeRecord.liveAmount (stakes.set wallet record') =
        Store.total StakeRecord.liveAmount stakes - record.amount ∧
      Store.count StakeRecord.isLive (stakes.set wallet record') =
        Store.count StakeRecord.isLive stakes - 1 := by
  have replaced := ledger_replace record' stored
  have counted := Store.count_pos stored live
  rw [live, out, record.liveAmount_of_live live, record'.liveAmount_of_not_live out] at replaced
  constructor
  · rw [replaced.1, add_zero]
  · have left := replaced.2
    simp only [if_true, Bool.false_eq_true, if_false, add_zero] at left
    omega

omit [DecidableEq D] in
/-- An approval keeps the balance exactly when it forfeits a deposit in the pool. -/
theorem approval_balance_iff {marked : Int} (balance : b.StakesBalance marked)
    (stored : b.stakes.get wallet = some record) :
    (b.totalStaked - record.amount + marked =
          Store.total StakeRecord.liveAmount
            (b.stakes.set wallet { record with withdrawn := true }) ∧
        b.totalStakers - 1 =
          Store.count StakeRecord.isLive
            (b.stakes.set wallet { record with withdrawn := true })) ↔
      ForfeitsDeposit b wallet := by
  obtain ⟨sum, stakers⟩ := balance
  have out : StakeRecord.isLive { record with withdrawn := true } = false := by
    simp [StakeRecord.isLive]
  have condition : ForfeitsDeposit b wallet ↔
      record.isLive = true ∨ (record.amount = 0 ∧ b.totalStakers = 0) := by
    simp [ForfeitsDeposit, stored]
  rw [condition]
  by_cases live : record.isLive = true
  · obtain ⟨total, count⟩ := ledger_forfeit _ stored live out
    rw [total, count]
    exact iff_of_true ⟨by omega, by rw [stakers]⟩ (.inl live)
  · have absent : record.isLive = false := Bool.eq_false_iff.mpr live
    have replaced := ledger_replace { record with withdrawn := true } stored
    rw [out, absent, record.liveAmount_of_not_live absent,
      StakeRecord.liveAmount_of_not_live out] at replaced
    simp only [Bool.false_eq_true, if_false, sub_zero, add_zero] at replaced
    obtain ⟨total, count⟩ := replaced
    rw [total, ← sum]
    simp only [absent, Bool.false_eq_true, false_or]
    omega

/-- A reversal keeps the balance exactly when it restores the deposit its claim
forfeited. -/
theorem reversal_balance_iff {marked : Int} {claimId : D} {claim : Claim}
    (balance : b.StakesBalance marked) (listed : b.claims.get claimId = some claim)
    (active : claim.status = .active)
    (stored : b.stakes.get wallet = some record) (restored : record'.amount = record.amount)
    (standing : record'.withdrawn = false) :
    (b.totalStaked + claim.stake + marked =
          Store.total StakeRecord.liveAmount (b.stakes.set wallet record') ∧
        b.totalStakers + 1 = Store.count StakeRecord.isLive (b.stakes.set wallet record')) ↔
      RestoresDeposit b wallet claimId := by
  obtain ⟨sum, stakers⟩ := balance
  have condition : RestoresDeposit b wallet claimId ↔
      record.withdrawn = true ∧ 0 < record.amount ∧ record.amount = claim.stake := by
    simp [RestoresDeposit, listed, active, stored]
  obtain ⟨total, count⟩ := ledger_replace record' stored
  have standingAfter : record'.isLive = decide (0 < record.amount) := by
    simp [StakeRecord.isLive, restored, standing]
  rw [condition, total, ← sum]
  rw [standingAfter] at count
  simp only [StakeRecord.liveAmount, standingAfter, restored]
  by_cases funded : 0 < record.amount
  · rcases Bool.eq_false_or_eq_true record.withdrawn with forfeited | stays
    · have out : record.isLive = false := by simp [StakeRecord.isLive, forfeited]
      simp only [out, funded, forfeited, decide_true, if_true, Bool.false_eq_true, if_false,
        true_and] at count ⊢
      omega
    · have live : record.isLive = true := StakeRecord.isLive_iff.mpr ⟨funded, stays⟩
      simp only [live, funded, stays, decide_true, if_true, Bool.false_eq_true,
        false_and, iff_false] at count ⊢
      omega
  · have out : record.isLive = false := by simp [StakeRecord.isLive, funded]
    simp only [out, funded, decide_false, Bool.false_eq_true, if_false, false_and, and_false,
      iff_false] at count ⊢
    omega

omit [DecidableEq D] in
/-- A new deposit, where none was in the pool, is added to both. -/
theorem ledger_deposit {amount : Int} (beneficiaryHash : D) (positive : 0 < amount)
    (vacant : ∀ record, stakes.get wallet = some record → record.isLive = false) :
    Store.total StakeRecord.liveAmount (stakes.set wallet (b.deposit amount beneficiaryHash)) =
        Store.total StakeRecord.liveAmount stakes + amount ∧
      Store.count StakeRecord.isLive (stakes.set wallet (b.deposit amount beneficiaryHash)) =
        Store.count StakeRecord.isLive stakes + 1 := by
  have live : (b.deposit amount beneficiaryHash).isLive = true :=
    StakeRecord.isLive_iff.mpr ⟨positive, rfl⟩
  have none : Store.share StakeRecord.liveAmount (stakes.get wallet) = 0 ∧
      Store.share (fun r => if StakeRecord.isLive r then 1 else 0) (stakes.get wallet) = 0 := by
    cases stored : stakes.get wallet with
    | none => exact ⟨rfl, rfl⟩
    | some record =>
        have out := vacant record stored
        exact ⟨record.liveAmount_of_not_live out, by simp [out]⟩
  constructor
  · rw [Store.total_set, none.1, StakeRecord.liveAmount_of_live live, sub_zero]
    rfl
  · have counted := Store.count_set StakeRecord.isLive stakes wallet
      (b.deposit amount beneficiaryHash)
    rw [none.2, live, sub_zero, if_pos rfl] at counted
    exact_mod_cast counted

omit [DecidableEq D] in
/-- A record amended in what the ledger does not count keeps the balance. -/
theorem Books.StakesBalance.amend {marked : Int} (balance : b.StakesBalance marked)
    (stored : b.stakes.get wallet = some record) (amount : record'.amount = record.amount)
    (standing : record'.withdrawn = record.withdrawn) :
    b.totalStaked + marked =
        Store.total StakeRecord.liveAmount (b.stakes.set wallet record') ∧
      b.totalStakers = Store.count StakeRecord.isLive (b.stakes.set wallet record') := by
  obtain ⟨total, count⟩ := ledger_amend stored amount standing
  rw [total, count]
  exact balance

/-- One entry keeps the stake ledger exactly when it forfeits and restores
deposits only. -/
theorem BookStep.stake_ledger_iff {marked : Int} (step : BookStep idOf event b b')
    (balance : b.StakesBalance marked) :
    b'.StakesBalance (marked + event.markdown b.totalStaked) ↔ event.ForfeitsAndRestores b := by
  have unmarked : marked + 0 = marked := add_zero marked
  cases step with
  | @staked _ wallet amount _ _ beneficiaryHash positive vacant =>
      refine iff_of_true ?_ trivial
      obtain ⟨total, count⟩ := ledger_deposit (b := b) beneficiaryHash positive vacant
      simp only [Books.StakesBalance, BookEvent.markdown, unmarked, total, count, ← balance.1,
        balance.2, and_true]
      omega
  | @exited _ wallet record _ _ stored funded standing =>
      refine iff_of_true ?_ trivial
      obtain ⟨total, count⟩ := ledger_forfeit { record with withdrawn := true, amount := 0 } stored
        (StakeRecord.isLive_iff.mpr ⟨funded, standing⟩) (by simp [StakeRecord.isLive])
      simp only [Books.StakesBalance, BookEvent.markdown, unmarked, total, count, ← balance.1,
        balance.2, and_true]
      omega
  | approved _ _ stored =>
      simp only [Books.StakesBalance, BookEvent.markdown, unmarked]
      exact approval_balance_iff balance stored
  | reversed listed active stored =>
      simp only [Books.StakesBalance, BookEvent.markdown, unmarked]
      exact reversal_balance_iff balance listed active stored rfl rfl
  | @overridden _ claimId req record _ _ stored _ funded =>
      refine iff_of_true ?_ trivial
      simp only [Books.StakesBalance, BookEvent.markdown, unmarked]
      by_cases forfeited : record.withdrawn = true
      · simp only [forfeited, if_true]
        exact balance.amend stored rfl forfeited.symm
      · have standing : record.withdrawn = false := Bool.eq_false_iff.mpr forfeited
        simp only [standing, Bool.false_eq_true, if_false]
        obtain ⟨total, count⟩ := ledger_forfeit
          { record with
            withdrawn := true
            activeClaimId := some claimId
            reservedClaimId :=
              if record.reservedClaimId = some claimId then none else record.reservedClaimId }
          stored (StakeRecord.isLive_iff.mpr ⟨funded, standing⟩) (by simp [StakeRecord.isLive])
        simp only [total, count, ← balance.1, balance.2, and_true]
        omega
  | droppedPending listed pending stored =>
      refine iff_of_true ?_ ?_
      · simp only [Books.StakesBalance, BookEvent.markdown, unmarked]
        exact balance.amend stored rfl rfl
      · exact forall_active_of_pending listed pending
  | queued _ stored | admitted _ stored | amended stored | restarted stored =>
      refine iff_of_true ?_ trivial
      simp only [Books.StakesBalance, BookEvent.markdown, unmarked, Books.enterClaim]
      exact balance.amend stored rfl rfl
  | released _ _ stored | queueExpired _ _ stored | approvalExpired _ _ stored =>
      refine iff_of_true ?_ trivial
      simp only [Books.StakesBalance, BookEvent.markdown, unmarked, Books.enterClaim]
      exact balance.amend stored rfl rfl
  | staleExpired _ _ _ stored =>
      refine iff_of_true ?_ trivial
      simp only [Books.StakesBalance, BookEvent.markdown, unmarked]
      exact balance.amend stored rfl rfl
  | redeemed =>
      refine iff_of_true ?_ trivial
      simp only [Books.StakesBalance, BookEvent.markdown, ← balance.1, balance.2, and_true]
      omega
  | unlocked | streamed | deployed | kept | treasury | clock =>
      refine iff_of_true ?_ trivial
      simp only [Books.StakesBalance, BookEvent.markdown, unmarked]
      exact balance

/-! ### Runs -/

/-- The steps that keep the stake ledger exact: no approval of a claim whose
wallet has no deposit in the pool, and no reversal that restores anything but
the deposit its claim forfeited. -/
def forfeitsAndRestores (host : Host D) : System.Guard (State D) (Action D) (Output D) :=
  fun _ s action => (bookEvent host s action).ForfeitsAndRestores (s.books host)

instance (host : Host D) (log : List (Entry (State D) (Action D) (Output D))) (s : State D)
    (action : Action D) : Decidable (forfeitsAndRestores host log s action) :=
  inferInstanceAs (Decidable (BookEvent.ForfeitsAndRestores _ _))

theorem stakeLedger_iff_balance {host : Host D}
    {log : List (Entry (State D) (Action D) (Output D))} {s : State D} :
    StakeLedger host log s ↔ (s.books host).StakesBalance (markedDown host log) :=
  ⟨fun ledger => ⟨ledger.staked, ledger.stakers⟩, fun balance => ⟨balance.1, balance.2⟩⟩

/-- The stake ledger is kept in every run of such steps. -/
theorem stakeLedger_of_run {host : Host D}
    {log : List (Entry (State D) (Action D) (Output D))} {s : State D}
    (run : (poolSystem host).Run (forfeitsAndRestores host) log s) : StakeLedger host log s := by
  refine run.invariant (P := StakeLedger host) ?_ ?_
  · intro s deployed
    obtain ⟨noStakes, -, staked, -, stakers, -⟩ := deployed_books deployed
    constructor
    · simp only [noStakes, staked, markedDown, Store.total_empty, add_zero]
    · simp only [noStakes, stakers, Store.count_empty]
  · intro log s action output s' _ ledger clear stepped
    have exactly := (step_refines stepped).stake_ledger_iff (stakeLedger_iff_balance.mp ledger)
    exact stakeLedger_iff_balance.mpr (exactly.mpr clear)

/-- In every run in which approvals forfeit and reversals restore deposits only,
the stake ledger is exact.  A further step keeps it so exactly when it does the
same. -/
theorem stake_ledger_exact (host : Host D)
    {log : List (Entry (State D) (Action D) (Output D))} {s : State D}
    (run : (poolSystem host).Run (forfeitsAndRestores host) log s) :
    StakeLedger host log s ∧
      ∀ {action output s'}, (poolSystem host).step s action = .ok (output, s') →
        (StakeLedger host (⟨s, action, output, s'⟩ :: log) s' ↔
          forfeitsAndRestores host log s action) := by
  have ledger := stakeLedger_of_run run
  refine ⟨ledger, fun stepped => stakeLedger_iff_balance.trans ?_⟩
  exact (step_refines stepped).stake_ledger_iff (stakeLedger_iff_balance.mp ledger)

/-- Such runs forfeit deposits and restore them. -/
theorem stake_ledger_exact_sample :
    ∃ log s, (poolSystem sampleHost).Run (forfeitsAndRestores sampleHost) log s ∧
      s.totalStaked = 102000 ∧ StakeLedger sampleHost log s := by
  obtain ⟨log, s, run, ends⟩ := System.exists_run_of_replay (poolSystem sampleHost)
    (forfeitsAndRestores sampleHost) samplePool_deployed
    (sampleOpening 10000 ++ [callBy 1 (.cancelClaim (computeClaimId sampleHost (party 11) 0))])
    (fun _ s => s.totalStaked = 102000) (by decide +kernel)
  exact ⟨log, s, run, ends, (stake_ledger_exact sampleHost run).1⟩

/-- The wallet of the opening stakes again before its claim is reversed: 2000 are
added to the stake aggregate while its record says 3000 all along. -/
theorem reversal_after_restake_miscounts :
    ∃ log s, (poolSystem sampleHost).Run System.anyStep log s ∧ ¬ StakeLedger sampleHost log s := by
  obtain ⟨log, s, run, ends⟩ := System.exists_run_of_replay (poolSystem sampleHost)
    System.anyStep samplePool_deployed
    (sampleOpening 10000 ++ [callBy 11 (.stake (party 11) 3000 (party 21)),
      callBy 1 (.cancelClaim (computeClaimId sampleHost (party 11) 0))])
    (fun _ s => ¬ s.totalStakers = Store.count StakeRecord.isLive s.stakes) (by decide +kernel)
  exact ⟨log, s, run, fun ledger => ends ledger.stakers⟩

end ProtectionPool
