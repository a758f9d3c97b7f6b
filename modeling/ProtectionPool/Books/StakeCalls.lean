/-
Module: ProtectionPool.Books.StakeCalls
Purpose: What a successful deposit, exit, payout or withdrawal of yield says: the checks
  it passed and the state it leaves.  One lemma for each call; the later modules use
  these and not the calls' own text.
Trusted boundary: none
Main exports: Staked, Withdrawn, Exited, Streamed, Drawn, stake_eq_ok, withdraw_eq_ok,
  emergencyExit_eq_ok, claimStream_eq_ok, sendYield_ok, withdrawYield_ok
-/
import ProtectionPool.Books.Step
import ProtectionPool.Model.Contract

namespace ProtectionPool

open Checked

variable {D : Type}

variable {host : Host D} {env : Env} {s s' : State D} {staker beneficiary : Address}
  {record : StakeRecord D} {claim : Claim} {amount paid : Int}

theorem StakeRecord.isLive_iff :
    record.isLive = true ↔ 0 < record.amount ∧ record.withdrawn = false := by
  simp [StakeRecord.isLive]

/-- A test no stored value passes. -/
theorem option_any_eq_false {α : Type} {p : α → Bool} {o : Option α} :
    o.any p = false ↔ ∀ a, o = some a → p a = false := by
  cases o <;> simp

@[simp] theorem requireLiquidity_eq_ok {u : Unit} :
    requireLiquidity host s amount = .ok u ↔ amount ≤ liquidBalance host s := by
  simp [requireLiquidity]

/-! ### Deposits -/

/-- The state after a deposit. -/
def State.afterStake (host : Host D) (s : State D) (staker : Address) (amount : Int)
    (beneficiary : Address) : State D :=
  { s with
    stakes := s.stakes.set staker (freshStake host s amount beneficiary)
    totalStaked := s.totalStaked + amount
    totalStakers := s.totalStakers + 1
    xlm := moved s.xlm staker host.contract amount }

/-- A deposit that is taken. -/
structure Staked (host : Host D) (env : Env) (s : State D) (staker : Address) (amount : Int)
    (beneficiary : Address) (s' : State D) : Prop where
  running : s.paused = false
  signed : staker ∈ env.signers ∧ staker ≠ host.contract
  positive : 0 < amount
  least : ∃ least, minStake s = .ok least ∧ least ≤ amount
  most : ∃ most, maxStake s = .ok most ∧ amount ≤ most
  vacant : ∀ record, s.stakes.get staker = some record → record.isLive = false
  fits : InI128 (s.totalStaked + amount)
  withinCap : s.totalStaked + amount ≤ s.poolCap
  destination : beneficiary ≠ staker ∧ beneficiary ≠ s.oracle ∧ beneficiary ≠ s.admin ∧
    beneficiary ≠ s.coSigner
  counted : s.totalStakers + 1 < 2 ^ 32
  afforded : amount ≤ s.xlm staker
  accepted : env.tokenAccepts = true
  state : s' = s.afterStake host staker amount beneficiary

theorem stake_eq_ok : stake host env s staker amount beneficiary = .ok s' ↔
    Staked host env s staker amount beneficiary s' := by
  constructor
  · intro stepped
    simp only [stake, bind_eq_ok, requireNotPaused_eq_ok, requireAuth_eq_ok, rejectIf_eq_ok,
      i128_eq_ok, u32_eq_ok, transfer_eq_ok, Bool.not_eq_true, option_any_eq_false] at stepped
    obtain ⟨_, running, _, signed, _, positive, least, leastIs, _, aboveLeast, most, mostIs, _,
      belowMost, _, vacant, _, ⟨fits, rfl⟩, _, withinCap, _, own, _, oracle, _, admin, _, coSigner,
      _, ⟨counted, rfl⟩, ⟨⟨-, afforded⟩, accepted⟩, rfl⟩ := stepped
    exact {
      running := running, signed := signed, positive := not_le.mp positive,
      least := ⟨least, leastIs, not_lt.mp aboveLeast⟩,
      most := ⟨most, mostIs, not_lt.mp belowMost⟩, vacant := vacant, fits := fits,
      withinCap := not_lt.mp withinCap, destination := ⟨own, oracle, admin, coSigner⟩,
      counted := counted, afforded := afforded, accepted := accepted, state := rfl }
  · rintro ⟨running, signed, positive, ⟨least, leastIs, aboveLeast⟩, ⟨most, mostIs, belowMost⟩,
      vacant, fits, withinCap, ⟨own, oracle, admin, coSigner⟩, counted, afforded, accepted, rfl⟩
    simp only [stake, bind_eq_ok, requireNotPaused_eq_ok, requireAuth_eq_ok, rejectIf_eq_ok,
      i128_eq_ok, u32_eq_ok, transfer_eq_ok, Bool.not_eq_true, option_any_eq_false]
    exact ⟨(), running, (), signed, (), not_le.mpr positive, least, leastIs, (),
      not_lt.mpr aboveLeast, most, mostIs, (), not_lt.mpr belowMost, (), vacant, _, ⟨fits, rfl⟩, (),
      not_lt.mpr withinCap, (), own, (), oracle, (), admin, (), coSigner, _, ⟨counted, rfl⟩,
      ⟨⟨positive.le, afforded⟩, accepted⟩, rfl⟩

/-! ### Exits -/

/-- The state after a deposit is paid out, with the points balances it leaves. -/
def State.afterLeaving (host : Host D) (s : State D) (staker : Address)
    (record : StakeRecord D) (payee : Address) (balances : Store Address Int) : State D :=
  { s with
    stakes := s.stakes.set staker { record with withdrawn := true, amount := 0 }
    pointsBalances := balances
    totalStaked := s.totalStaked - record.amount
    totalStakers := s.totalStakers - 1
    xlm := moved s.xlm host.contract payee record.amount }

/-- A deposit that its staker takes out. -/
structure Exited (host : Host D) (env : Env) (s : State D) (staker : Address)
    (record : StakeRecord D) (s' : State D) : Prop where
  signed : staker ∈ env.signers ∧ staker ≠ host.contract
  stored : s.stakes.get staker = some record
  funded : 0 < record.amount
  standing : record.withdrawn = false
  inactive : record.activeClaimId = none
  covered : record.amount ≤ liquidBalance host s
  fits : InI128 (s.totalStaked - record.amount)
  accepted : env.tokenAccepts = true
  state : s' = s.afterLeaving host staker record staker s.pointsBalances

theorem emergencyExit_eq_ok : emergencyExit host env s staker = .ok s' ↔
    ∃ record, Exited host env s staker record s' := by
  constructor
  · intro stepped
    simp only [emergencyExit, bind_eq_ok, requireAuth_eq_ok, okOr_eq_ok, rejectIf_eq_ok, not_or,
      requireLiquidity_eq_ok, i128_eq_ok, transfer_eq_ok, Bool.not_eq_true,
      Option.isSome_eq_false_iff, Option.isNone_iff_eq_none] at stepped
    obtain ⟨_, signed, record, stored, _, ⟨funded, standing⟩, _, inactive, _, covered, _,
      ⟨fits, rfl⟩, ⟨-, accepted⟩, rfl⟩ := stepped
    exact ⟨record, {
      signed := signed, stored := stored, funded := not_le.mp funded, standing := standing,
      inactive := inactive, covered := covered, fits := fits, accepted := accepted, state := rfl }⟩
  · rintro ⟨record, signed, stored, funded, standing, inactive, covered, fits, accepted, rfl⟩
    simp only [emergencyExit, bind_eq_ok, requireAuth_eq_ok, okOr_eq_ok, rejectIf_eq_ok, not_or,
      requireLiquidity_eq_ok, i128_eq_ok, transfer_eq_ok, Bool.not_eq_true,
      Option.isSome_eq_false_iff, Option.isNone_iff_eq_none]
    exact ⟨(), signed, record, stored, (), ⟨not_le.mpr funded, standing⟩, (), inactive, (), covered,
      _, ⟨fits, rfl⟩, ⟨⟨funded.le, covered⟩, accepted⟩, rfl⟩

theorem Exited.live (exited : Exited host env s staker record s') :
    record.isLive = true :=
  StakeRecord.isLive_iff.mpr ⟨exited.funded, exited.standing⟩

/-! ### Yield -/

/-- The state after yield is sent. -/
def State.afterYield (host : Host D) (s : State D) (treasury : Address) (amount : Int) : State D :=
  { s with
    totalExtractedYield := s.totalExtractedYield + amount
    xlm := moved s.xlm host.contract treasury amount }

/-- Yield is sent if there is some. -/
theorem sendYield_ok {treasury : Address} {yieldAmount : Int}
    (sent : sendYield host env s treasury yieldAmount = .ok s') :
    (0 < yieldAmount ∧ yieldAmount ≤ liquidBalance host s ∧
        s' = s.afterYield host treasury yieldAmount) ∨
      (yieldAmount ≤ 0 ∧ s' = s) := by
  rcases ite_eq_ok.mp sent with ⟨positive, sent⟩ | ⟨none, sent⟩
  · simp only [bind_eq_ok, i128_eq_ok, transfer_eq_ok] at sent
    obtain ⟨_, ⟨-, rfl⟩, ⟨⟨-, afforded⟩, -⟩, rfl⟩ := sent
    exact .inl ⟨positive, afforded, rfl⟩
  · exact .inr ⟨not_lt.mp none, (Except.ok.inj sent).symm⟩

/-- Yield that the admin draws. -/
structure Drawn (host : Host D) (env : Env) (s : State D) (amount : Int) (treasury : Address)
    (available : Int) (s' : State D) : Prop where
  signed : s.admin ∈ env.signers ∧ s.admin ≠ host.contract
  positive : 0 < amount
  recipient : s.treasury = some treasury
  computed : yieldBalance host s = .ok available
  within : amount ≤ available
  afforded : amount ≤ liquidBalance host s
  state : s' = s.afterYield host treasury amount

theorem withdrawYield_ok (stepped : withdrawYield host env s amount = .ok s') :
    ∃ treasury available, Drawn host env s amount treasury available s' := by
  simp only [withdrawYield, bind_eq_ok, requireAuth_eq_ok, rejectIf_eq_ok, okOr_eq_ok, i128_eq_ok,
    transfer_eq_ok] at stepped
  obtain ⟨_, signed, _, positive, treasury, recipient, available, computed, _, within, _, afforded,
    _, ⟨-, rfl⟩, -, rfl⟩ := stepped
  exact ⟨treasury, available, {
    signed := signed, positive := not_le.mp positive, recipient := recipient,
    computed := computed, within := not_lt.mp within, afforded := not_lt.mp afforded,
    state := rfl }⟩

/-! ### Payouts -/

/-- A payout is positive. -/
theorem transferAmount_pos (computed : transferAmount s claim = .ok paid) :
    0 < paid := by
  simp only [transferAmount, bind_eq_ok, rejectIf_eq_ok, i128_eq_ok, Except.ok.injEq] at computed
  obtain ⟨vested, -, _, -, _, -, cap, -, _, available, rfl⟩ := computed
  exact not_le.mp available

variable [DecidableEq D] {claimId : D}

/-- The state after a payout. -/
def State.afterStream (host : Host D) (s : State D) (claimId : D) (claim : Claim)
    (beneficiary : Address) (amount : Int) : State D :=
  { s with
    totalAllocated := saturatingSub s.totalAllocated amount
    lastOutflowDay := currentDay s
    dailyOutflow := getDailyOutflow s (currentDay s) + amount
    claims := s.claims.set claimId (claim.paid amount s.sequence)
    xlm := moved s.xlm host.contract beneficiary amount }

/-- A payout of a claim in effect. -/
structure Streamed (host : Host D) (env : Env) (s : State D) (claimId : D)
    (beneficiary : Address) (claim : Claim) (record : StakeRecord D) (paid : Int)
    (s' : State D) : Prop where
  running : s.paused = false
  listed : s.claims.get claimId = some claim
  signed : claim.wallet ∈ env.signers ∧ claim.wallet ≠ host.contract
  active : claim.status = .active
  cooled : claim.cooldownEndsLedger ≤ s.sequence
  unpaid : claim.streamed < claim.entitlement
  stored : s.stakes.get claim.wallet = some record
  unsuspended : record.suspended = false
  committed : addressHash host beneficiary = record.beneficiaryHash
  computed : transferAmount s claim = .ok paid
  covered : paid ≤ liquidBalance host s
  streamedFits : InI128 (claim.streamed + paid)
  outflowFits : InI128 (getDailyOutflow s (currentDay s) + paid)
  accepted : env.tokenAccepts = true
  state : s' = s.afterStream host claimId claim beneficiary paid

theorem claimStream_eq_ok : claimStream host env s claimId beneficiary = .ok (paid, s') ↔
    ∃ claim record, Streamed host env s claimId beneficiary claim record paid s' := by
  constructor
  · intro stepped
    simp only [claimStream, bind_eq_ok, requireNotPaused_eq_ok, requireAuth_eq_ok, okOr_eq_ok,
      rejectIf_eq_ok, requireLiquidity_eq_ok, i128_eq_ok, transfer_eq_ok, Bool.not_eq_true, not_not,
      Except.ok.injEq, Prod.mk.injEq] at stepped
    obtain ⟨_, running, claim, listed, _, signed, _, active, _, cooled, _, unpaid, record, stored,
      _, unsuspended, _, committed, _, computed, _, covered, _, ⟨streamedFits, rfl⟩, _,
      ⟨outflowFits, rfl⟩, _, ⟨⟨-, accepted⟩, rfl⟩, rfl, rfl⟩ := stepped
    exact ⟨claim, record, {
      running := running, listed := listed, signed := signed, active := active,
      cooled := not_lt.mp cooled, unpaid := not_le.mp unpaid, stored := stored,
      unsuspended := unsuspended, committed := committed, computed := computed, covered := covered,
      streamedFits := streamedFits, outflowFits := outflowFits, accepted := accepted,
      state := rfl }⟩
  · rintro ⟨claim, record, running, listed, signed, active, cooled, unpaid, stored, unsuspended,
      committed, computed, covered, streamedFits, outflowFits, accepted, rfl⟩
    simp only [claimStream, bind_eq_ok, requireNotPaused_eq_ok, requireAuth_eq_ok, okOr_eq_ok,
      rejectIf_eq_ok, requireLiquidity_eq_ok, i128_eq_ok, transfer_eq_ok, Bool.not_eq_true, not_not,
      Except.ok.injEq, Prod.mk.injEq]
    exact ⟨(), running, claim, listed, (), signed, (), active, (), not_lt.mpr cooled, (),
      not_le.mpr unpaid, record, stored, (), unsuspended, (), committed, paid, computed, (),
      covered, _, ⟨streamedFits, rfl⟩, _, ⟨outflowFits, rfl⟩, _,
      ⟨⟨⟨(transferAmount_pos computed).le, covered⟩, accepted⟩, rfl⟩, rfl, rfl⟩

/-! ### Withdrawals -/

/-- A deposit that is withdrawn to its beneficiary, with its points banked. -/
structure Withdrawn (host : Host D) (env : Env) (s : State D) (staker beneficiary : Address)
    (record : StakeRecord D) (points : Int) (balances : Store Address Int) (s' : State D) :
    Prop where
  running : s.paused = false
  signed : staker ∈ env.signers ∧ staker ≠ host.contract
  stored : s.stakes.get staker = some record
  funded : 0 < record.amount
  standing : record.withdrawn = false
  inactive : record.activeClaimId = none
  unlocked : record.penaltyLockedUntilLedger ≤ s.sequence
  committed : addressHash host beneficiary = record.beneficiaryHash
  computed : computePointsForRecord s record = .ok points
  banked : bankPoints s staker points = .ok balances
  covered : record.amount ≤ liquidBalance host s
  fits : InI128 (s.totalStaked - record.amount)
  accepted : env.tokenAccepts = true
  state : s' = s.afterLeaving host staker record beneficiary balances

theorem withdraw_eq_ok : withdraw host env s staker beneficiary = .ok s' ↔
    ∃ record points balances,
      Withdrawn host env s staker beneficiary record points balances s' := by
  constructor
  · intro stepped
    simp only [withdraw, bind_eq_ok, requireNotPaused_eq_ok, requireAuth_eq_ok, okOr_eq_ok,
      rejectIf_eq_ok, requireLiquidity_eq_ok, i128_eq_ok, transfer_eq_ok, Bool.not_eq_true,
      Option.isSome_eq_false_iff, Option.isNone_iff_eq_none, not_not] at stepped
    obtain ⟨_, running, _, signed, record, stored, _, funded, _, standing, _, inactive, _, unlocked,
      _, committed, points, computed, _, covered, balances, banked, _, ⟨fits, rfl⟩,
      ⟨-, accepted⟩, rfl⟩ := stepped
    rw [computePoints, stored] at computed
    exact ⟨record, points, balances, {
      running := running, signed := signed, stored := stored, funded := not_le.mp funded,
      standing := standing, inactive := inactive, unlocked := not_lt.mp unlocked,
      committed := committed, computed := computed, banked := banked, covered := covered,
      fits := fits, accepted := accepted, state := rfl }⟩
  · rintro ⟨record, points, balances, running, signed, stored, funded, standing, inactive, unlocked,
      committed, computed, banked, covered, fits, accepted, rfl⟩
    simp only [withdraw, bind_eq_ok, requireNotPaused_eq_ok, requireAuth_eq_ok, okOr_eq_ok,
      rejectIf_eq_ok, requireLiquidity_eq_ok, i128_eq_ok, transfer_eq_ok, Bool.not_eq_true,
      Option.isSome_eq_false_iff, Option.isNone_iff_eq_none, not_not, computePoints]
    refine ⟨(), running, (), signed, record, stored, (), not_le.mpr funded, (), standing, (),
      inactive, (), not_lt.mpr unlocked, (), committed, points, ?_, (), covered, balances, banked,
      _, ⟨fits, rfl⟩, ⟨⟨funded.le, covered⟩, accepted⟩, rfl⟩
    rw [stored]
    exact computed

/-- What is withdrawn was in the pool. -/
theorem Withdrawn.live {points : Int} {balances : Store Address Int}
    (withdrawn : Withdrawn host env s staker beneficiary record points balances s') :
    record.isLive = true :=
  StakeRecord.isLive_iff.mpr ⟨withdrawn.funded, withdrawn.standing⟩

end ProtectionPool
