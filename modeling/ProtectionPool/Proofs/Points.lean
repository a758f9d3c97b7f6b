/-
Module: ProtectionPool.Proofs.Points
Purpose: The law of the points.  A deposit earns the rates of its days, in proportion
  to the largest deposit the cap admits: more ledgers and larger amounts earn no less,
  and a tenure split into cycles banks no more than a single cycle of the same length,
  since the rates only rise and what is cut off in rounding is lost at the end of each
  cycle.
Trusted boundary: none
Main exports: dailyRate, tenurePoints, earnedPoints, creditedUntil, BankedWithin,
  EndsCycle, points_law
-/
import ProtectionPool.Books.Registration
import ProtectionPool.Library.Progressive

namespace ProtectionPool

open Checked

variable {D : Type}

/-! ### Points by tenure -/

/-- The points the largest deposit earns on a day of its tenure. -/
def dailyRate (day : Nat) : Int :=
  if day ≤ 90 then 100
  else if day ≤ 180 then 120
  else if day ≤ 365 then 150
  else 200

/-- The tenure bands as progressive rates: 100 points a day, and 20, 30 and 50 more
beyond 90, 180 and 365 days. -/
def tenureBrackets : List (Progressive.Bracket Int) :=
  [⟨0, 100, by decide, by decide⟩, ⟨90, 20, by decide, by decide⟩,
    ⟨180, 30, by decide, by decide⟩, ⟨365, 50, by decide, by decide⟩]

theorem pointsBase_eq {d : Int} (nonneg : 0 ≤ d) :
    pointsBase d = Progressive.earned tenureBrackets d := by
  simp only [pointsBase, tenureBrackets, Progressive.earned_cons, Progressive.earned_nil,
    Progressive.beyond]
  split_ifs <;> omega

/-- The brackets a day lies beyond make up its rate. -/
theorem marginal_tenureBrackets {day : Nat} (first : 1 ≤ day) :
    Progressive.marginal tenureBrackets day = dailyRate day := by
  simp only [tenureBrackets, Progressive.marginal_cons, Progressive.marginal_nil, dailyRate]
  split_ifs <;> omega

/-- The bands add up the rates of the days. -/
theorem pointsBase_eq_sum (d : Nat) : pointsBase d = ∑ day ∈ Finset.Icc 1 d, dailyRate day := by
  rw [pointsBase_eq (Int.natCast_nonneg d), Progressive.earned_eq_sum]
  refine Finset.sum_congr rfl fun day member => ?_
  exact marginal_tenureBrackets (Finset.mem_Icc.mp member).1

/-- The points a whole maximum deposit earns over a number of ledgers. -/
def tenurePoints (ledgers : Nat) : Int := pointsBase (ledgers / ledgersPerDay : Nat)

/-- Tenures earn no more when they are split: the rates rise from band to band, and
only whole days count. -/
theorem tenurePoints_accrual : Accrual tenurePoints := by
  have exact : tenurePoints = fun ledgers =>
      Progressive.earned tenureBrackets ((ledgers / ledgersPerDay : Nat) : Int) :=
    funext fun _ => pointsBase_eq (Int.natCast_nonneg _)
  have days : Accrual fun n : Nat => Progressive.earned tenureBrackets (n : Int) :=
    Progressive.accrual
  rw [exact]
  exact days.periods ledgersPerDay

/-! ### Points of a deposit -/

/-- The largest deposit a cap admits. -/
def largestStake (cap : Int) : Int := (cap * maxStakeBps).tdiv stakeBpsDenominator

/-- What a deposit earns over a number of ledgers: the rates of its whole days, in
proportion to the largest deposit.  A deposit or a cap that is not positive earns
nothing. -/
def earnedPoints (cap amount : Int) (ledgers : Nat) : Int :=
  Proportion.slice (∑ day ∈ Finset.Icc 1 (ledgers / ledgersPerDay), dailyRate day)
    (max amount 0) (max (largestStake cap) 0)

variable {cap amount amount' : Int} {ledgers ledgers' : Nat}

theorem earnedPoints_eq : earnedPoints cap amount ledgers =
    Proportion.slice (tenurePoints ledgers) (max amount 0) (max (largestStake cap) 0) := by
  rw [earnedPoints, ← pointsBase_eq_sum, tenurePoints]

theorem earnedPoints_accrual (cap amount : Int) : Accrual (earnedPoints cap amount) := by
  have exact : earnedPoints cap amount = fun ledgers =>
      Proportion.slice (tenurePoints ledgers) (max amount 0) (max (largestStake cap) 0) :=
    funext fun _ => earnedPoints_eq
  rw [exact]
  exact tenurePoints_accrual.slice (le_max_right _ _) (le_max_right _ _)

/-- More ledgers and a larger amount earn no less. -/
theorem earnedPoints_mono (larger : amount ≤ amount') (longer : ledgers ≤ ledgers') :
    earnedPoints cap amount ledgers ≤ earnedPoints cap amount' ledgers' := by
  rw [earnedPoints_eq, earnedPoints_eq]
  exact Proportion.slice_mono (tenurePoints_accrual.nonneg _) (tenurePoints_accrual.mono longer)
    (le_max_right _ _) (max_le_max_right 0 larger) (le_max_right _ _)

/-- Without a deposit, or under a cap that admits none, nothing is earned. -/
theorem earnedPoints_eq_zero (none : amount ≤ 0 ∨ largestStake cap ≤ 0) :
    earnedPoints cap amount ledgers = 0 := by
  rw [earnedPoints, Proportion.slice]
  rcases none with none | none
  · rw [max_eq_right none, mul_zero, Int.zero_tdiv]
  · rw [max_eq_right none, Int.tdiv_zero]

/-- At most the points of the tenure are earned for each unit of the amount. -/
theorem earnedPoints_le :
    earnedPoints cap amount ledgers ≤ tenurePoints ledgers * max amount 0 := by
  rw [earnedPoints_eq, Proportion.slice]
  exact Int.tdiv_le_self _ (Int.mul_nonneg (tenurePoints_accrual.nonneg _) (le_max_right _ _))

/-- The products of the points formula fit. -/
def PointsFit (cap amount : Int) (ledgers : Nat) : Prop :=
  InI128 (cap * maxStakeBps) ∧
    (0 < largestStake cap → InI128 (tenurePoints ledgers * amount))

/-- A smaller deposit of a shorter tenure fits too. -/
theorem PointsFit.mono (fits : PointsFit cap amount' ledgers') (positive : 0 < amount)
    (larger : amount ≤ amount') (longer : ledgers ≤ ledgers') : PointsFit cap amount ledgers := by
  refine ⟨fits.1, fun admits => ?_⟩
  have nonneg := tenurePoints_accrual.nonneg
  exact (fits.2 admits).of_le (Int.mul_nonneg (nonneg _) positive.le)
    (mul_le_mul (tenurePoints_accrual.mono longer) larger positive.le (nonneg _))

variable {host : Host D} {s s' : State D} {record record' : StakeRecord D} {points : Int}

/-- The points of a deposit trap only where its products do not fit. -/
theorem computePointsForRecord_avoids_iff :
    Avoids .overflow (computePointsForRecord s record) ↔
      (0 < record.amount → record.withdrawn = false →
        PointsFit s.poolCap record.amount (s.sequence - record.stakedAtLedger)) := by
  simp [computePointsForRecord, avoids_ite, maxStake, PointsFit, largestStake, tenurePoints]
  refine imp_congr_right fun _ => imp_congr_right fun _ => ?_
  exact and_congr_right imp_iff_right

/-- Where they do not trap, they are what the deposit has earned. -/
theorem computePointsForRecord_eq (avoids : Avoids .overflow (computePointsForRecord s record)) :
    computePointsForRecord s record = .ok (if record.withdrawn then 0
      else earnedPoints s.poolCap record.amount (s.sequence - record.stakedAtLedger)) := by
  have fits := computePointsForRecord_avoids_iff.mp avoids
  by_cases gone : record.amount ≤ 0 ∨ record.withdrawn = true
  · have none : computePointsForRecord s record = .ok 0 := if_pos gone
    rw [none]
    split_ifs with left
    · rfl
    · rw [earnedPoints_eq_zero (.inl (gone.resolve_right left))]
  · obtain ⟨funded, standing⟩ := not_or.mp gone
    obtain ⟨capFits, product⟩ := fits (not_le.mp funded) (Bool.eq_false_iff.mpr standing)
    have most : maxStake s = .ok (largestStake s.poolCap) := by
      simp only [maxStake, bind_eq_ok, i128_eq_ok]
      exact ⟨_, ⟨capFits, rfl⟩, rfl⟩
    rw [if_neg standing, computePointsForRecord, if_neg gone]
    simp only [most, bind_eq_ok, Except.ok.injEq, exists_eq_left']
    by_cases none : largestStake s.poolCap ≤ 0
    · rw [if_pos none, earnedPoints_eq_zero (.inr none)]
    · have admits := not_le.mp none
      rw [if_neg none, earnedPoints_eq, max_eq_left (not_le.mp funded).le,
        max_eq_left admits.le]
      simp only [bind_eq_ok, i128_eq_ok]
      exact ⟨_, ⟨product admits, rfl⟩, rfl⟩

/-- They are nothing else. -/
theorem computePointsForRecord_ok (computed : computePointsForRecord s record = .ok points) :
    points = if record.withdrawn then 0
      else earnedPoints s.poolCap record.amount (s.sequence - record.stakedAtLedger) := by
  have avoids : Avoids .overflow (computePointsForRecord s record) := by simp [computed]
  exact Except.ok.inj (computed.symm.trans (computePointsForRecord_eq avoids))

theorem computePointsForRecord_nonneg (computed : computePointsForRecord s record = .ok points) :
    0 ≤ points := by
  rw [computePointsForRecord_ok computed]
  split_ifs
  · exact le_refl 0
  · exact (earnedPoints_accrual _ _).nonneg _

/-- Under the same cap a larger deposit of a longer tenure has earned no less, and where
its points do not trap neither do those of the smaller one. -/
theorem computePointsForRecord_mono (cap : s.poolCap = s'.poolCap)
    (standing : record.withdrawn = record'.withdrawn) (larger : record.amount ≤ record'.amount)
    (longer : s.sequence - record.stakedAtLedger ≤ s'.sequence - record'.stakedAtLedger)
    {points' : Int} (computed : computePointsForRecord s' record' = .ok points') :
    ∃ points, computePointsForRecord s record = .ok points ∧ points ≤ points' := by
  have avoids' : Avoids .overflow (computePointsForRecord s' record') := by simp [computed]
  have avoids : Avoids .overflow (computePointsForRecord s record) := by
    refine computePointsForRecord_avoids_iff.mpr fun funded stands => ?_
    have fits := computePointsForRecord_avoids_iff.mp avoids' (funded.trans_le larger)
      (standing.symm.trans stands)
    rw [cap]
    exact fits.mono funded larger longer
  refine ⟨_, computePointsForRecord_eq avoids, ?_⟩
  rw [computePointsForRecord_ok computed, standing, cap]
  split_ifs
  · exact le_refl 0
  · exact earnedPoints_mono larger longer

variable {idOf : Address → BytesN 32 → D} {event : BookEvent D} {b b' : Books D}
  {r r' : Register D} {action : Action D} {output : Output D}

/-! ### Credit -/

/-- The ledger by which a wallet earned the points it has banked: the start of its
current deposit, or now if it has none. -/
def creditedUntil (sequence : Nat) : Option (StakeRecord D) → Nat
  | some record => if 0 < record.amount then record.stakedAtLedger else sequence
  | none => sequence

/-- Who has no deposit from an earlier ledger is credited until now. -/
theorem creditedUntil_eq {sequence : Nat} {stored : Option (StakeRecord D)}
    (now : ∀ record ∈ stored, 0 < record.amount → record.stakedAtLedger = sequence) :
    creditedUntil sequence stored = sequence := by
  cases stored with
  | none => rfl
  | some record =>
      simp only [creditedUntil]
      split_ifs with funded
      · exact now record rfl funded
      · rfl

theorem creditedUntil_le_sequence {stakes : Store Address (StakeRecord D)} {sequence : Nat}
    (dated : Store.All (fun _ record => record.stakedAtLedger ≤ sequence) stakes)
    (wallet : Address) : creditedUntil sequence (stakes.get wallet) ≤ sequence := by
  cases stored : stakes.get wallet with
  | none => exact le_refl _
  | some record =>
      simp only [creditedUntil]
      split_ifs
      · exact dated _ _ stored
      · exact le_refl _

variable [DecidableEq D]

/-- No entry takes back what a wallet is credited for. -/
theorem BookStep.creditedUntil_le (step : BookStep idOf event b b')
    (dated : Store.All (fun _ record => record.stakedAtLedger ≤ b.sequence) b.stakes)
    (wallet : Address) :
    creditedUntil b.sequence (b.stakes.get wallet) ≤
      creditedUntil b'.sequence (b'.stakes.get wallet) := by
  have most := (creditedUntil_le_sequence dated wallet).trans step.sequence_le
  cases stored' : b'.stakes.get wallet with
  | none => exact most
  | some record' =>
      by_cases funded : 0 < record'.amount
      · rw [creditedUntil, if_pos funded]
        cases step.depositChange stored' with
        | made deposit positive now =>
            rw [now]
            exact creditedUntil_le_sequence dated wallet
        | left stored empty => exact absurd empty funded.ne'
        | kept stored amount start =>
            rw [stored, creditedUntil, if_pos (amount ▸ funded), start]
      · rw [creditedUntil, if_neg funded]
        exact most

/-- A balance of points is kept, burned, or the one its wallet withdraws into. -/
theorem RegisterStep.balance_cases (step : RegisterStep host action output r r')
    (wallet : Address) :
    (r'.pointsBalances.get wallet).getD 0 = (r.pointsBalances.get wallet).getD 0 ∨
      (r'.pointsBalances.get wallet).getD 0 = 0 ∨
        ∃ env beneficiary, action = .invoke env (.withdraw wallet beneficiary) := by
  have burned : ∀ key, ((r.pointsBalances.set key 0).get wallet).getD 0 =
      (r.pointsBalances.get wallet).getD 0 ∨
        ((r.pointsBalances.set key 0).get wallet).getD 0 = 0 := by
    intro key
    by_cases same : wallet = key
    · rw [same, Store.get_set_self]
      exact .inr rfl
    · rw [Store.get_set_ne _ _ same]
      exact .inl rfl
  cases step with
  | @withdrawn _ env staker beneficiary _ _ _ _ _ _ _ _ _ _ banked =>
      by_cases own : wallet = staker
      · rw [own]
        exact .inr (.inr ⟨env, beneficiary, rfl⟩)
      · left
        rcases banked with rfl | ⟨balance, rfl⟩
        · rfl
        · rw [Store.get_set_ne _ _ own]
  | approved => exact (burned _).imp_right .inl
  | overrideExecuted =>
      dsimp only
      split_ifs
      · exact .inl rfl
      · exact (burned _).imp_right .inl
  | _ => exact .inl rfl

/-- A withdrawal banks what the deposit has earned. -/
theorem withdraw_banks {env : Env} {staker beneficiary : Address}
    (stepped : withdraw host env s staker beneficiary = .ok s') :
    ∃ record points, s.stakes.get staker = some record ∧ record.withdrawn = false ∧
      computePointsForRecord s record = .ok points ∧
      getPointsBalance s' staker = getPointsBalance s staker + points ∧
      creditedUntil s'.sequence (s'.stakes.get staker) = s.sequence := by
  obtain ⟨record, points, balances, withdrawn⟩ := withdraw_eq_ok.mp stepped
  have computed := withdrawn.computed
  refine ⟨record, points, withdrawn.stored, withdrawn.standing, computed, ?_, ?_⟩ <;>
    rw [withdrawn.state]
  · rcases ite_eq_ok.mp withdrawn.banked with ⟨-, banked⟩ | ⟨none, banked⟩
    · simp only [bind_eq_ok, i128_eq_ok, Except.ok.injEq] at banked
      obtain ⟨balance, ⟨-, rfl⟩, rfl⟩ := banked
      rw [getPointsBalance, State.afterLeaving, Store.get_set_self]
      rfl
    · obtain rfl := Except.ok.inj banked
      obtain rfl := le_antisymm (not_lt.mp none) (computePointsForRecord_nonneg computed)
      rw [add_zero]
      rfl
  · rw [State.afterLeaving, Store.get_set_self]
    rfl

/-- No points are banked in a pool just deployed. -/
theorem balance_of_deployed (deployed : Deployed host s) (wallet : Address) :
    getPointsBalance s wallet = 0 := by
  have noPoints : s.pointsBalances = Store.empty := (deployed_register deployed).noPoints
  rw [getPointsBalance, noPoints, Store.get_empty]
  rfl

/-- No step makes a balance of points negative. -/
theorem balance_nonneg_of_step (stepped : poolStep host s action = .ok (output, s'))
    {wallet : Address} (nonneg : 0 ≤ getPointsBalance s wallet) :
    0 ≤ getPointsBalance s' wallet := by
  have cases : getPointsBalance s' wallet = getPointsBalance s wallet ∨
      getPointsBalance s' wallet = 0 ∨ _ := (step_registers stepped).balance_cases wallet
  rcases cases with same | burned | ⟨env, beneficiary, rfl⟩
  · exact same ▸ nonneg
  · exact burned.ge
  · obtain ⟨record, points, -, -, computed, balance, -⟩ :=
      withdraw_banks (returningUnit_eq_ok.mp stepped).1
    rw [balance]
    exact add_nonneg nonneg (computePointsForRecord_nonneg computed)

/-- What a wallet has banked is at most a base and what a schedule earns from a start
to the ledger the wallet is credited until. -/
def BankedWithin (earns : Nat → Int) (base : Int) (start : Nat) (s : State D)
    (wallet : Address) : Prop :=
  start ≤ creditedUntil s.sequence (s.stakes.get wallet) ∧
    getPointsBalance s wallet ≤
      base + earns (creditedUntil s.sequence (s.stakes.get wallet) - start)

variable {earns : Nat → Int} {base : Int} {start : Nat} {wallet : Address}

/-- What a wallet has banked and what its deposit has earned are together at most what
the schedule earns by now. -/
theorem BankedWithin.add_le (within : BankedWithin earns base start s wallet)
    (accrual : Accrual earns) (stored : s.stakes.get wallet = some record)
    (past : record.stakedAtLedger ≤ s.sequence)
    (computed : computePointsForRecord s record = .ok points)
    (most : points ≤ earns (s.sequence - record.stakedAtLedger)) :
    getPointsBalance s wallet + points ≤ base + earns (s.sequence - start) := by
  obtain ⟨started, banked⟩ := within
  rw [stored, creditedUntil] at started banked
  by_cases funded : 0 < record.amount
  · rw [if_pos funded] at started banked
    calc getPointsBalance s wallet + points
        ≤ base + earns (record.stakedAtLedger - start) +
            earns (s.sequence - record.stakedAtLedger) := add_le_add banked most
      _ = base + (earns (record.stakedAtLedger - start) +
            earns (s.sequence - record.stakedAtLedger)) := add_assoc _ _ _
      _ ≤ base + earns (s.sequence - start) := Int.add_le_add_left (accrual.resume started past) _
  · have empty : computePointsForRecord s record = .ok 0 := if_pos (.inl (not_lt.mp funded))
    obtain rfl : 0 = points := Except.ok.inj (empty.symm.trans computed)
    rw [if_neg funded] at banked
    rw [add_zero]
    exact banked

/-- No step banks more for a wallet than its schedule earned in the meantime, as long as
its deposit has earned no more than the schedule does. -/
theorem BankedWithin.step (within : BankedWithin earns base start s wallet)
    (accrual : Accrual earns) (nonneg : 0 ≤ base)
    (dated : Store.All (fun _ record => record.stakedAtLedger ≤ s.sequence) s.stakes)
    (most : ∀ record points, s.stakes.get wallet = some record →
      computePointsForRecord s record = .ok points →
        points ≤ earns (s.sequence - record.stakedAtLedger))
    (stepped : poolStep host s action = .ok (output, s')) :
    BankedWithin earns base start s' wallet := by
  have credited : creditedUntil s.sequence (s.stakes.get wallet) ≤
      creditedUntil s'.sequence (s'.stakes.get wallet) :=
    (step_refines stepped).creditedUntil_le dated wallet
  refine ⟨within.1.trans credited, ?_⟩
  have later : earns (creditedUntil s.sequence (s.stakes.get wallet) - start) ≤
      earns (creditedUntil s'.sequence (s'.stakes.get wallet) - start) :=
    accrual.mono (Nat.sub_le_sub_right credited start)
  have cases : getPointsBalance s' wallet = getPointsBalance s wallet ∨
      getPointsBalance s' wallet = 0 ∨ _ := (step_registers stepped).balance_cases wallet
  rcases cases with same | burned | ⟨env, beneficiary, rfl⟩
  · rw [same]
    exact within.2.trans (Int.add_le_add_left later base)
  · rw [burned]
    exact add_nonneg nonneg (accrual.nonneg _)
  · obtain ⟨record, points, stored, -, computed, balance, current⟩ :=
      withdraw_banks (returningUnit_eq_ok.mp stepped).1
    rw [balance, current]
    exact within.add_le accrual stored (dated _ _ stored) computed (most _ _ stored computed)

/-! ### The law -/

/-- What a wallet banks from one state to another. -/
def banked (wallet : Address) (s s' : State D) : Int :=
  getPointsBalance s' wallet - getPointsBalance s wallet

/-- A withdrawal ends a cycle: under the cap a deposit of the amount leaves the pool a
number of ledgers after it was made. -/
structure EndsCycle (host : Host D) (wallet : Address) (cap amount : Int) (ledgers : Nat)
    (s s' : State D) : Prop where
  cap : s.poolCap = cap
  deposit : ∃ record ∈ s.stakes.get wallet,
    record.amount = amount ∧ s.sequence - record.stakedAtLedger = ledgers
  withdrawn : ∃ env beneficiary, withdraw host env s wallet beneficiary = .ok s'

/-- The steps under a cap, from states in which a wallet has no larger deposit than an
amount. -/
def depositsUpTo (wallet : Address) (cap amount : Int) :
    System.Guard (State D) (Action D) (Output D) :=
  fun _ s _ => s.poolCap = cap ∧ ∀ record ∈ s.stakes.get wallet, record.amount ≤ amount

instance (wallet : Address) (cap amount : Int) (log : Log D) (s : State D) (action : Action D) :
    Decidable (depositsUpTo wallet cap amount log s action) :=
  inferInstanceAs (Decidable (_ ∧ _))

variable {log past : Log D} {s₀ : State D}

/-- A cycle banks what its deposit has earned. -/
theorem EndsCycle.banked_eq (cycle : EndsCycle host wallet cap amount ledgers s s') :
    banked wallet s s' = earnedPoints cap amount ledgers := by
  obtain ⟨record, stored, rfl, rfl⟩ := cycle.deposit
  obtain ⟨env, beneficiary, withdrawn⟩ := cycle.withdrawn
  obtain ⟨found, points, foundStored, standing, computed, balance, -⟩ := withdraw_banks withdrawn
  obtain rfl := Option.mem_unique stored foundStored
  have earned := computePointsForRecord_ok computed
  rw [standing, if_neg Bool.false_ne_true, cycle.cap] at earned
  rw [banked, balance, earned, add_sub_cancel_left]

theorem dated_of_run (run : (poolSystem host).Run System.anyStep log s) :
    Store.All (fun _ record => record.stakedAtLedger ≤ s.sequence) s.stakes := by
  apply run.invariant
    (P := fun _ s => Store.All (fun _ record => record.stakedAtLedger ≤ s.sequence) s.stakes)
  · intro s deployed
    simp only [(deployed_books deployed).1, Store.all_empty]
  · intro log s action output s' _ dated _ stepped
    exact (step_refines stepped).deposits_dated dated

/-- No balance of points is negative. -/
theorem balance_nonneg_of_run (run : (poolSystem host).Run System.anyStep log s)
    (wallet : Address) : 0 ≤ getPointsBalance s wallet := by
  apply run.invariant (P := fun _ s => 0 ≤ getPointsBalance s wallet)
  · intro s deployed
    exact (balance_of_deployed deployed wallet).ge
  · intro log s action output s' _ nonneg _ stepped
    exact balance_nonneg_of_step stepped nonneg

/-- Under one cap a wallet that makes no deposit above an amount banks no more over a
stretch of ledgers than one deposit of that amount earns over the whole of it. -/
theorem banked_le_of_run (before : (poolSystem host).Run System.anyStep past s₀)
    (starts : ∀ record ∈ s₀.stakes.get wallet,
      0 < record.amount → record.stakedAtLedger = s₀.sequence)
    (run : ((poolSystem host).startingAt s₀).Run (depositsUpTo wallet cap amount) log s) :
    banked wallet s₀ s ≤ earnedPoints cap amount (s.sequence - s₀.sequence) := by
  have accrual := earnedPoints_accrual cap amount
  obtain ⟨dated, within⟩ : Store.All (fun _ record => record.stakedAtLedger ≤ s.sequence) s.stakes ∧
      BankedWithin (earnedPoints cap amount) (getPointsBalance s₀ wallet) s₀.sequence s wallet := by
    apply run.invariant (P := fun _ s =>
      Store.All (fun _ record => record.stakedAtLedger ≤ s.sequence) s.stakes ∧
        BankedWithin (earnedPoints cap amount) (getPointsBalance s₀ wallet) s₀.sequence s wallet)
    · rintro _ rfl
      refine ⟨dated_of_run before, ?_⟩
      rw [BankedWithin, creditedUntil_eq starts]
      exact ⟨le_refl _, le_add_of_nonneg_right (accrual.nonneg _)⟩
    · intro log s action output s' _ holds met stepped
      obtain ⟨dated, within⟩ := holds
      refine ⟨(step_refines stepped).deposits_dated dated,
        within.step accrual (balance_nonneg_of_run before wallet) dated ?_ stepped⟩
      intro record points stored computed
      rw [computePointsForRecord_ok computed, met.1]
      split_ifs
      · exact accrual.nonneg _
      · exact earnedPoints_mono (met.2 record stored) (le_refl _)
  have credited := creditedUntil_le_sequence dated wallet
  have earned := accrual.mono (Nat.sub_le_sub_right credited s₀.sequence)
  have most := within.2
  rw [banked]
  omega

/-- The points of a deposit are the rates of its days, added up and taken in proportion
to the largest deposit, wherever they do not trap.  Under one cap a larger deposit of a
longer tenure has earned no less, two cycles bank no more than one as long as both
together, and neither do any number of cycles of a run over the ledgers it takes. -/
theorem points_law (host : Host D) :
    (∀ d : Nat, pointsBase d = ∑ day ∈ Finset.Icc 1 d, dailyRate day) ∧
    (∀ (s : State D) record, computePointsForRecord s record ≠ .error .overflow →
      computePointsForRecord s record = .ok (if record.withdrawn then 0
        else earnedPoints s.poolCap record.amount (s.sequence - record.stakedAtLedger))) ∧
    (∀ {s s' : State D} {record record' points'}, s.poolCap = s'.poolCap →
      record.withdrawn = record'.withdrawn → record.amount ≤ record'.amount →
      s.sequence - record.stakedAtLedger ≤ s'.sequence - record'.stakedAtLedger →
      computePointsForRecord s' record' = .ok points' →
        ∃ points, computePointsForRecord s record = .ok points ∧ points ≤ points') ∧
    (∀ {wallet cap amount m n} {s₁ s₁' s₂ s₂' s s' : State D},
      EndsCycle host wallet cap amount m s₁ s₁' → EndsCycle host wallet cap amount n s₂ s₂' →
      EndsCycle host wallet cap amount (m + n) s s' →
        banked wallet s₁ s₁' + banked wallet s₂ s₂' ≤ banked wallet s s') ∧
    (∀ {past log : Log D} {s₀ s : State D} {wallet cap amount},
      (poolSystem host).Run System.anyStep past s₀ →
      (∀ record ∈ s₀.stakes.get wallet,
        0 < record.amount → record.stakedAtLedger = s₀.sequence) →
      ((poolSystem host).startingAt s₀).Run (depositsUpTo wallet cap amount) log s →
        banked wallet s₀ s ≤ earnedPoints cap amount (s.sequence - s₀.sequence)) := by
  refine ⟨pointsBase_eq_sum, fun _ _ => computePointsForRecord_eq, ?_, ?_, banked_le_of_run⟩
  · intro s s' record record' points' cap standing larger longer computed
    exact computePointsForRecord_mono cap standing larger longer computed
  · intro wallet cap amount m n s₁ s₁' s₂ s₂' s s' first second whole
    rw [first.banked_eq, second.banked_eq, whole.banked_eq]
    exact (earnedPoints_accrual cap amount).add_le m n

/-- Wallet 11 of the concrete deployment can end a cycle of 2000 that banks a number of
points. -/
def SampleCycle (days : Nat) (points : Int) (s : State Nat) : Prop :=
  s.poolCap = 10000000 ∧
    (∃ record ∈ s.stakes.get (party 11),
      record.amount = 2000 ∧ s.sequence - record.stakedAtLedger = days * ledgersPerDay) ∧
    ∃ s', withdraw sampleHost (.of [party 11] ⟨0, 0, 0, 0⟩) s (party 11) (party 21) = .ok s' ∧
      banked (party 11) s s' = points

instance (days : Nat) (points : Int) (s : State Nat) : Decidable (SampleCycle days points s) :=
  inferInstanceAs (Decidable (_ ∧ _ ∧ _))

theorem SampleCycle.ends {days : Nat} {s : State Nat} (cycle : SampleCycle days points s) :
    ∃ s', EndsCycle sampleHost (party 11) 10000000 2000 (days * ledgersPerDay) s s' ∧
      banked (party 11) s s' = points := by
  obtain ⟨capped, deposit, s', withdrawn, banks⟩ := cycle
  exact ⟨s', ⟨capped, deposit, _, _, withdrawn⟩, banks⟩

/-- Two cycles of 46 days bank 73 points each, one of 92 days banks 147, and a run of the
two banks 146. -/
theorem points_law_sample :
    (∃ s₁ s₁' s₂ s₂' s s',
      EndsCycle sampleHost (party 11) 10000000 2000 (46 * ledgersPerDay) s₁ s₁' ∧
      EndsCycle sampleHost (party 11) 10000000 2000 (46 * ledgersPerDay) s₂ s₂' ∧
      EndsCycle sampleHost (party 11) 10000000 2000
        (46 * ledgersPerDay + 46 * ledgersPerDay) s s' ∧
      (banked (party 11) s₁ s₁' = 73 ∧ banked (party 11) s₂ s₂' = 73 ∧
        banked (party 11) s s' = 147) ∧
      banked (party 11) s₁ s₁' + banked (party 11) s₂ s₂' ≤ banked (party 11) s s') ∧
    ∃ log s, ((poolSystem sampleHost).startingAt samplePool).Run
        (depositsUpTo (party 11) 10000000 2000) log s ∧
      banked (party 11) samplePool s = 146 ∧
      banked (party 11) samplePool s ≤
        earnedPoints 10000000 2000 (s.sequence - samplePool.sequence) := by
  obtain ⟨-, -, -, splits, lasts⟩ := points_law sampleHost
  constructor
  · obtain ⟨_, s₁, -, first⟩ := System.exists_run_of_replay (poolSystem sampleHost)
      System.anyStep samplePool_deployed
      [callBy 11 (.stake (party 11) 2000 (party 21)), afterDays 46]
      (fun _ s => SampleCycle 46 73 s) (by decide +kernel)
    obtain ⟨_, s₂, -, second⟩ := System.exists_run_of_replay (poolSystem sampleHost)
      System.anyStep samplePool_deployed
      [callBy 11 (.stake (party 11) 2000 (party 21)), afterDays 46,
        callBy 11 (.withdraw (party 11) (party 21)),
        callBy 11 (.stake (party 11) 2000 (party 21)), afterDays 92]
      (fun _ s => SampleCycle 46 73 s) (by decide +kernel)
    obtain ⟨_, s, -, whole⟩ := System.exists_run_of_replay (poolSystem sampleHost)
      System.anyStep samplePool_deployed
      [callBy 11 (.stake (party 11) 2000 (party 21)), afterDays 92]
      (fun _ s => SampleCycle 92 147 s) (by decide +kernel)
    obtain ⟨s₁', firstEnds, firstBanks⟩ := first.ends
    obtain ⟨s₂', secondEnds, secondBanks⟩ := second.ends
    obtain ⟨s', wholeEnds, wholeBanks⟩ := whole.ends
    exact ⟨s₁, s₁', s₂, s₂', s, s', firstEnds, secondEnds, wholeEnds,
      ⟨firstBanks, secondBanks, wholeBanks⟩, splits firstEnds secondEnds wholeEnds⟩
  · obtain ⟨log, s, run, banks⟩ := System.exists_run_of_replay
      ((poolSystem sampleHost).startingAt samplePool) (depositsUpTo (party 11) 10000000 2000) rfl
      [callBy 11 (.stake (party 11) 2000 (party 21)), afterDays 46,
        callBy 11 (.withdraw (party 11) (party 21)),
        callBy 11 (.stake (party 11) 2000 (party 21)), afterDays 92,
        callBy 11 (.withdraw (party 11) (party 21))]
      (fun _ s => banked (party 11) samplePool s = 146) (by decide +kernel)
    exact ⟨log, s, run, banks, lasts (.start samplePool_deployed) (by rintro _ ⟨⟩) run⟩

end ProtectionPool
