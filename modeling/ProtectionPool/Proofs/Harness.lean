/-
Module: ProtectionPool.Proofs.Harness
Purpose: What the verification harness establishes.  Its three properties hold for every
  amount in every state that calls of the stand-in, of the mock token and of the
  properties themselves lead to; but each of them stakes with the staker for its own
  beneficiary, which the pool always refuses, so none of them ever sees an admitted stake.
  The mock token keeps its supply but for what is minted and for what a holder transfers
  to itself.
Trusted boundary: none
Main exports: HarnessHolds, tryStake_self, harness_properties_hold, mock_supply
-/
import ProtectionPool.Books.StakeCalls
import ProtectionPool.Library.Accounts
import ProtectionPool.Model.Harness
import ProtectionPool.Proofs.PayoutCap
import ProtectionPool.Proofs.StakeLedger

namespace ProtectionPool

open Checked

variable {D : Type}

variable {host : Host D} {env : Env} {s s' s'' : State D} {staker beneficiary : Address}
  {amount : Int} {p : Property}

/-! ### Stakes of the harness -/

/-- What the mock token pays changes balances alone. -/
theorem mockPays_eq_ok {payer payee : Address} :
    mockPays s s' payer payee amount = .ok s'' ↔
      ∃ balances, MockToken.transfer s.xlm payer payee amount = .ok balances ∧
        { s' with xlm := balances } = s'' := by
  unfold mockPays
  split <;> simp_all

/-- Nobody can stake with itself for its beneficiary. -/
theorem stake_self_refused : ¬ stake host env s staker amount staker = .ok s' := by
  intro staked
  exact (stake_eq_ok.mp staked).destination.1 rfl

/-- The properties' own stakes are refused. -/
theorem tryStake_self : tryStake host env s amount stakerAddr = (false, s) := by
  unfold tryStake
  split
  · rename_i admitted
    simp only [harnessStake, bind_eq_ok] at admitted
    obtain ⟨_, staked, -⟩ := admitted
    exact absurd staked stake_self_refused
  · rfl

/-- What holds in the harness whatever was called: nothing is allocated, and the total of
the stakes is the sum of the deposits. -/
structure HarnessKept (host : Host D) (s : State D) : Prop where
  unallocated : s.totalAllocated = 0
  balance : (s.books host).StakesBalance 0

theorem HarnessKept.staked_nonneg (kept : HarnessKept host s) : 0 ≤ s.totalStaked := by
  have total := kept.balance.1
  rw [add_zero] at total
  refine le_of_le_of_eq (Store.total_nonneg ?_) total.symm
  intro wallet record _
  rw [StakeRecord.liveAmount]
  split_ifs with live
  · exact (StakeRecord.isLive_iff.mp live).1.le
  · exact le_refl 0

variable [DecidableEq D]

/-- Deposits and withdrawals of the pool keep the harness's books. -/
theorem HarnessKept.of_step {event : BookEvent D} {action : Action D} {output : Output D}
    {wallet : Address} (kept : HarnessKept host s)
    (moves : action.movesStake = some wallet)
    (stepped : poolStep host s action = .ok (output, s'))
    (step : BookStep (computeClaimId host) event (s.books host) (s'.books host))
    (unmarked : event.markdown s.totalStaked = 0) (fair : event.ForfeitsAndRestores (s.books host))
    (balances : Address → Int) : HarnessKept host { s' with xlm := balances } := by
  obtain ⟨-, allocated⟩ := Prod.mk.inj (movesStake_reservations moves stepped)
  refine ⟨allocated.trans kept.unallocated, ?_⟩
  have balance := (step.stake_ledger_iff kept.balance).mpr fair
  rw [zero_add] at balance
  change (s'.books host).StakesBalance (event.markdown s.totalStaked) at balance
  rw [unmarked] at balance
  exact balance

/-- A stake that is admitted adds its amount to the total. -/
theorem HarnessKept.stake (kept : HarnessKept host s)
    (staked : harnessStake host env s staker amount beneficiary = .ok s') :
    HarnessKept host s' ∧ s'.totalStaked = s.totalStaked + amount := by
  simp only [harnessStake, bind_eq_ok, mockPays_eq_ok] at staked
  obtain ⟨after, staked, balances, -, rfl⟩ := staked
  have stepped : poolStep host s (.invoke (mockEnv env) (.stake staker amount beneficiary)) =
      .ok (.unit, after) := returningUnit_eq_ok.mpr ⟨staked, rfl⟩
  refine ⟨kept.of_step rfl stepped (stake_refines staked) rfl trivial balances, ?_⟩
  rw [(stake_eq_ok.mp staked).state]
  rfl

theorem HarnessKept.withdraw (kept : HarnessKept host s)
    (withdrawn : harnessWithdraw host env s staker beneficiary = .ok s') :
    HarnessKept host s' := by
  simp only [harnessWithdraw, bind_eq_ok, mockPays_eq_ok] at withdrawn
  obtain ⟨after, withdrawn, _, -, balances, -, rfl⟩ := withdrawn
  have stepped : poolStep host s (.invoke (mockEnv env) (.withdraw staker beneficiary)) =
      .ok (.unit, after) := returningUnit_eq_ok.mpr ⟨withdrawn, rfl⟩
  exact kept.of_step rfl stepped (withdraw_refines withdrawn) rfl trivial balances

/-- What a try to stake leaves. -/
theorem HarnessKept.tryStake (kept : HarnessKept host s) :
    HarnessKept host (tryStake host env s amount beneficiary).2 := by
  unfold ProtectionPool.tryStake
  split
  · rename_i admitted
    exact (kept.stake admitted).1
  · exact kept

/-- Every property holds, whomever it stakes for. -/
theorem HarnessKept.checkFor (kept : HarnessKept host s) :
    (p.checkFor host env s amount beneficiary).1 = true := by
  have after : HarnessKept host (ProtectionPool.tryStake host env s amount beneficiary).2 :=
    kept.tryStake
  cases p with
  | solvencyInvariant =>
      simp only [Property.checkFor]
      split
      · rfl
      · rw [decide_eq_true_eq, after.unallocated]
        exact after.staked_nonneg
  | stakeAccountingIsExact =>
      simp only [Property.checkFor, ProtectionPool.tryStake]
      split
      · rfl
      · split
        · rename_i tried
          split at tried
          · cases tried
          · obtain ⟨-, rfl⟩ := Prod.mk.inj tried
            exact decide_eq_true rfl
        · rename_i tried
          split at tried
          · rename_i admitted
            obtain ⟨-, rfl⟩ := Prod.mk.inj tried
            exact decide_eq_true (kept.stake admitted).2
          · cases tried
  | totalsNeverNegative =>
      simp only [Property.checkFor]
      rw [decide_eq_true_eq]
      split
      · exact ⟨after.staked_nonneg, after.unallocated.ge⟩
      · exact ⟨kept.staked_nonneg, kept.unallocated.ge⟩

omit [DecidableEq D] in
/-- A property leaves the state as it was. -/
theorem check_untouched : (p.check host env s amount).2 = s := by
  cases p <;> simp only [Property.check, Property.checkFor, tryStake_self] <;> split <;> rfl

/-! ### Runs of the harness -/

/-- What the harness establishes in a state: its properties hold for every amount, whomever
they stake for and whoever signs; as they are called they leave no trace, since their
stakes are refused; the totals are what they should be, and the stand-in is not
initialized again. -/
structure HarnessHolds (host : Host D) (h : HarnessState D) : Prop where
  holds : ∀ env (p : Property) amount beneficiary,
    (p.checkFor host env h.pool amount beneficiary).1 = true
  traceless : ∀ env (p : Property) amount,
    tryStake host env h.pool amount stakerAddr = (false, h.pool) ∧
      harnessStep host h (.property env p amount) = .ok (some true, h)
  totals : h.pool.totalAllocated = 0 ∧
    h.pool.totalStaked = Store.total StakeRecord.liveAmount h.pool.stakes ∧
    h.pool.totalStakers = Store.count StakeRecord.isLive h.pool.stakes
  final : ∀ env admin oracle oraclePubkey coSigner xlmToken poolCap,
    harnessStep host h (.kometInit env admin oracle oraclePubkey coSigner xlmToken poolCap) =
      .error (.error .alreadyInitialized)

variable {h h' : HarnessState D}

omit [DecidableEq D] in
/-- Where an admin is stored `komet_init` is refused. -/
theorem kometInit_refused {admin oracle coSigner xlmToken : Address} {oraclePubkey : BytesN 32}
    {poolCap : Int} (stored : h.adminStored = true) :
    kometInit host env h admin oracle oraclePubkey coSigner xlmToken poolCap =
      .error (.error .alreadyInitialized) := by
  rw [kometInit, initializePool, stored]
  rfl

omit [DecidableEq D] in
theorem kometInit_eq_ok {admin oracle coSigner xlmToken : Address} {oraclePubkey : BytesN 32}
    {poolCap : Int}
    (built : kometInit host env h admin oracle oraclePubkey coSigner xlmToken poolCap = .ok h') :
    h'.adminStored = true ∧ HarnessKept host h'.pool := by
  simp [kometInit, initializePool] at built
  obtain ⟨-, -, -, -, -, rfl⟩ := built
  exact ⟨rfl, rfl, by simp [Books.StakesBalance, State.books, Store.total_empty, Store.count]⟩

/-- Every step of the harness keeps its books, and the admin it stores. -/
theorem HarnessKept.step {action : HarnessAction D} {verdict : Option Bool}
    (kept : HarnessKept host h.pool) (stored : h.adminStored = true)
    (stepped : harnessStep host h action = .ok (verdict, h')) :
    HarnessKept host h'.pool ∧ h'.adminStored = true := by
  cases action with
  | kometInit =>
      rw [harnessStep, kometInit_refused stored] at stepped
      cases stepped
  | stake =>
      simp only [harnessStep, bind_eq_ok, Except.ok.injEq, Prod.mk.injEq] at stepped
      obtain ⟨_, staked, -, rfl⟩ := stepped
      exact ⟨(kept.stake staked).1, stored⟩
  | withdraw =>
      simp only [harnessStep, bind_eq_ok, Except.ok.injEq, Prod.mk.injEq] at stepped
      obtain ⟨_, withdrawn, -, rfl⟩ := stepped
      exact ⟨kept.withdraw withdrawn, stored⟩
  | token =>
      simp only [harnessStep, bind_eq_ok, withToken, Except.ok.injEq, Prod.mk.injEq] at stepped
      obtain ⟨_, called, -, rfl⟩ := stepped
      split at called
      · obtain rfl := Except.ok.inj called
        exact ⟨⟨kept.unallocated, kept.balance⟩, stored⟩
      · cases called
  | setLedger =>
      simp only [harnessStep, bind_eq_ok, Except.ok.injEq, Prod.mk.injEq] at stepped
      obtain ⟨_, -, -, rfl⟩ := stepped
      exact ⟨⟨kept.unallocated, kept.balance⟩, stored⟩
  | property env p amount =>
      simp only [harnessStep, Except.ok.injEq, Prod.mk.injEq] at stepped
      obtain ⟨-, rfl⟩ := stepped
      rw [check_untouched]
      exact ⟨kept, stored⟩

/-- In every run of the harness, whatever is called in whatever order, the three properties
hold for all amounts, and none of their stakes is ever admitted. -/
theorem harness_properties_hold (host : Host D)
    {log : List (Entry (HarnessState D) (HarnessAction D) (Option Bool))} {h : HarnessState D}
    (run : (harnessSystem host).Run System.anyStep log h) : HarnessHolds host h := by
  have invariant : HarnessKept host h.pool ∧ h.adminStored = true := by
    refine run.invariant (P := fun _ h => HarnessKept host h.pool ∧ h.adminStored = true) ?_ ?_
    · rintro h ⟨created, env, token, -, -, -, built⟩
      exact (kometInit_eq_ok built).symm
    · exact fun _ _ _ _ _ _ before _ stepped => before.1.step before.2 stepped
  obtain ⟨kept, stored⟩ := invariant
  constructor
  · exact fun env p amount beneficiary => kept.checkFor
  · intro env p amount
    refine ⟨tryStake_self, ?_⟩
    have verdict : (p.check host env h.pool amount).1 = true := kept.checkFor
    simp only [harnessStep, verdict, check_untouched]
  · have balance := kept.balance
    rw [Books.StakesBalance, add_zero] at balance
    exact ⟨kept.unallocated, balance⟩
  · intro env admin oracle oraclePubkey coSigner xlmToken poolCap
    rw [harnessStep, kometInit_refused stored]
    rfl

/-- The stand-in of the concrete deployment, before and after its initialization. -/
def sampleHarness (adminStored : Bool) : HarnessState Nat where
  adminStored := adminStored
  pool :=
    { samplePool with
      admin := adminAddr
      oracle := oracleAddr
      oraclePubkey := some oracleKey
      coSigner := coSignerAddr
      poolCap := harnessPoolCap
      xlm := Function.update (fun _ => 0) stakerAddr stakerFunding }

theorem sampleHarness_ready : HarnessReady sampleHost (sampleHarness true) :=
  ⟨sampleHarness false, .of [adminAddr] ⟨0, 0, 0, 0⟩, .contract 1, rfl, rfl, rfl, rfl⟩

/-- Another staker than the one of the properties has a deposit. -/
theorem harness_properties_hold_sample :
    ∃ log h, (harnessSystem sampleHost).Run System.anyStep log h ∧
      h.pool.totalStaked = 60000000000 ∧ HarnessHolds sampleHost h := by
  obtain ⟨log, h, run, staked⟩ := System.exists_run_of_replay (harnessSystem sampleHost)
    System.anyStep sampleHarness_ready
    [.token (.mint (party 11) 90000000000),
      .property (.of [stakerAddr] ⟨0, 0, 0, 0⟩) .solvencyInvariant 60000000000,
      .stake (.of [party 11] ⟨0, 0, 0, 0⟩) (party 11) 60000000000 (party 21)]
    (fun _ h => h.pool.totalStaked = 60000000000) (by decide +kernel)
  exact ⟨log, h, run, staked, harness_properties_hold sampleHost run⟩

/-! ### The mock token -/

/-- The holders a call of the mock token names. -/
def TokenCall.parties : TokenCall → List Address
  | .mint payee _ => [payee]
  | .transfer payer payee _ => [payer, payee]

/-- What a call of the mock token adds to the supply: what it mints, and what a holder
transfers to itself. -/
def TokenCall.issued : TokenCall → Int
  | .mint _ amount => max amount 0
  | .transfer payer payee amount => if payer = payee then amount else 0

/-- What a history of calls of the mock token leaves. -/
structure MockLedger (log : List (Entry (Address → Int) TokenCall Unit))
    (balances : Address → Int) : Prop where
  nonneg : ∀ holder, 0 ≤ balances holder
  strangers : ∀ holder, (∀ e ∈ log, holder ∉ e.action.parties) → balances holder = 0
  supply : ∀ holders : Finset Address, (∀ e ∈ log, ∀ party ∈ e.action.parties, party ∈ holders) →
    ∑ holder ∈ holders, balances holder = (log.map fun e => e.action.issued).sum

variable {balances balances' : Address → Int} {payer payee : Address}

theorem mint_eq_ok : MockToken.mint balances payee amount = .ok balances' ↔
    (amount ≤ 0 ∧ balances = balances') ∨ (0 < amount ∧ InI128 (balances payee + amount) ∧
      Function.update balances payee (balances payee + amount) = balances') := by
  unfold MockToken.mint
  split
  · rename_i nothing
    simp [nothing, not_lt.mpr nothing]
  · rename_i positive
    simp [positive, not_le.mp positive]

theorem mockTransfer_eq_ok : MockToken.transfer balances payer payee amount = .ok balances' ↔
    (0 ≤ amount ∧ amount ≤ balances payer) ∧ InI128 (balances payer - amount) ∧
      InI128 (balances payee + amount) ∧
      Function.update (Function.update balances payer (balances payer - amount)) payee
        (balances payee + amount) = balances' := by
  unfold MockToken.transfer
  split
  · rename_i negative
    simp [not_le.mpr negative]
  · rename_i nonneg
    split
    · rename_i short
      simp [not_le.mpr short]
    · rename_i covered
      simp [not_lt.mp nonneg, not_lt.mp covered]

/-- A call of the mock token raises or lowers the balances of its parties alone, and the sum
of the balances by what it issues. -/
structure TokenStep (call : TokenCall) (balances balances' : Address → Int) : Prop where
  nonneg : (∀ holder, 0 ≤ balances holder) → ∀ holder, 0 ≤ balances' holder
  others : ∀ holder, holder ∉ call.parties → balances' holder = balances holder
  supply : ∀ holders : Finset Address, (∀ party ∈ call.parties, party ∈ holders) →
    ∑ holder ∈ holders, balances' holder = ∑ holder ∈ holders, balances holder + call.issued

theorem mint_step (minted : MockToken.mint balances payee amount = .ok balances') :
    TokenStep (.mint payee amount) balances balances' := by
  rcases mint_eq_ok.mp minted with ⟨nothing, rfl⟩ | ⟨positive, -, rfl⟩
  · refine ⟨fun nonneg => nonneg, fun _ _ => rfl, fun holders _ => ?_⟩
    rw [TokenCall.issued, max_eq_right nothing, add_zero]
  · constructor
    · intro nonneg holder
      rw [Function.update_apply]
      split_ifs
      · exact add_nonneg (nonneg payee) positive.le
      · exact nonneg holder
    · intro holder stranger
      exact Function.update_of_ne (by simpa [TokenCall.parties] using stranger) _ _
    · intro holders all
      rw [Accounts.sum_update_add (all payee (by simp [TokenCall.parties])), TokenCall.issued,
        max_eq_left positive.le]

/-- Between two holders the mock token moves an amount as the pool's token does. -/
theorem mockTransfer_settles (distinct : payer ≠ payee)
    (sent : MockToken.transfer balances payer payee amount = .ok balances') :
    balances' = Accounts.Transfer.settle ⟨payer, payee, amount⟩ balances ∧
      balances' = moved balances payer payee amount := by
  obtain ⟨-, -, -, rfl⟩ := mockTransfer_eq_ok.mp sent
  simp only [Accounts.Transfer.settle, moved, Function.update_of_ne distinct.symm, and_self]

theorem transfer_step (sent : MockToken.transfer balances payer payee amount = .ok balances') :
    TokenStep (.transfer payer payee amount) balances balances' := by
  obtain ⟨⟨positive, covered⟩, -, -, written⟩ := mockTransfer_eq_ok.mp sent
  constructor
  · intro nonneg holder
    rw [← written, Function.update_apply, Function.update_apply]
    have received := nonneg payee
    have kept := nonneg holder
    split_ifs <;> omega
  · intro holder stranger
    simp only [TokenCall.parties, List.mem_cons, List.not_mem_nil, or_false, not_or] at stranger
    rw [← written, Function.update_of_ne stranger.2, Function.update_of_ne stranger.1]
  · intro holders all
    have pays : payer ∈ holders := all payer (by simp [TokenCall.parties])
    have receives : payee ∈ holders := all payee (by simp [TokenCall.parties])
    by_cases own : payer = payee
    · subst own
      rw [← written, Function.update_idem, Accounts.sum_update_add pays, TokenCall.issued,
        if_pos rfl]
    · rw [(mockTransfer_settles own sent).1, TokenCall.issued, if_neg own, add_zero]
      exact Accounts.Transfer.sum_settle _ pays receives balances

theorem tokenSystem_step {call : TokenCall} {result : Unit}
    (stepped : tokenSystem.step balances call = .ok (result, balances')) :
    TokenStep call balances balances' := by
  simp only [tokenSystem, bind_eq_ok, Except.ok.injEq, Prod.mk.injEq] at stepped
  obtain ⟨_, called, -, rfl⟩ := stepped
  cases call with
  | mint => exact mint_step called
  | transfer => exact transfer_step called

/-- In every history of the mock token no balance is negative, whoever was not named has
nothing, and the supply is what was minted and what holders transferred to themselves. -/
theorem mock_supply {log : List (Entry (Address → Int) TokenCall Unit)}
    {balances : Address → Int} (run : tokenSystem.Run System.anyStep log balances) :
    MockLedger log balances := by
  refine run.invariant (P := MockLedger) ?_ ?_
  · rintro _ rfl
    exact ⟨fun _ => le_refl 0, fun _ _ => rfl, fun _ _ => Finset.sum_const_zero⟩
  · intro log balances call result balances' _ ledger _ stepped
    have step := tokenSystem_step stepped
    constructor
    · exact step.nonneg ledger.nonneg
    · intro holder stranger
      rw [step.others holder (stranger _ List.mem_cons_self)]
      exact ledger.strangers holder fun e member => stranger e (List.mem_cons_of_mem _ member)
    · intro holders all
      rw [step.supply holders (all _ List.mem_cons_self),
        ledger.supply holders fun e member => all e (List.mem_cons_of_mem _ member),
        List.map_cons, List.sum_cons, add_comm]

/-- A holder of 5 transfers them to itself and has 10. -/
theorem mock_supply_sample :
    ∃ log balances, tokenSystem.Run System.anyStep log balances ∧
      balances (party 11) = 10 ∧ MockLedger log balances := by
  obtain ⟨log, balances, run, doubled⟩ := System.exists_run_of_replay tokenSystem
    System.anyStep rfl [.mint (party 11) 5, .transfer (party 11) (party 11) 5]
    (fun _ balances => balances (party 11) = 10) (by decide +kernel)
  exact ⟨log, balances, run, doubled, mock_supply run⟩

end ProtectionPool
