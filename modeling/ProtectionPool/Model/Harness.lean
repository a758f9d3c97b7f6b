/-
Module: ProtectionPool.Model.Harness
Purpose: The verification harness of the pool: the mock token, the stand-in contract that
  shares the pool's modules, and the test contract with its three properties.  The stand-in
  is the pool with `komet_init` for a constructor, and its token is the mock.
Trusted boundary: human-reviewed spec
Main exports: MockToken.transfer, harnessStake, harnessWithdraw, tryStake, Property.check,
  HarnessState, kometInit, harnessStep, HarnessReady, harnessSystem
-/
import ProtectionPool.Library.Run
import ProtectionPool.Model.Admin

namespace ProtectionPool

variable {D : Type} [DecidableEq D]

/-! ### The mock token (`komet-mock-token`) -/

/-- `TokenError` -/
inductive TokenError where
  | insufficientBalance
  | negativeAmount
deriving DecidableEq, Repr

/-- The number of a `TokenError`. -/
def TokenError.code : TokenError → Nat
  | .insufficientBalance => 1
  | .negativeAmount => 2

/-- Why a call of the mock token fails. -/
inductive TokenFailure where
  | error (e : TokenError)
  | overflow
deriving DecidableEq, Repr

/-- How a failure of the mock token ends the call that made it. -/
def TokenFailure.failure : TokenFailure → Failure
  | .error e => .external e.code
  | .overflow => .trap

namespace MockToken

/-- `mint` -/
def mint (balances : Address → Int) (payee : Address) (amount : Int) :
    Except TokenFailure (Address → Int) :=
  if amount ≤ 0 then .ok balances
  else do
    let total ← Checked.i128 .overflow (balances payee + amount)
    .ok (Function.update balances payee total)

/-- `balance` -/
def balance (balances : Address → Int) (holder : Address) : Int := balances holder

/-- `transfer`: both balances are read before either is written. -/
def transfer (balances : Address → Int) (payer payee : Address) (amount : Int) :
    Except TokenFailure (Address → Int) :=
  if amount < 0 then .error (.error .negativeAmount)
  else if balances payer < amount then .error (.error .insufficientBalance)
  else do
    let rest ← Checked.i128 .overflow (balances payer - amount)
    let total ← Checked.i128 .overflow (balances payee + amount)
    .ok (Function.update (Function.update balances payer rest) payee total)

end MockToken

/-- The calls of the mock token that change balances. -/
inductive TokenCall where
  | mint (payee : Address) (amount : Int)
  | transfer (payer payee : Address) (amount : Int)
deriving DecidableEq, Repr

/-- The balances a call leaves. -/
def TokenCall.invoke (balances : Address → Int) :
    TokenCall → Except TokenFailure (Address → Int)
  | .mint payee amount => MockToken.mint balances payee amount
  | .transfer payer payee amount => MockToken.transfer balances payer payee amount

/-- The mock token by itself, from empty balances. -/
def tokenSystem : System (Address → Int) TokenCall Unit TokenFailure where
  initial := fun balances => balances = fun _ => 0
  step := fun balances call => do
    let balances' ← call.invoke balances
    .ok ((), balances')

/-! ### The stand-in contract (`komet-harness`) -/

/-- The mock token as the pool finds it: it pays everyone and refuses what the payer does
not have. -/
def mockEnv (env : Env) : Env :=
  { env with tokenAccepts := true, refusal := some TokenError.insufficientBalance.code }

/-- The pool's transfer made by the mock token; its failure is the pool's. -/
def mockPays (s s' : State D) (payer payee : Address) (amount : Int) : Outcome (State D) :=
  match MockToken.transfer s.xlm payer payee amount with
  | .ok balances => .ok { s' with xlm := balances }
  | .error fault => .error fault.failure

/-- `stake` of the stand-in. -/
def harnessStake (host : Host D) (env : Env) (s : State D) (staker : Address) (amount : Int)
    (beneficiary : Address) : Outcome (State D) := do
  let s' ← stake host (mockEnv env) s staker amount beneficiary
  mockPays s s' staker host.contract amount

/-- `withdraw` of the stand-in. -/
def harnessWithdraw (host : Host D) (env : Env) (s : State D) (staker beneficiary : Address) :
    Outcome (State D) := do
  let s' ← withdraw host (mockEnv env) s staker beneficiary
  let record ← okOr (s.stakes.get staker) .noStake
  mockPays s s' host.contract beneficiary record.amount

/-! ### The test contract (`test-protection-pool`) -/

/-- The address of 32 bytes given as text. -/
def namedAddress (name : String) : Address :=
  .account (BitVec.ofNat (8 * 32) (name.toList.foldl (fun key c => key * 256 + c.toNat) 0))

/-- `STAKER_ADDR` -/
def stakerAddr : Address := namedAddress "staker_one______________________"

/-- `ADMIN_ADDR` -/
def adminAddr : Address := namedAddress "admin___________________________"

/-- `ORACLE_ADDR` -/
def oracleAddr : Address := namedAddress "oracle__________________________"

/-- `COSIGNER_ADDR` -/
def coSignerAddr : Address := namedAddress "co_signer_______________________"

/-- The oracle key `init` passes: thirty-two bytes of 7. -/
def oracleKey : BytesN 32 := BitVec.ofNat (8 * 32) ((List.replicate 32 7).foldl (· * 256 + ·) 0)

/-- `POOL_CAP` -/
def harnessPoolCap : Int := 6000000000000

/-- `STAKER_FUNDING` -/
def stakerFunding : Int := 100000000000000

/-- `client.try_stake(&staker, &amount, &beneficiary)`: whether it was admitted, and the state
it leaves. -/
def tryStake (host : Host D) (env : Env) (s : State D) (amount : Int) (beneficiary : Address) :
    Bool × State D :=
  match harnessStake host env s stakerAddr amount beneficiary with
  | .ok s' => (true, s')
  | .error _ => (false, s)

/-- The properties of the test contract. -/
inductive Property where
  | solvencyInvariant
  | stakeAccountingIsExact
  | totalsNeverNegative
deriving DecidableEq, Repr

/-- `test_solvency_invariant`, `test_stake_accounting_is_exact` and
`test_totals_never_negative`, with the beneficiary they stake for as an argument. -/
def Property.checkFor (host : Host D) (env : Env) (s : State D) (amount : Int)
    (beneficiary : Address) : Property → Bool × State D
  | .solvencyInvariant =>
      if amount ≤ 0 then (true, s)
      else
        let s' := (tryStake host env s amount beneficiary).2
        (decide (s'.totalAllocated ≤ s'.totalStaked), s')
  | .stakeAccountingIsExact =>
      if amount ≤ 0 then (true, s)
      else
        match tryStake host env s amount beneficiary with
        | (false, s') => (decide (s'.totalStaked = s.totalStaked), s')
        | (true, s') => (decide (s'.totalStaked = s.totalStaked + amount), s')
  | .totalsNeverNegative =>
      let s' := if 0 < amount then (tryStake host env s amount beneficiary).2 else s
      (decide (0 ≤ s'.totalStaked ∧ 0 ≤ s'.totalAllocated), s')

/-- A property as the test contract calls it: the staker stakes for itself. -/
def Property.check (host : Host D) (env : Env) (s : State D) (amount : Int) (p : Property) :
    Bool × State D :=
  p.checkFor host env s amount stakerAddr

/-! ### The harness as a system -/

/-- What can happen in the harness: anybody calls the stand-in or the mock token, the ledger
is set, or a property is checked. -/
inductive HarnessAction (D : Type) where
  | kometInit (env : Env) (admin oracle : Address) (oraclePubkey : BytesN 32)
      (coSigner xlmToken : Address) (poolCap : Int)
  | stake (env : Env) (staker : Address) (amount : Int) (beneficiary : Address)
  | withdraw (env : Env) (staker beneficiary : Address)
  | token (call : TokenCall)
  | setLedger (sequence timestamp : Nat)
  | property (env : Env) (p : Property) (amount : Int)

/-- The balances a call of the mock token leaves. -/
def withToken (s : State D) (called : Except TokenFailure (Address → Int)) : Outcome (State D) :=
  match called with
  | .ok balances => .ok { s with xlm := balances }
  | .error fault => .error fault.failure

/-- The stand-in between calls: whether an admin is stored, which `initialize` asks first, and
the rest of its state. -/
structure HarnessState (D : Type) where
  adminStored : Bool
  pool : State D

/-- `komet_init` of the stand-in: `initialize`, which stores the admin. -/
def kometInit (host : Host D) (env : Env) (h : HarnessState D) (admin oracle : Address)
    (oraclePubkey : BytesN 32) (coSigner xlmToken : Address) (poolCap : Int) :
    Outcome (HarnessState D) := do
  let s' ← initializePool host env h.adminStored h.pool.sequence h.pool.timestamp h.pool.xlm
    h.pool.vaultShares admin oracle oraclePubkey coSigner xlmToken poolCap
  .ok { adminStored := true, pool := s' }

/-- One step of the harness, with the verdict if it is a property. -/
def harnessStep (host : Host D) (h : HarnessState D) :
    HarnessAction D → Outcome (Option Bool × HarnessState D)
  | .kometInit env admin oracle oraclePubkey coSigner xlmToken poolCap => do
      let h' ← kometInit host env h admin oracle oraclePubkey coSigner xlmToken poolCap
      .ok (none, h')
  | .stake env staker amount beneficiary => do
      let s' ← harnessStake host env h.pool staker amount beneficiary
      .ok (none, { h with pool := s' })
  | .withdraw env staker beneficiary => do
      let s' ← harnessWithdraw host env h.pool staker beneficiary
      .ok (none, { h with pool := s' })
  | .token call => do
      let s' ← withToken h.pool (call.invoke h.pool.xlm)
      .ok (none, { h with pool := s' })
  | .setLedger sequence timestamp => do
      trapUnless (sequence < 2 ^ 32 ∧ timestamp < 2 ^ 64)
      .ok (none, { h with pool := { h.pool with sequence := sequence, timestamp := timestamp } })
  | .property env p amount =>
      let checked := p.check host env h.pool amount
      .ok (some checked.1, { h with pool := checked.2 })

/-- `init`: the staker is funded by the mock token, and the stand-in, which stores no admin
yet, is initialized. -/
def HarnessReady (host : Host D) (h : HarnessState D) : Prop :=
  ∃ (created : HarnessState D) (env : Env) (token : Address),
    created.adminStored = false ∧ (created.pool.vaultShares = fun _ => 0) ∧
    MockToken.mint (fun _ => 0) stakerAddr stakerFunding = .ok created.pool.xlm ∧
    kometInit host env created adminAddr oracleAddr oracleKey coSignerAddr token harnessPoolCap =
      .ok h

/-- The harness: every order of calls and property checks. -/
def harnessSystem (host : Host D) :
    System (HarnessState D) (HarnessAction D) (Option Bool) Failure where
  initial := HarnessReady host
  step := harnessStep host

end ProtectionPool
