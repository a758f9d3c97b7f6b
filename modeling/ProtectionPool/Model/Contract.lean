/-
Module: ProtectionPool.Model.Contract
Purpose: The deployed contract as a transition system (`lib.rs`): its entry
  points in any order by any callers, interleaved with closing ledgers and with
  token and share movements the contract takes no part in.
Trusted boundary: none
Main exports: Call, Action, Output, dispatch, poolStep, poolSystem, samplePool
-/
import ProtectionPool.Library.Run
import ProtectionPool.Model.Override
import ProtectionPool.Model.Admin
import ProtectionPool.Model.Vault

namespace ProtectionPool

variable {D : Type} [DecidableEq D]

/-- The entry points of the contract that write its storage. -/
inductive Call (D : Type) where
  | setOracle (newOracle : Address)
  | setOraclePubkey (newPubkey : BytesN 32)
  | setOracleIdentity (newOracle : Address) (newPubkey : BytesN 32)
  | setCoSigner (newCoSigner : Address)
  | setPoolCap (newCap : Int)
  | transferAdmin (newAdmin : Address)
  | pause
  | unpause
  | suspendStake (wallet : Address)
  | unsuspendStake (wallet : Address) (claimId : Option D)
  | stake (staker : Address) (amount : Int) (beneficiary : Address)
  | withdraw (staker beneficiary : Address)
  | setBeneficiary (staker newBeneficiary : Address)
  | emergencyExit (staker : Address)
  | submitClaim (caller wallet : Address) (txHash : BytesN 32) (entitlement : Int)
      (tier hackTimestamp deadline : Nat) (signature : BytesN 64)
  | revokeApproval (caller wallet : Address) (txHash : BytesN 32) (entitlement : Int)
      (tier hackTimestamp deadline : Nat)
  | unlockPendingClaim (claimId : D)
  | tryReleaseQueuedClaim (claimId : D)
  | expireQueuedClaim (claimId : D)
  | approveClaim (claimId : D)
  | expirePendingApproval (claimId : D)
  | expireStaleClaim (claimId : D)
  | claimStream (claimId : D) (beneficiary : Address)
  | cancelClaim (claimId : D)
  | approveOverride (caller wallet : Address) (txHash : BytesN 32) (entitlement : Int)
      (tier : Nat)
  | cancelPendingOverride (caller wallet : Address) (txHash : BytesN 32)
  | setVault (vault : Address)
  | setTreasury (treasury : Address)
  | setDeployBps (bps : Int)
  | deployToVault (amount minSharesOut : Int)
  | autoDeployLiquidity
  | provideLiquidity (shares minXlmOut : Int)
  | ensureLiquidity
  | extractYield (shares minXlmOut : Int)
  | withdrawYield (amount : Int)

/-- What an entry point returns. -/
inductive Output (D : Type) where
  | unit
  | amount (value : Int)
  | claimId (id : D)

/-- A call that returns nothing. -/
def returningUnit (result : Outcome (State D)) : Outcome (Output D × State D) := do
  let s ← result
  .ok (.unit, s)

/-- A call that returns a value. -/
def returning {R : Type} (output : R → Output D) (result : Outcome (R × State D)) :
    Outcome (Output D × State D) := do
  let r ← result
  .ok (output r.1, r.2)

/-- The contract's entry points. -/
def dispatch (host : Host D) (env : Env) (s : State D) :
    Call D → Outcome (Output D × State D)
  | .setOracle newOracle => returningUnit (setOracle host env s newOracle)
  | .setOraclePubkey newPubkey => returningUnit (setOraclePubkey host env s newPubkey)
  | .setOracleIdentity newOracle newPubkey =>
      returningUnit (setOracleIdentity host env s newOracle newPubkey)
  | .setCoSigner newCoSigner => returningUnit (setCoSigner host env s newCoSigner)
  | .setPoolCap newCap => returningUnit (setPoolCap host env s newCap)
  | .transferAdmin newAdmin => returningUnit (transferAdmin host env s newAdmin)
  | .pause => returningUnit (setPaused host env s true)
  | .unpause => returningUnit (setPaused host env s false)
  | .suspendStake wallet => returningUnit (suspendStake host env s wallet)
  | .unsuspendStake wallet claimId => returningUnit (unsuspendStake host env s wallet claimId)
  | .stake staker amount beneficiary => returningUnit (stake host env s staker amount beneficiary)
  | .withdraw staker beneficiary => returningUnit (withdraw host env s staker beneficiary)
  | .setBeneficiary staker newBeneficiary =>
      returningUnit (setBeneficiary host env s staker newBeneficiary)
  | .emergencyExit staker => returningUnit (emergencyExit host env s staker)
  | .submitClaim caller wallet txHash entitlement tier hackTimestamp deadline signature =>
      returning .claimId (submitClaim host env s caller wallet txHash entitlement tier hackTimestamp
        deadline signature)
  | .revokeApproval caller wallet txHash entitlement tier hackTimestamp deadline =>
      returningUnit (revokeApproval host env s caller wallet txHash entitlement tier hackTimestamp
        deadline)
  | .unlockPendingClaim claimId => returningUnit (unlockPendingClaim s claimId)
  | .tryReleaseQueuedClaim claimId => returningUnit (tryReleaseQueuedClaim s claimId)
  | .expireQueuedClaim claimId => returningUnit (expireQueuedClaim s claimId)
  | .approveClaim claimId => returningUnit (approveClaim host env s claimId)
  | .expirePendingApproval claimId => returningUnit (expirePendingApproval s claimId)
  | .expireStaleClaim claimId => returningUnit (expireStaleClaim s claimId)
  | .claimStream claimId beneficiary =>
      returning .amount (claimStream host env s claimId beneficiary)
  | .cancelClaim claimId => returningUnit (cancelClaim host env s claimId)
  | .approveOverride caller wallet txHash entitlement tier =>
      returningUnit (approveOverride host env s caller wallet txHash entitlement tier)
  | .cancelPendingOverride caller wallet txHash =>
      returningUnit (cancelPendingOverride host env s caller wallet txHash)
  | .setVault vault => returningUnit (setVault host env s vault)
  | .setTreasury treasury => returningUnit (setTreasury host env s treasury)
  | .setDeployBps bps => returningUnit (setDeployBps host env s bps)
  | .deployToVault amount minSharesOut =>
      returning .amount (deployToVault host env s amount minSharesOut)
  | .autoDeployLiquidity => returning .amount (autoDeployLiquidity host env s)
  | .provideLiquidity shares minXlmOut =>
      returning .amount (provideLiquidity host env s shares minXlmOut)
  | .ensureLiquidity => returning .amount (ensureLiquidity host env s)
  | .extractYield shares minXlmOut => returning .amount (extractYield host env s shares minXlmOut)
  | .withdrawYield amount => returningUnit (withdrawYield host env s amount)

/-- The view `get_points_balance`: the live points of a deposit in the pool, else the
banked balance. -/
def pointsBalanceView (s : State D) (wallet : Address) : Outcome Int :=
  match s.stakes.get wallet with
  | some record =>
      if record.isLive then computePointsForRecord s record else .ok (getPointsBalance s wallet)
  | none => .ok (getPointsBalance s wallet)

/-! ### The system -/

/-- What can happen: an invocation, the close of a ledger, or a movement of
tokens or vault shares outside the contract. -/
inductive Action (D : Type) where
  | invoke (env : Env) (call : Call D)
  | closeLedger (sequence timestamp : Nat)
  | moveXlm (holder : Address) (balance : Int)
  | moveShares (vault : Address) (balance : Int)

/-- The next ledger: neither clock runs backwards or leaves its width. -/
def closeLedger (s : State D) (sequence timestamp : Nat) : Outcome (State D) := do
  trapUnless (s.sequence ≤ sequence ∧ sequence < 2 ^ 32)
  trapUnless (s.timestamp ≤ timestamp ∧ timestamp < 2 ^ 64)
  .ok { s with sequence := sequence, timestamp := timestamp }

/-- A token movement outside the contract: only the pool itself can spend its
balance. -/
def moveXlm (host : Host D) (s : State D) (holder : Address) (balance : Int) :
    Outcome (State D) := do
  trapUnless (0 ≤ balance)
  trapUnless (holder = host.contract → liquidBalance host s ≤ balance)
  .ok { s with xlm := Function.update s.xlm holder balance }

/-- A change of the pool's share balance at a vault. -/
def moveShares (s : State D) (vault : Address) (balance : Int) : Outcome (State D) :=
  .ok { s with vaultShares := Function.update s.vaultShares vault balance }

/-- One step of the deployed contract and its surroundings. -/
def poolStep (host : Host D) (s : State D) : Action D → Outcome (Output D × State D)
  | .invoke env call => dispatch host env s call
  | .closeLedger sequence timestamp => returningUnit (closeLedger s sequence timestamp)
  | .moveXlm holder balance => returningUnit (moveXlm host s holder balance)
  | .moveShares vault balance => returningUnit (moveShares s vault balance)

/-- A state the constructor leaves behind. -/
def Deployed (host : Host D) (s : State D) : Prop :=
  ∃ env sequence timestamp xlm vaultShares admin oracle oraclePubkey coSigner xlmToken poolCap,
    sequence < 2 ^ 32 ∧ timestamp < 2 ^ 64 ∧ (∀ a, 0 ≤ xlm a) ∧
      initializePool host env false sequence timestamp xlm vaultShares admin oracle oraclePubkey
        coSigner xlmToken poolCap = .ok s

/-- The deployed contract: every order of calls by any callers under any
nondecreasing clock. -/
def poolSystem (host : Host D) : System (State D) (Action D) (Output D) Failure where
  initial := Deployed host
  step := poolStep host

omit [DecidableEq D] in
@[simp] theorem returningUnit_eq_ok {result : Outcome (State D)} {r : Output D}
    {s : State D} :
    returningUnit result = .ok (r, s) ↔ result = .ok s ∧ .unit = r := by
  simp [returningUnit, and_comm]

omit [DecidableEq D] in
@[simp] theorem returning_eq_ok {R : Type} {output : R → Output D}
    {result : Outcome (R × State D)} {r : Output D} {s : State D} :
    returning output result = .ok (r, s) ↔
      ∃ value, result = .ok (value, s) ∧ output value = r := by
  simp [returning]

omit [DecidableEq D] in
@[simp] theorem closeLedger_eq_ok {s s' : State D} {sequence timestamp : Nat} :
    closeLedger s sequence timestamp = .ok s' ↔
      (s.sequence ≤ sequence ∧ sequence < 2 ^ 32) ∧ (s.timestamp ≤ timestamp ∧ timestamp < 2 ^ 64) ∧
        { s with sequence := sequence, timestamp := timestamp } = s' := by
  simp [closeLedger]

omit [DecidableEq D] in
@[simp] theorem moveXlm_eq_ok {host : Host D} {s s' : State D} {holder : Address} {balance : Int} :
    moveXlm host s holder balance = .ok s' ↔
      0 ≤ balance ∧ (holder = host.contract → liquidBalance host s ≤ balance) ∧
        { s with xlm := Function.update s.xlm holder balance } = s' := by
  simp [moveXlm]

omit [DecidableEq D] in
@[simp] theorem moveShares_eq_ok {s s' : State D} {vault : Address} {balance : Int} :
    moveShares s vault balance = .ok s' ↔
      { s with vaultShares := Function.update s.vaultShares vault balance } = s' := by
  simp [moveShares]

/-! ### A concrete deployment -/

/-- A host whose hash reads the bytes as digits, so that no two inputs
collide. -/
def sampleHost : Host Nat where
  sha256 bytes := bytes.foldl (fun digits byte => digits * 257 + (byte.toNat + 1)) 0
  ed25519Verify _ _ _ := true
  contract := .contract 0
  networkId := 0

/-- The numbered account of the concrete deployment. -/
def party (n : Nat) : Address := .account (BitVec.ofNat (8 * 32) n)

/-- A pool just deployed: account 1 is the admin, 2 the oracle, 3 the
co-signer. -/
def samplePool : State Nat where
  admin := party 1
  oracle := party 2
  oraclePubkey := some 0
  coSigner := party 3
  xlmToken := .contract 1
  poolCap := 10000000
  totalStaked := 0
  totalAllocated := 0
  totalStakers := 0
  paused := false
  dailyOutflow := 0
  lastOutflowDay := 0
  dailyEntitlementTotal := 0
  lastEntitlementDay := 0
  dailyClaimCount := 0
  vault := none
  treasury := none
  deployBps := 0
  totalDeployedShares := 0
  totalDeployedXlm := 0
  totalExtractedYield := 0
  stakes := Store.empty
  claims := Store.empty
  overrides := Store.empty
  pointsBalances := Store.empty
  revoked := Store.empty
  sequence := 1000
  timestamp := 1000000
  xlm holder := if holder = sampleHost.contract then 0 else 10000000
  vaultShares _ := 0

/-- A call authorized by one account, with a silent vault. -/
def callBy (signer : Nat) (call : Call Nat) : Action Nat :=
  .invoke (.of [party signer] ⟨0, 0, 0, 0⟩) call

/-- The concrete deployment a number of days later. -/
def afterDays (days : Nat) : Action Nat :=
  .closeLedger (1000 + ledgersPerDay * days) (1000000 + secondsPerDay * days)

/-- The two approvals of an override. -/
def overrideBoth (wallet : Nat) (txHash : BytesN 32) (entitlement : Int) (tier : Nat) :
    List (Action Nat) :=
  [callBy 1 (.approveOverride (party 1) (party wallet) txHash entitlement tier),
    callBy 3 (.approveOverride (party 3) (party wallet) txHash entitlement tier)]

/-- Two wallets stake, and an override puts a claim of the first into effect. -/
def sampleOpening (entitlement : Int) : List (Action Nat) :=
  [callBy 11 (.stake (party 11) 2000 (party 21)),
    callBy 12 (.stake (party 12) 100000 (party 22))] ++
  overrideBoth 11 0 entitlement 1

/-- Two wallets stake, a claim of the first is too large for the day and queued,
and a third deposit makes room for it. -/
def sampleQueue : List (Action Nat) :=
  [callBy 11 (.stake (party 11) 2000 (party 21)),
    callBy 12 (.stake (party 12) 100000 (party 22)), afterDays 90,
    callBy 1 (.submitClaim (party 1) (party 11) 0 30000 1 (1000000 + secondsPerDay * 90) 0 0),
    callBy 13 (.stake (party 13) 100000 (party 23))]

/-- A wallet stakes, and half of the deposits may be deployed at a vault. -/
def sampleVault : List (Action Nat) :=
  [callBy 12 (.stake (party 12) 100000 (party 22)),
    callBy 1 (.setVault (.contract 2)), callBy 1 (.setDeployBps 5000)]

theorem samplePool_deployed : Deployed sampleHost samplePool := by
  refine ⟨.of [party 1] ⟨0, 0, 0, 0⟩, 1000, 1000000, samplePool.xlm,
    samplePool.vaultShares, party 1, party 2, 0, party 3, .contract 1, 10000000, ?_, ?_, ?_, ?_⟩
  · decide
  · decide
  · intro holder
    simp only [samplePool]
    split_ifs <;> decide
  · rfl

end ProtectionPool
