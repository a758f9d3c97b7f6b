/-
Module: ProtectionPool.Model.Storage
Purpose: The state the contract reads and writes: its own storage
  (`storage.rs`), the ledger clock, the XLM balances and the pool's share
  balance at each vault, with the host functions and the external calls that
  act on them.
Trusted boundary: the host's hash, signature check and address are parameters, and
  so are the answers of the token and the vault
Main exports: Host, Env, State, requireAuth, refuseUnless, transfer, vaultDeposit,
  vaultWithdraw
-/
import Mathlib.Logic.Function.Basic
import ProtectionPool.Library.Store
import ProtectionPool.Model.Error
import ProtectionPool.Model.Types

namespace ProtectionPool

open Checked

/-- What the host supplies: SHA-256, the Ed25519 check, the contract's own
address and the network it runs on. -/
structure Host (Digest : Type) where
  sha256 : List UInt8 → Digest
  ed25519Verify : BytesN 32 → List UInt8 → BytesN 64 → Bool
  contract : Address
  networkId : BytesN 32

/-- How the external vault answers the one call an invocation makes to it: a
deposit pulls XLM from the pool and mints shares, a withdrawal pays XLM and
burns shares. -/
structure VaultReply where
  pulled : Int
  minted : Int
  paid : Int
  burned : Int
deriving Repr

/-- The environment of one invocation: the addresses that authorized it, the
vault's answer, whether the token accepts the one transfer it makes, and the
number of the typed error with which a token or vault that refuses ends it, if
that error is typed.  A token refuses more than the balances tell: a payee without
an account, a reserve, a frozen balance. -/
structure Env where
  signers : List Address
  vault : VaultReply
  tokenAccepts : Bool
  refusal : Option Nat

/-- An invocation whose transfer the token accepts. -/
def Env.of (signers : List Address) (vault : VaultReply) : Env where
  signers := signers
  vault := vault
  tokenAccepts := true
  refusal := none

/-- Instance storage with its defaults, the persistent and temporary entries
(a revocation with the last ledger it lives to), the ledger clock, the XLM
balances and the pool's share balance at each vault address. -/
structure State (Digest : Type) where
  admin : Address
  oracle : Address
  oraclePubkey : Option (BytesN 32)
  coSigner : Address
  xlmToken : Address
  poolCap : Int
  totalStaked : Int
  totalAllocated : Int
  totalStakers : Nat
  paused : Bool
  dailyOutflow : Int
  lastOutflowDay : Nat
  dailyEntitlementTotal : Int
  lastEntitlementDay : Nat
  dailyClaimCount : Nat
  vault : Option Address
  treasury : Option Address
  deployBps : Int
  totalDeployedShares : Int
  totalDeployedXlm : Int
  totalExtractedYield : Int
  stakes : Store Address (StakeRecord Digest)
  claims : Store Digest Claim
  overrides : Store Digest OverrideRequest
  pointsBalances : Store Address Int
  revoked : Store Digest Nat
  sequence : Nat
  timestamp : Nat
  xlm : Address → Int
  vaultShares : Address → Int

variable {D : Type}

/-! ### Storage helpers -/

/-- `require_not_paused` -/
def requireNotPaused (s : State D) : Outcome Unit :=
  rejectIf s.paused .paused

/-- `get_daily_outflow`: the counter of another day reads as zero. -/
def getDailyOutflow (s : State D) (currentDay : Nat) : Int :=
  if s.lastOutflowDay ≠ currentDay then 0 else s.dailyOutflow

/-- `get_daily_entitlement`: both counters of another day read as zero. -/
def getDailyEntitlement (s : State D) (currentDay : Nat) : Int × Nat :=
  if s.lastEntitlementDay ≠ currentDay then (0, 0)
  else (s.dailyEntitlementTotal, s.dailyClaimCount)

/-- `get_points_balance` (`storage.rs`) -/
def getPointsBalance [DecidableEq D] (s : State D) (wallet : Address) : Int :=
  (s.pointsBalances.get wallet).getD 0

/-- `is_approval_revoked`: a temporary entry past its last ledger is gone. -/
def isApprovalRevoked [DecidableEq D] (s : State D) (approvalHash : D) : Bool :=
  match s.revoked.get approvalHash with
  | some liveUntil => decide (s.sequence ≤ liveUntil)
  | none => false

/-- `set_approval_revoked`: the entry lives for another
`REVOCATION_TTL_LEDGERS`. -/
def setApprovalRevoked [DecidableEq D] (s : State D) (approvalHash : D) : State D :=
  { s with revoked := s.revoked.set approvalHash (s.sequence + revocationTtlLedgers) }

/-! ### Host and external calls -/

/-- `address.require_auth()`.  The pool is never its own invoker and has no
account logic, so its own address cannot authorize. -/
def requireAuth (host : Host D) (env : Env) (a : Address) : Outcome Unit :=
  trapUnless (a ∈ env.signers ∧ a ≠ host.contract)

/-- The `sha256` of an address in XDR form. -/
def addressHash (host : Host D) (a : Address) : D :=
  host.sha256 (ScVal.toXdr (.address a))

/-- `liquid_balance` -/
def liquidBalance (host : Host D) (s : State D) : Int := s.xlm host.contract

/-- How a refusal of the token or the vault ends an invocation: none of the calls is a
`try_` call, so a typed error of theirs is the invocation's own. -/
def Env.refused (env : Env) : Failure :=
  match env.refusal with
  | some code => .external code
  | none => .trap

/-- A condition without which the token or the vault refuses. -/
def refuseUnless (env : Env) (condition : Prop) [Decidable condition] : Outcome Unit :=
  if condition then .ok () else .error env.refused

/-- `token.transfer(..)`: the token refuses what the payer does not have, and what it
does not accept.  A transfer it makes moves the exact amount. -/
def transfer (env : Env) (s : State D) (payer payee : Address) (amount : Int) :
    Outcome (State D) := do
  refuseUnless env ((0 ≤ amount ∧ amount ≤ s.xlm payer) ∧ env.tokenAccepts = true)
  let debited := Function.update s.xlm payer (s.xlm payer - amount)
  .ok { s with xlm := Function.update debited payee (debited payee + amount) }

/-- `vault.deposit(..)`: the vault pulls from the pool's balance and changes the
pool's share balance.  Re-entering the pool itself is refused by the host. -/
def vaultDeposit (host : Host D) (env : Env) (s : State D) (vault : Address) :
    Outcome (State D) := do
  trapUnless (vault ≠ host.contract)
  refuseUnless env (0 ≤ env.vault.pulled ∧ env.vault.pulled ≤ liquidBalance host s)
  .ok { s with
    xlm := Function.update s.xlm host.contract (s.xlm host.contract - env.vault.pulled)
    vaultShares := Function.update s.vaultShares vault
      (s.vaultShares vault + env.vault.minted) }

/-- `vault.withdraw(..)`: the vault pays into the pool's balance and changes the
pool's share balance.  Nothing authorizes it to take XLM from the pool. -/
def vaultWithdraw (host : Host D) (env : Env) (s : State D) (vault : Address) :
    Outcome (State D) := do
  trapUnless (vault ≠ host.contract)
  refuseUnless env (0 ≤ env.vault.paid)
  .ok { s with
    xlm := Function.update s.xlm host.contract (s.xlm host.contract + env.vault.paid)
    vaultShares := Function.update s.vaultShares vault
      (s.vaultShares vault - env.vault.burned) }

/-! ### What a successful call says -/

@[simp] theorem requireNotPaused_eq_ok {s : State D} {u : Unit} :
    requireNotPaused s = .ok u ↔ s.paused = false := by
  simp [requireNotPaused]

@[simp] theorem requireAuth_eq_ok {host : Host D} {env : Env} {a : Address} {u : Unit} :
    requireAuth host env a = .ok u ↔ a ∈ env.signers ∧ a ≠ host.contract := by
  simp [requireAuth]

@[simp] theorem refuseUnless_eq_ok {env : Env} {p : Prop} [Decidable p] {u : Unit} :
    refuseUnless env p = .ok u ↔ p := by
  unfold refuseUnless
  split_ifs with h <;> simp [h]

/-- A refusal is no typed error of the pool and no overflow. -/
theorem Env.refused_or (env : Env) :
    env.refused = .trap ∨ ∃ code, env.refusal = some code ∧ env.refused = .external code := by
  unfold Env.refused
  cases env.refusal with
  | none => exact .inl rfl
  | some code => exact .inr ⟨code, rfl, rfl⟩

@[simp] theorem refused_ne_error {env : Env} {e : PoolError} : env.refused ≠ .error e := by
  rcases env.refused_or with refused | ⟨code, -, refused⟩ <;> rw [refused] <;> nofun

@[simp] theorem refused_ne_overflow {env : Env} : env.refused ≠ .overflow := by
  rcases env.refused_or with refused | ⟨code, -, refused⟩ <;> rw [refused] <;> nofun

@[simp] theorem avoids_refuseUnless {env : Env} {p : Prop} [Decidable p] {failure : Failure} :
    Checked.Avoids failure (refuseUnless env p) ↔ (env.refused = failure → p) := by
  unfold refuseUnless
  split_ifs with h <;> simp [h]

/-- The balances after a transfer. -/
def moved (xlm : Address → Int) (payer payee : Address) (amount : Int) : Address → Int :=
  let debited := Function.update xlm payer (xlm payer - amount)
  Function.update debited payee (debited payee + amount)

/-- What a payee other than the payer holds after a transfer. -/
theorem moved_payee {xlm : Address → Int} {payer payee : Address} {amount : Int}
    (distinct : payee ≠ payer) : moved xlm payer payee amount payee = xlm payee + amount := by
  simp [moved, distinct]

/-- What the payer holds after a transfer. -/
theorem moved_payer {xlm : Address → Int} {payer payee : Address} {amount : Int} :
    moved xlm payer payee amount payer =
      if payee = payer then xlm payer else xlm payer - amount := by
  split_ifs with same
  · subst same
    simp [moved]
  · simp [moved, Ne.symm same]

@[simp] theorem transfer_eq_ok {env : Env} {s s' : State D} {payer payee : Address}
    {amount : Int} :
    transfer env s payer payee amount = .ok s' ↔
      ((0 ≤ amount ∧ amount ≤ s.xlm payer) ∧ env.tokenAccepts = true) ∧
        { s with xlm := moved s.xlm payer payee amount } = s' := by
  simp [transfer, moved]

@[simp] theorem vaultDeposit_eq_ok {host : Host D} {env : Env} {s s' : State D}
    {vault : Address} :
    vaultDeposit host env s vault = .ok s' ↔
      vault ≠ host.contract ∧
        (0 ≤ env.vault.pulled ∧ env.vault.pulled ≤ liquidBalance host s) ∧
        { s with
          xlm := Function.update s.xlm host.contract (s.xlm host.contract - env.vault.pulled)
          vaultShares := Function.update s.vaultShares vault
            (s.vaultShares vault + env.vault.minted) } = s' := by
  simp [vaultDeposit]

@[simp] theorem vaultWithdraw_eq_ok {host : Host D} {env : Env} {s s' : State D}
    {vault : Address} :
    vaultWithdraw host env s vault = .ok s' ↔
      vault ≠ host.contract ∧ 0 ≤ env.vault.paid ∧
        { s with
          xlm := Function.update s.xlm host.contract (s.xlm host.contract + env.vault.paid)
          vaultShares := Function.update s.vaultShares vault
            (s.vaultShares vault - env.vault.burned) } = s' := by
  simp [vaultWithdraw]

end ProtectionPool
