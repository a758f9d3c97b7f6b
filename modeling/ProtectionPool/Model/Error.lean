/-
Module: ProtectionPool.Model.Error
Purpose: The typed contract errors, and the ways an invocation fails: with a
  typed error of its own or of a contract it calls, by a trapped integer
  overflow, or by any other host trap.
Trusted boundary: none
Main exports: PoolError, PoolError.code, Failure, Outcome, rejectIf, okOr, trapUnless
-/
import ProtectionPool.Library.Checked

namespace ProtectionPool

open Checked

/-- `PoolError` (`error.rs`). -/
inductive PoolError where
  | noStake
  | alreadyWithdrawn
  | poolCapNotPositive
  | alreadyInitialized
  | oracleEqualsCoSigner
  | coSignerEqualsAdmin
  | newAdminEqualsCoSigner
  | poolCapBelowTotalStaked
  | coSignerEqualsOracle
  | stakeNotPositive
  | stakeOutOfRange
  | alreadyStaked
  | poolCapExceeded
  | beneficiaryIsStaker
  | beneficiaryIsOracle
  | beneficiaryIsAdmin
  | beneficiaryIsCoSigner
  | stakeForfeited
  | claimActive
  | penaltyLockActive
  | wrongBeneficiary
  | noActiveStake
  | invalidTier
  | callerNotOracleOrAdmin
  | entitlementNotPositive
  | stakeSuspended
  | claimAlreadyActiveForStake
  | entitlementExceedsTierCap
  | hackTimestampInFuture
  | hackPredatesStake
  | claimWindowExpired
  | insolvent
  | dailyStressCapExceeded
  | oracleDailyClaimLimitReached
  | claimAlreadyExists
  | noSuchClaim
  | claimNotPending
  | timeGateNotMet
  | claimNotAwaitingApproval
  | approvalWindowExpired
  | approvalWindowNotExpired
  | claimNotActive
  | claimFullyStreamed
  | claimNotStale
  | cooldownNotPassed
  | nothingVested
  | dailyOutflowCapReached
  | claimNotCancellable
  | callerNotAdminOrCoSigner
  | overrideParamsMismatch
  | claimAlreadyCompleted
  | walletHasDifferentActiveClaim
  | noStakeAmountForOverride
  | noPendingOverride
  | callerNotAdmin
  | signatureExpired
  | oraclePubKeyNotSet
  | approvalRevoked
  | signatureDeadlineTooFar
  | insufficientLiquidity
  | vaultNotSet
  | deployExceedsCeiling
  | deployBreachesAllocation
  | vaultChangeWhileDeployed
  | redeemExceedsDeployed
  | amountNotPositive
  | deployBpsTooHigh
  | treasuryNotSet
  | nothingDeployed
  | exceedsYieldBalance
  | minSharesNotMet
  | minAmountNotMet
  | paused
  | claimAlreadyQueued
  | noSuchQueuedClaim
  | queueReleaseNotYetEligible
  | queueNotYetExpired
deriving DecidableEq, Repr

/-- The number an error is reported by. -/
def PoolError.code : PoolError → Nat
  | .noStake => 1
  | .alreadyWithdrawn => 2
  | .poolCapNotPositive => 3
  | .alreadyInitialized => 10
  | .oracleEqualsCoSigner => 11
  | .coSignerEqualsAdmin => 12
  | .newAdminEqualsCoSigner => 13
  | .poolCapBelowTotalStaked => 14
  | .coSignerEqualsOracle => 15
  | .stakeNotPositive => 20
  | .stakeOutOfRange => 21
  | .alreadyStaked => 22
  | .poolCapExceeded => 23
  | .beneficiaryIsStaker => 24
  | .beneficiaryIsOracle => 25
  | .beneficiaryIsAdmin => 26
  | .beneficiaryIsCoSigner => 27
  | .stakeForfeited => 28
  | .claimActive => 29
  | .penaltyLockActive => 30
  | .wrongBeneficiary => 31
  | .noActiveStake => 32
  | .invalidTier => 40
  | .callerNotOracleOrAdmin => 41
  | .entitlementNotPositive => 42
  | .stakeSuspended => 43
  | .claimAlreadyActiveForStake => 44
  | .entitlementExceedsTierCap => 45
  | .hackTimestampInFuture => 46
  | .hackPredatesStake => 47
  | .claimWindowExpired => 48
  | .insolvent => 49
  | .dailyStressCapExceeded => 50
  | .oracleDailyClaimLimitReached => 51
  | .claimAlreadyExists => 52
  | .noSuchClaim => 53
  | .claimNotPending => 54
  | .timeGateNotMet => 55
  | .claimNotAwaitingApproval => 56
  | .approvalWindowExpired => 57
  | .approvalWindowNotExpired => 58
  | .claimNotActive => 59
  | .claimFullyStreamed => 60
  | .claimNotStale => 61
  | .cooldownNotPassed => 62
  | .nothingVested => 63
  | .dailyOutflowCapReached => 64
  | .claimNotCancellable => 65
  | .callerNotAdminOrCoSigner => 66
  | .overrideParamsMismatch => 67
  | .claimAlreadyCompleted => 68
  | .walletHasDifferentActiveClaim => 69
  | .noStakeAmountForOverride => 70
  | .noPendingOverride => 71
  | .callerNotAdmin => 72
  | .signatureExpired => 73
  | .oraclePubKeyNotSet => 74
  | .approvalRevoked => 75
  | .signatureDeadlineTooFar => 76
  | .insufficientLiquidity => 80
  | .vaultNotSet => 81
  | .deployExceedsCeiling => 82
  | .deployBreachesAllocation => 83
  | .vaultChangeWhileDeployed => 84
  | .redeemExceedsDeployed => 85
  | .amountNotPositive => 86
  | .deployBpsTooHigh => 87
  | .treasuryNotSet => 88
  | .nothingDeployed => 89
  | .exceedsYieldBalance => 90
  | .minSharesNotMet => 91
  | .minAmountNotMet => 92
  | .paused => 93
  | .claimAlreadyQueued => 94
  | .noSuchQueuedClaim => 95
  | .queueReleaseNotYetEligible => 96
  | .queueNotYetExpired => 97

/-- Why an invocation ended without effect.  A typed error of the token or the
vault ends the invocation that called it, under that contract's own number.  The
build runs with overflow checks, so an overflow traps; the remaining traps are
missing authorization, a bad signature and a token or vault that gives no typed
error. -/
inductive Failure where
  | error (e : PoolError)
  | external (code : Nat)
  | overflow
  | trap
deriving DecidableEq, Repr

/-- The number of a typed error, which is all a client sees of whose it is. -/
def Failure.number : Failure → Option Nat
  | .error e => some e.code
  | .external code => some code
  | .overflow | .trap => none

/-- The result of an invocation.  A failed one rolls back every write. -/
abbrev Outcome (α : Type) := Except Failure α

/-- `if condition { return Err(e); }` -/
def rejectIf (condition : Prop) [Decidable condition] (e : PoolError) : Outcome Unit :=
  if condition then .error (.error e) else .ok ()

/-- `value.ok_or(e)?` -/
def okOr {α : Type} (value : Option α) (e : PoolError) : Outcome α :=
  match value with
  | some a => .ok a
  | none => .error (.error e)

/-- A condition the host enforces by trapping. -/
def trapUnless (condition : Prop) [Decidable condition] : Outcome Unit :=
  if condition then .ok () else .error .trap

/-- Overflow-checked `i128` arithmetic. -/
abbrev i128 (x : Int) : Outcome Int := Checked.i128 .overflow x

/-- Overflow-checked `u32` arithmetic. -/
abbrev u32 (n : Nat) : Outcome Nat := Checked.u32 .overflow n

/-- Overflow-checked `u64` arithmetic. -/
abbrev u64 (n : Nat) : Outcome Nat := Checked.u64 .overflow n

@[simp] theorem rejectIf_eq_ok {p : Prop} [Decidable p] {e : PoolError} {u : Unit} :
    rejectIf p e = .ok u ↔ ¬ p := by
  unfold rejectIf
  split_ifs with h <;> simp [h]

@[simp] theorem okOr_eq_ok {α : Type} {value : Option α} {e : PoolError} {a : α} :
    okOr value e = .ok a ↔ value = some a := by
  cases value <;> simp [okOr]

@[simp] theorem trapUnless_eq_ok {p : Prop} [Decidable p] {u : Unit} :
    trapUnless p = .ok u ↔ p := by
  unfold trapUnless
  split_ifs with h <;> simp [h]

/-! ### Failures of the checks -/

@[simp] theorem avoids_rejectIf {p : Prop} [Decidable p] {e : PoolError} {failure : Failure} :
    Checked.Avoids failure (rejectIf p e) ↔ (Failure.error e = failure → ¬ p) := by
  unfold rejectIf
  split_ifs with h <;> simp [h]

@[simp] theorem avoids_okOr {α : Type} {value : Option α} {e : PoolError} {failure : Failure} :
    Checked.Avoids failure (okOr value e) ↔ (Failure.error e = failure → value ≠ none) := by
  cases value <;> simp [okOr]

@[simp] theorem avoids_trapUnless {p : Prop} [Decidable p] {failure : Failure} :
    Checked.Avoids failure (trapUnless p) ↔ (Failure.trap = failure → p) := by
  unfold trapUnless
  split_ifs with h <;> simp [h]

end ProtectionPool
