/-
Module: ProtectionPool.Proofs.ClaimIds
Purpose: Claims and override requests are filed under the identifier of a wallet
  and a transaction that some call of the run named.  Identifiers of different
  pairs are assumed apart only for the pairs the run names.
Trusted boundary: none
Main exports: Action.named, namedPairs, ClaimIdsDistinct, FiledByPair,
  filedByPair_of_run
-/
import ProtectionPool.Books.Registration

namespace ProtectionPool

variable {D : Type}

/-- The wallet and the transaction a call names a claim by. -/
def Action.named : Action D → Option (Address × BytesN 32)
  | .invoke _ (.submitClaim _ wallet txHash _ _ _ _ _) => some (wallet, txHash)
  | .invoke _ (.approveOverride _ wallet txHash _ _) => some (wallet, txHash)
  | .invoke _ (.cancelPendingOverride _ wallet txHash) => some (wallet, txHash)
  | _ => none

/-- The pairs the calls of a log name. -/
def namedPairs : Log D → List (Address × BytesN 32)
  | [] => []
  | e :: past => e.action.named.toList ++ namedPairs past

/-- The claim identifiers of a run do not collide. -/
def ClaimIdsDistinct (host : Host D) (log : Log D) : Prop :=
  ∀ pair ∈ namedPairs log, ∀ other ∈ namedPairs log,
    computeClaimId host pair.1 pair.2 = computeClaimId host other.1 other.2 → pair = other

variable [DecidableEq D]

instance (host : Host D) (log : Log D) : Decidable (ClaimIdsDistinct host log) :=
  inferInstanceAs (Decidable (∀ pair ∈ namedPairs log, _))

/-- An identifier is that of a pair the run names. -/
structure Named (host : Host D) (pairs : List (Address × BytesN 32)) (claimId : D)
    (wallet : Address) (txHash : BytesN 32) : Prop where
  computed : claimId = computeClaimId host wallet txHash
  named : (wallet, txHash) ∈ pairs

/-- Every claim and every request is filed under the identifier of its pair. -/
structure FiledByPair (host : Host D) (pairs : List (Address × BytesN 32)) (r : Register D) :
    Prop where
  claims : Store.All (fun claimId claim => Named host pairs claimId claim.wallet claim.txHash)
    r.claims
  overrides : Store.All (fun claimId req => Named host pairs claimId req.wallet req.txHash)
    r.overrides

variable {host : Host D} {r r' : Register D} {action : Action D} {output : Output D}
  {pairs : List (Address × BytesN 32)} {claimId : D} {wallet caller : Address}
  {txHash : BytesN 32}

omit [DecidableEq D] in
theorem Named.mono {more : List (Address × BytesN 32)}
    (named : Named host pairs claimId wallet txHash) :
    Named host (more ++ pairs) claimId wallet txHash :=
  ⟨named.computed, List.mem_append_right _ named.named⟩

omit [DecidableEq D] in
/-- A longer log names more pairs. -/
theorem ClaimIdsDistinct.shrink {e : Entry (State D) (Action D) (Output D)} {past : Log D}
    (distinct : ClaimIdsDistinct host (e :: past)) : ClaimIdsDistinct host past := by
  intro pair named other otherNamed
  exact distinct pair (List.mem_append_right _ named) other (List.mem_append_right _ otherNamed)

omit [DecidableEq D] in
/-- Where no identifiers collide a call that names the identifier of a pair names
the pair. -/
theorem ClaimIdsDistinct.eq_of_named {e : Entry (State D) (Action D) (Output D)} {past : Log D}
    (distinct : ClaimIdsDistinct host (e :: past)) {otherWallet : Address}
    {otherHash : BytesN 32} (called : e.action.named = some (wallet, txHash))
    (filed : Named host (namedPairs (e :: past)) (computeClaimId host wallet txHash) otherWallet
      otherHash) : otherWallet = wallet ∧ otherHash = txHash := by
  have named : (wallet, txHash) ∈ namedPairs (e :: past) := by
    rw [namedPairs, called]
    exact List.mem_append_left _ (List.mem_singleton.mpr rfl)
  have same := distinct _ filed.named _ named filed.computed.symm
  exact Prod.mk.inj same

/-- The request an approval is recorded on is filed under the identifier the call
names. -/
theorem FiledByPair.request (filed : FiledByPair host pairs r) {entitlement : Int} {tier : Nat}
    {req : OverrideRequest}
    (approval : r.OverrideApproval host caller wallet txHash entitlement tier req)
    (called : action.named = some (wallet, txHash)) :
    Named host (action.named.toList ++ pairs) (computeClaimId host wallet txHash) req.wallet
      req.txHash := by
  rw [approval.requested]
  cases pending : r.overrides.get (computeClaimId host wallet txHash) with
  | none =>
      simp only [Register.request, pending, Option.getD_none]
      refine ⟨rfl, ?_⟩
      rw [called]
      exact List.mem_append_left _ (List.mem_singleton.mpr rfl)
  | some stored =>
      simp only [Register.request, pending, Option.getD_some]
      exact (filed.overrides _ _ pending).mono

/-- Every step files claims and requests under the identifiers of their pairs. -/
theorem FiledByPair.step (filed : FiledByPair host pairs r)
    (step : RegisterStep host action output r r') :
    FiledByPair host (action.named.toList ++ pairs) r' := by
  have claims : Store.All (fun claimId claim =>
      Named host (action.named.toList ++ pairs) claimId claim.wallet claim.txHash) r.claims :=
    filed.claims.imp fun _ _ => Named.mono
  have overrides : Store.All (fun claimId req =>
      Named host (action.named.toList ++ pairs) claimId req.wallet req.txHash) r.overrides :=
    filed.overrides.imp fun _ _ => Named.mono
  cases step with
  | queued | admitted =>
      exact ⟨claims.set ⟨rfl, List.mem_append_left _ (List.mem_singleton.mpr rfl)⟩, overrides⟩
  | released _ listed | queueExpired _ listed | unlocked _ listed | approved _ listed
  | streamed _ listed =>
      have named := claims _ _ listed
      exact ⟨claims.set named, overrides⟩
  | approvalExpired listed | staleExpired listed | droppedPending listed | reversed listed =>
      have named := claims _ _ listed
      exact ⟨claims.set named, overrides⟩
  | restarted listed =>
      have named := claims _ _ listed
      refine ⟨claims.set ?_, overrides⟩
      unfold Claim.restarted
      split <;> exact named
  | overridePending approval =>
      exact ⟨claims, overrides.set (filed.request approval rfl)⟩
  | overrideExecuted approval =>
      exact ⟨claims.set (filed.request approval rfl), overrides.remove _⟩
  | overrideCancelled => exact ⟨claims, overrides.remove _⟩
  | funds | clock | oracleSet | pubkeySet | identitySet | coSignerSet | adminTransferred | paused
  | unpaused | staked | beneficiarySet | withdrawn | emergencyExited | suspended | unsuspended
  | revoked =>
      exact ⟨claims, overrides⟩

/-- In every run claims and requests are filed under the identifiers of their
pairs. -/
theorem filedByPair_of_run {guard : System.Guard (State D) (Action D) (Output D)} {log : Log D}
    {s : State D} (run : (poolSystem host).Run guard log s) :
    FiledByPair host (namedPairs log) s.register := by
  apply run.invariant (P := fun log s => FiledByPair host (namedPairs log) s.register)
  · intro s deployed
    have new := deployed_register deployed
    constructor
    · rw [new.noClaims]
      exact Store.all_empty
    · rw [new.noOverrides]
      exact Store.all_empty
  · intro log s action output s' _ filed _ stepped
    exact filed.step (step_registers stepped)

end ProtectionPool
