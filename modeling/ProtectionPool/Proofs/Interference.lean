/-
Module: ProtectionPool.Proofs.Interference
Purpose: What an operation on one wallet leaves alone of every other: its deposit, its
  banked points, its claims and the override requests for it.  Claims and requests are
  filed under hashes, so this rests on each being filed under the identifier of its
  own wallet.
Trusted boundary: the identifiers of the pairs a run names do not collide
Main exports: Register.subject, Unaffected, RegisterStep.unaffected, no_cross_wallet
-/
import ProtectionPool.Proofs.ClaimIds

namespace ProtectionPool

variable {D : Type} [DecidableEq D]

/-- The wallet an operation is about: the one it is called with, or that of the claim
it names.  A suspension that is lifted is about the wallet it is called with, whichever
claim is passed along. -/
def Register.subject (r : Register D) : Action D → Option Address
  | .invoke _ (.stake staker _ _) | .invoke _ (.setBeneficiary staker _)
  | .invoke _ (.withdraw staker _) | .invoke _ (.emergencyExit staker) => some staker
  | .invoke _ (.suspendStake wallet) | .invoke _ (.unsuspendStake wallet _)
  | .invoke _ (.submitClaim _ wallet _ _ _ _ _ _) | .invoke _ (.approveOverride _ wallet _ _ _)
  | .invoke _ (.cancelPendingOverride _ wallet _)
  | .invoke _ (.revokeApproval _ wallet _ _ _ _ _) => some wallet
  | .invoke _ (.tryReleaseQueuedClaim claimId) | .invoke _ (.expireQueuedClaim claimId)
  | .invoke _ (.unlockPendingClaim claimId) | .invoke _ (.approveClaim claimId)
  | .invoke _ (.expirePendingApproval claimId) | .invoke _ (.expireStaleClaim claimId)
  | .invoke _ (.claimStream claimId _) | .invoke _ (.cancelClaim claimId) =>
      (r.claims.get claimId).map Claim.wallet
  | _ => none

/-- Everything on file for a wallet is as it was, and nothing is added. -/
structure Unaffected (wallet : Address) (r r' : Register D) : Prop where
  stake : r'.stakes.get wallet = r.stakes.get wallet
  points : r'.pointsBalances.get wallet = r.pointsBalances.get wallet
  claims : Store.AgreeOn (fun claim => claim.wallet = wallet) r.claims r'.claims
  overrides : Store.AgreeOn (fun req => req.wallet = wallet) r.overrides r'.overrides

variable {host : Host D} {r r' : Register D} {action : Action D} {output : Output D}
  {wallet : Address} {past : Log D} {e : Entry (State D) (Action D) (Output D)}

/-- What is filed under the identifier of the pair a call names belongs to the wallet
of the pair. -/
structure NamesOwn (host : Host D) (r : Register D) (action : Action D) : Prop where
  claims : ∀ {owner txHash}, action.named = some (owner, txHash) →
    ∀ claim, r.claims.get (computeClaimId host owner txHash) = some claim → claim.wallet = owner
  overrides : ∀ {owner txHash}, action.named = some (owner, txHash) →
    ∀ req, r.overrides.get (computeClaimId host owner txHash) = some req → req.wallet = owner

/-- Where no identifiers collide every call names what belongs to its wallet. -/
theorem FiledByPair.namesOwn (filed : FiledByPair host (namedPairs past) r)
    (distinct : ClaimIdsDistinct host (e :: past)) : NamesOwn host r e.action where
  claims := by
    intro owner txHash called claim listed
    exact (distinct.eq_of_named called (filed.claims _ _ listed).mono).1
  overrides := by
    intro owner txHash called req pending
    exact (distinct.eq_of_named called (filed.overrides _ _ pending).mono).1

/-- An approval is recorded on a request for the wallet the call names. -/
theorem NamesOwn.request_wallet (own : NamesOwn host r action) {caller owner : Address}
    {txHash : BytesN 32} {entitlement : Int} {tier : Nat}
    (called : action.named = some (owner, txHash)) :
    (r.request host caller owner txHash entitlement tier).wallet = owner := by
  cases pending : r.overrides.get (computeClaimId host owner txHash) with
  | none => simp only [Register.request, pending, Option.getD_none]
  | some stored =>
      simp only [Register.request, pending, Option.getD_some]
      exact own.overrides called stored pending

/-- A write leaves alone what is on file for every wallet it is not about. -/
theorem RegisterStep.unaffected (step : RegisterStep host action output r r')
    (own : NamesOwn host r action) (other : r.subject action ≠ some wallet) :
    Unaffected wallet r r' := by
  have about : ∀ {owner}, r.subject action = some owner → owner ≠ wallet := by
    rintro owner subject rfl
    exact other subject
  have aboutClaim : ∀ {claimId claim}, r.claims.get claimId = some claim →
      r.subject action = (r.claims.get claimId).map Claim.wallet → claim.wallet ≠ wallet := by
    intro claimId claim listed subject
    apply about
    rw [subject, listed, Option.map_some]
  cases step with
  | funds | clock | oracleSet | pubkeySet | identitySet | coSignerSet | adminTransferred | paused
  | unpaused | revoked =>
      exact ⟨rfl, rfl, .refl _, .refl _⟩
  | staked | beneficiarySet | emergencyExited | suspended | unsuspended =>
      exact ⟨Store.get_set_ne _ _ (about rfl).symm, rfl, .refl _, .refl _⟩
  | withdrawn _ _ _ _ _ _ _ banked =>
      refine ⟨Store.get_set_ne _ _ (about rfl).symm, ?_, .refl _, .refl _⟩
      rcases banked with rfl | ⟨balance, rfl⟩
      · rfl
      · exact Store.get_set_ne _ _ (about rfl).symm
  | restarted listed =>
      have apart := about rfl
      refine ⟨Store.get_set_ne _ _ apart.symm, rfl, ?_, .refl _⟩
      apply Store.agreeOn_update listed apart
      unfold Claim.restarted
      split <;> exact apart
  | queued | admitted =>
      have apart := about rfl
      refine ⟨Store.get_set_ne _ _ apart.symm, rfl, Store.agreeOn_set ?_ ?_, .refl _⟩
      · exact apart
      · intro claim listed
        rw [own.claims rfl claim listed]
        exact apart
  | unlocked _ listed | streamed _ listed =>
      have apart := aboutClaim listed rfl
      exact ⟨rfl, rfl, Store.agreeOn_update listed apart apart, .refl _⟩
  | released _ listed | queueExpired _ listed =>
      have apart := aboutClaim listed rfl
      exact ⟨Store.get_set_ne _ _ apart.symm, rfl, Store.agreeOn_update listed apart apart, .refl _⟩
  | approvalExpired listed | staleExpired listed | droppedPending listed | reversed listed =>
      have apart := aboutClaim listed rfl
      exact ⟨Store.get_set_ne _ _ apart.symm, rfl, Store.agreeOn_update listed apart apart, .refl _⟩
  | approved _ listed =>
      have apart := aboutClaim listed rfl
      exact ⟨Store.get_set_ne _ _ apart.symm, Store.get_set_ne _ _ apart.symm,
        Store.agreeOn_update listed apart apart, .refl _⟩
  | overridePending approval =>
      refine ⟨rfl, rfl, .refl _, Store.agreeOn_set ?_ ?_⟩
      · rw [approval.requested, own.request_wallet rfl]
        exact about rfl
      · intro req pending
        rw [own.overrides rfl req pending]
        exact about rfl
  | @overrideExecuted _ _ _ _ _ _ _ req record _ _ approval =>
      have apart : req.wallet ≠ wallet := by
        rw [approval.requested, own.request_wallet rfl]
        exact about rfl
      refine ⟨Store.get_set_ne _ _ apart.symm, ?_, Store.agreeOn_set ?_ ?_, Store.agreeOn_remove ?_⟩
      · change (if record.withdrawn then r.pointsBalances else _).get wallet = _
        split_ifs
        · rfl
        · exact Store.get_set_ne _ _ apart.symm
      · exact apart
      · intro claim listed
        rw [own.claims rfl claim listed]
        exact about rfl
      · intro req pending
        rw [own.overrides rfl req pending]
        exact about rfl
  | overrideCancelled =>
      refine ⟨rfl, rfl, .refl _, Store.agreeOn_remove ?_⟩
      intro req pending
      rw [own.overrides rfl req pending]
      exact about rfl

/-- From every state a run reaches, as long as no identifiers collide, every operation
leaves alone what is on file for every wallet it is not about. -/
theorem no_cross_wallet (host : Host D) {log : Log D} {s s' : State D} {output : Output D}
    (run : (poolSystem host).Run System.anyStep log s)
    (stepped : (poolSystem host).step s action = .ok (output, s'))
    (distinct : ClaimIdsDistinct host (⟨s, action, output, s'⟩ :: log))
    (other : s.register.subject action ≠ some wallet) :
    Unaffected wallet s.register s'.register :=
  (step_registers stepped).unaffected ((filedByPair_of_run run).namesOwn distinct) other

/-- A suspension of one wallet is lifted with the active claim of another passed
along, for which an override request is pending too. -/
theorem no_cross_wallet_sample :
    ∃ log s result, (poolSystem sampleHost).Run System.anyStep log s ∧
      (poolSystem sampleHost).step s (callBy 1 (.unsuspendStake (party 12)
        (some (computeClaimId sampleHost (party 11) 0)))) = .ok result ∧
      (s.claims.get (computeClaimId sampleHost (party 11) 0)).any
        (fun claim => claim.status = .active) = true ∧
      Unaffected (party 11) s.register result.2.register := by
  obtain ⟨log, s, run, ends⟩ := System.exists_run_of_replay (poolSystem sampleHost)
    System.anyStep samplePool_deployed
    (sampleOpening 10000 ++
      [callBy 1 (.approveOverride (party 1) (party 11) 1 5000 1), afterDays 10,
        callBy 1 (.suspendStake (party 12))])
    (fun log s => (∃ result, (poolSystem sampleHost).step s (callBy 1 (.unsuspendStake (party 12)
        (some (computeClaimId sampleHost (party 11) 0)))) = .ok result ∧
      ClaimIdsDistinct sampleHost (⟨s, callBy 1 (.unsuspendStake (party 12)
        (some (computeClaimId sampleHost (party 11) 0))), result.1, result.2⟩ :: log)) ∧
      (s.claims.get (computeClaimId sampleHost (party 11) 0)).any
        (fun claim => claim.status = .active) = true) (by decide +kernel)
  obtain ⟨⟨⟨output, s'⟩, stepped, distinct⟩, active⟩ := ends
  refine ⟨log, s, (output, s'), run, stepped, active, ?_⟩
  have apart : party 12 ≠ party 11 := by decide
  exact no_cross_wallet sampleHost run stepped distinct fun same => apart (Option.some.inj same)

end ProtectionPool
