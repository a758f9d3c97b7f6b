/-
Module: ProtectionPool.Proofs.Revocation
Purpose: A revoked approval can never be used again.  The revocation is a
  temporary entry that lives for a number of ledgers, the approval dies at a
  deadline in seconds; as long as a ledger takes at least a second the entry
  outlives the deadline.
Trusted boundary: none
Main exports: SignedApproval, oneSecondPerLedger, StaysDead,
  revoked_approval_stays_dead
-/
import ProtectionPool.Books.Registration

namespace ProtectionPool

variable {D : Type} [DecidableEq D]

/-! ### Approvals -/

/-- The parameters an oracle approval is signed for. -/
structure SignedApproval where
  wallet : Address
  txHash : BytesN 32
  entitlement : Int
  tier : Nat
  hackTimestamp : Nat
  deadline : Nat
deriving DecidableEq

/-- The hash a revocation is stored under. -/
def SignedApproval.hash (host : Host D) (approval : SignedApproval) : D :=
  approvalHash host
    (buildApprovalPayload host approval.wallet approval.txHash approval.entitlement approval.tier
      approval.hackTimestamp approval.deadline)

/-- The approval an action revokes. -/
def Action.revokes : Action D → Option SignedApproval
  | .invoke _ (.revokeApproval _ wallet txHash entitlement tier hackTimestamp deadline) =>
      some ⟨wallet, txHash, entitlement, tier, hackTimestamp, deadline⟩
  | _ => none

/-- The caller of a submission and the approval it relies on. -/
def Action.submits : Action D → Option (Address × SignedApproval)
  | .invoke _ (.submitClaim caller wallet txHash entitlement tier hackTimestamp deadline _) =>
      some (caller, ⟨wallet, txHash, entitlement, tier, hackTimestamp, deadline⟩)
  | _ => none

/-- The oracle of the day submits nothing that was revoked before. -/
def StaysDead (past : Log D) (e : Entry (State D) (Action D) (Output D)) : Prop :=
  ∀ caller approval, e.action.submits = some (caller, approval) → caller = e.pre.oracle →
    ∀ earlier ∈ past, earlier.action.revokes ≠ some approval

/-- A ledger takes at least a second. -/
def oneSecondPerLedger : System.Guard (State D) (Action D) (Output D) :=
  fun _ s action =>
    match action with
    | .closeLedger sequence timestamp => sequence - s.sequence ≤ timestamp - s.timestamp
    | _ => True

instance (log : Log D) (s : State D) (action : Action D) :
    Decidable (oneSecondPerLedger log s action) := by
  induction action using Action.casesOn with
  | closeLedger => exact inferInstanceAs (Decidable (_ ≤ _))
  | _ => exact inferInstanceAs (Decidable True)

/-! ### The life of a revocation -/

/-- A revocation is on file that lives at least as long as the approval can be
used, counting a second a ledger. -/
def Register.Buries (host : Host D) (r : Register D) (approval : SignedApproval) : Prop :=
  ∃ liveUntil, r.revoked.get (approval.hash host) = some liveUntil ∧
    r.sequence + approval.deadline ≤ liveUntil + r.timestamp ∧
    approval.deadline ≤ r.timestamp + revocationTtlLedgers

variable {host : Host D} {r r' : Register D} {action : Action D} {output : Output D}
  {approval : SignedApproval}

/-- A revocation buries its approval. -/
theorem RegisterStep.buries (step : RegisterStep host action output r r')
    (revokes : action.revokes = some approval) : r'.Buries host approval := by
  cases step with
  | revoked _ inTime =>
      cases revokes
      have covers := revocationTtl_covers_approvalWindow
      refine ⟨r.sequence + revocationTtlLedgers, Store.get_set_self _ _ _, ?_, ?_⟩
      · simp only
        omega
      · simp only
        omega
  | funds fundsOnly => cases action, fundsOnly using Action.fundsCases <;> cases revokes
  | _ => cases revokes

/-- An approval stays buried while a ledger takes at least a second: a later
revocation under the same hash only lives longer. -/
theorem RegisterStep.buries_kept (step : RegisterStep host action output r r')
    (slow : ∀ sequence timestamp, action = .closeLedger sequence timestamp →
      sequence - r.sequence ≤ timestamp - r.timestamp)
    (buried : r.Buries host approval) : r'.Buries host approval := by
  obtain ⟨liveUntil, entry, outlives, near⟩ := buried
  cases step with
  | clock sequenceAdvances timestampAdvances =>
      have second := slow _ _ rfl
      refine ⟨liveUntil, entry, ?_, ?_⟩
      · simp only
        omega
      · simp only
        omega
  | @revoked _ _ _ wallet txHash entitlement tier hackTimestamp deadline =>
      by_cases same : approval.hash host =
          SignedApproval.hash host ⟨wallet, txHash, entitlement, tier, hackTimestamp, deadline⟩
      · refine ⟨r.sequence + revocationTtlLedgers, ?_, ?_, near⟩
        · rw [same]
          exact Store.get_set_self _ _ _
        · simp only
          omega
      · refine ⟨liveUntil, ?_, outlives, near⟩
        rw [← entry]
        exact Store.get_set_ne _ _ same
  | _ => exact ⟨liveUntil, entry, outlives, near⟩

/-- The oracle cannot use a buried approval. -/
theorem RegisterStep.not_buried (step : RegisterStep host action output r r')
    {caller : Address} (submits : action.submits = some (caller, approval))
    (oracle : caller = r.oracle) : ¬ r.Buries host approval := by
  rintro ⟨liveUntil, entry, outlives, -⟩
  have accepted : r.AcceptsApproval host approval.wallet approval.txHash approval.entitlement
      approval.tier approval.hackTimestamp approval.deadline := by
    cases step with
    | queued submission | admitted submission =>
        cases submits
        exact submission.accepted oracle
    | funds fundsOnly => cases action, fundsOnly using Action.fundsCases <;> cases submits
    | _ => cases submits
  have expired := accepted.2 liveUntil entry
  have inTime := accepted.1.1
  omega

/-! ### Runs -/

/-- Every approval revoked so far is buried. -/
def RevokedBuried (host : Host D) (log : Log D) (s : State D) : Prop :=
  ∀ e ∈ log, ∀ approval, e.action.revokes = some approval → s.register.Buries host approval

/-- In every run in which a ledger takes at least a second, whoever is the oracle
submits no claim on an approval that was revoked before. -/
theorem revoked_approval_stays_dead (host : Host D) {log : Log D} {s : State D}
    (run : (poolSystem host).Run oneSecondPerLedger log s) : System.Along StaysDead log := by
  have along : System.Along StaysDead log ∧ RevokedBuried host log s := by
    apply run.along (I := RevokedBuried host)
    · intro s _ e member
      cases member
    · intro log s action output s' _ buried slow stepped
      have step := step_registers stepped
      constructor
      · intro caller approval submits oracle e member revokes
        exact step.not_buried submits oracle (buried e member approval revokes)
      · intro e member approval revokes
        rcases List.mem_cons.mp member with rfl | older
        · exact step.buries revokes
        · apply step.buries_kept _ (buried e older approval revokes)
          rintro sequence timestamp rfl
          exact slow
  exact along.1

/-- In such a run a revoked approval can be replaced by another, with which the
oracle submits the claim. -/
theorem revoked_approval_stays_dead_sample :
    ∃ log s, (poolSystem sampleHost).Run oneSecondPerLedger log s ∧
      (s.claims.get (computeClaimId sampleHost (party 11) 0)).isSome = true ∧
      System.Along StaysDead log := by
  obtain ⟨log, s, run, ends⟩ := System.exists_run_of_replay (poolSystem sampleHost)
    oneSecondPerLedger samplePool_deployed
    [callBy 11 (.stake (party 11) 2000 (party 21)),
      callBy 12 (.stake (party 12) 100000 (party 22)),
      callBy 1 (.revokeApproval (party 1) (party 11) 0 2000 1 1000000 1003600),
      .closeLedger 1010 1000060,
      callBy 2 (.submitClaim (party 2) (party 11) 0 2000 1 1000000 1007200 0)]
    (fun _ s => (s.claims.get (computeClaimId sampleHost (party 11) 0)).isSome)
    (by decide +kernel)
  exact ⟨log, s, run, ends, revoked_approval_stays_dead sampleHost run⟩

end ProtectionPool
