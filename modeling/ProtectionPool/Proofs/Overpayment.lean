/-
Module: ProtectionPool.Proofs.Overpayment
Purpose: No claim is paid beyond its record.  Payouts stop at the entitlement, but an
  override writes a new entitlement next to the payments it carries over and does not
  compare the two.  As long as each override leaves something to pay, every release of
  a reservation gives back what was not paid, nothing but an admission or an override
  raises the allocation aggregate, and a claim in effect can be swept once it is stale.
Trusted boundary: none
Main exports: Claim.PaidWithin, PaidWithinRecords, BookEvent.LeavesRest, leavesRest,
  never_paid_beyond_record
-/
import ProtectionPool.Proofs.WellKept

namespace ProtectionPool

open Checked

variable {D : Type} [DecidableEq D]

/-- A claim is paid within its record, and something is left to pay while it is in
effect. -/
def Claim.PaidWithin (claim : Claim) : Prop :=
  (0 ≤ claim.streamed ∧ claim.streamed ≤ claim.entitlement) ∧
    (claim.status = .active → claim.streamed < claim.entitlement)

instance (claim : Claim) : Decidable claim.PaidWithin := inferInstanceAs (Decidable (_ ∧ _))

/-- Every stored claim is paid within its record. -/
def PaidWithinRecords (s : State D) : Prop :=
  Store.All (fun _ claim => Claim.PaidWithin claim) s.claims

instance (s : State D) : Decidable (PaidWithinRecords s) :=
  inferInstanceAs (Decidable (Store.All _ _))

/-- The condition under which an entry leaves something to pay: the entitlement an
override writes exceeds the payments it carries over. -/
def BookEvent.LeavesRest (claims : Store D Claim) : BookEvent D → Prop
  | .overridden _ claimId entitlement => carriedStreamed (claims.get claimId) < entitlement
  | _ => True

instance (claims : Store D Claim) (event : BookEvent D) :
    Decidable (event.LeavesRest claims) := by
  induction event using BookEvent.casesOn with
  | overridden => exact inferInstanceAs (Decidable (carriedStreamed _ < _))
  | _ => exact inferInstanceAs (Decidable True)

/-- The entries that may reserve. -/
def BookEvent.reserves : BookEvent D → Bool
  | .submitted _ _ | .released _ _ | .overridden _ _ _ => true
  | _ => false

/-- The calls that may reserve: admissions and overrides. -/
def Action.reserves : Action D → Bool
  | .invoke _ (.submitClaim _ _ _ _ _ _ _ _) | .invoke _ (.tryReleaseQueuedClaim _)
  | .invoke _ (.approveOverride _ _ _ _ _) => true
  | _ => false

variable {idOf : Address → BytesN 32 → D} {event : BookEvent D} {b b' : Books D}
  {host : Host D} {s s' : State D} {action : Action D} {output : Output D} {claimId : D}
  {claim : Claim}

/-! ### Entries -/

/-- A claim that leaves effect is still paid within its record. -/
theorem Claim.PaidWithin.ended {status : ClaimStatus} (within : claim.PaidWithin)
    (ended : status ≠ .active) : { claim with status := status }.PaidWithin :=
  ⟨within.1, fun active => absurd active ended⟩

/-- A payout up to the entitlement completes the claim or leaves something to pay. -/
theorem Claim.PaidWithin.paid {amount : Int} {now : Nat} (within : claim.PaidWithin)
    (positive : 0 < amount) (bounded : claim.streamed + amount ≤ claim.entitlement) :
    (claim.paid amount now).PaidWithin := by
  refine ⟨⟨add_nonneg within.1.1 positive.le, bounded⟩, ?_⟩
  simp only [Claim.paid]
  split_ifs with full
  · simp only [false_implies]
  · intro _
    omega

/-- One entry keeps every claim paid within its record exactly when it leaves
something to pay. -/
theorem BookStep.paidWithin_iff (step : BookStep idOf event b b') (kept : b.WellKept)
    (within : Store.All (fun _ claim => Claim.PaidWithin claim) b.claims) :
    Store.All (fun _ claim => Claim.PaidWithin claim) b'.claims ↔ event.LeavesRest b.claims := by
  cases step with
  | queued _ _ eligible | admitted _ _ eligible =>
      refine iff_of_true (within.set ?_) trivial
      exact ⟨⟨le_refl 0, eligible.positive.le⟩, fun _ => eligible.positive⟩
  | released listed =>
      have positive := (kept.claims _ _ listed).positive
      exact iff_of_true (within.set ⟨⟨le_refl 0, positive.le⟩, fun _ => positive⟩) trivial
  | unlocked listed | queueExpired listed | approvalExpired listed | staleExpired listed
  | droppedPending listed | reversed listed =>
      exact iff_of_true (within.update listed fun paid => paid.ended (by decide)) trivial
  | approved listed awaiting =>
      have claimKept := kept.claims _ _ listed
      have unpaid := claimKept.unpaid (.inr (by rw [awaiting]; rfl))
      refine iff_of_true (within.update listed fun paid => ⟨paid.1, fun _ => ?_⟩) trivial
      exact unpaid.trans_lt claimKept.positive
  | streamed listed active _ positive vested =>
      have claimKept := kept.claims _ _ listed
      have bounded := vested claimKept.positive.le (claimKept.schedule active)
      exact iff_of_true (within.update listed fun paid => paid.paid positive bounded) trivial
  | overridden =>
      have carried := carriedStreamed_nonneg kept.claims
      rw [within.set_iff]
      simp only [Claim.PaidWithin, Claim.activated, OverrideRequest.claim, freshClaim,
        BookEvent.LeavesRest, carried, true_and, forall_const]
      exact ⟨fun paid => paid.2, fun rest => ⟨rest.le, rest⟩⟩
  | restarted _ listed => exact iff_of_true (within.update listed id) trivial
  | staked | exited | redeemed | deployed | kept | treasury | clock | amended =>
      exact iff_of_true within trivial

/-- What is released of a reservation does not raise the aggregate. -/
theorem saturatingSub_le {x y : Int} (fits : i128Min ≤ x) (nonneg : 0 ≤ y) :
    saturatingSub x y ≤ x :=
  saturateI128_le_of_le fits (sub_le_self x nonneg)

/-- Nothing but an admission or an override raises the aggregate. -/
theorem BookStep.allocated_le (step : BookStep idOf event b b') (kept : b.WellKept)
    (within : Store.All (fun _ claim => Claim.PaidWithin claim) b.claims)
    (releases : event.reserves = false) : b'.totalAllocated ≤ b.totalAllocated := by
  have fits : i128Min ≤ b.totalAllocated := le_trans (by decide) kept.allocated_nonneg
  cases step with
  | approvalExpired listed =>
      exact saturatingSub_le fits (kept.claims _ _ listed).positive.le
  | staleExpired listed | droppedPending listed | reversed listed =>
      exact saturatingSub_le fits (sub_nonneg.mpr (within _ _ listed).1.2)
  | streamed _ _ _ positive => exact saturatingSub_le fits positive.le
  | queued | admitted | released | overridden => cases releases
  | staked | exited | queueExpired | unlocked | approved | redeemed | deployed | kept | treasury
  | clock | amended | restarted => exact le_refl _

/-! ### Calls -/

/-- Only admissions and overrides make the entries that may reserve. -/
theorem bookEvent_reserves (reserves : (bookEvent host s action).reserves = true) :
    action.reserves = true := by
  obtain other | ⟨env, call, rfl, entered⟩ := bookEvent_enteredBy host s action
  · rw [other] at reserves
    cases reserves
  · cases event : bookEvent host s (.invoke env call) with
    | submitted | released | overridden =>
        rw [event] at entered
        cases call <;> first | rfl | cases entered
    | _ =>
        rw [event] at reserves
        cases reserves

/-- What an override finds released of a claim paid within its record does not raise
the aggregate. -/
theorem releasedAllocation_le (kept : (s.books host).WellKept) (within : PaidWithinRecords s)
    {released : Int} (computed : releasedAllocation s (s.claims.get claimId) = .ok released) :
    released ≤ s.totalAllocated := by
  cases listed : s.claims.get claimId with
  | none =>
      rw [listed] at computed
      exact (Except.ok.inj computed).ge
  | some claim =>
      simp only [listed, releasedAllocation, ite_eq_ok, bind_eq_ok, i128_eq_ok,
        Except.ok.injEq] at computed
      rcases computed with ⟨-, unstreamed, ⟨-, rfl⟩, rfl⟩ | ⟨-, rfl⟩
      · have fits : i128Min ≤ s.totalAllocated := le_trans (by decide) kept.allocated_nonneg
        exact saturatingSub_le fits (sub_nonneg.mpr (within claimId claim listed).1.2)
      · exact le_refl _

/-- A claim in effect that has something left to pay can be swept once it is stale. -/
theorem expireStaleClaim_succeeds {record : StakeRecord D} (kept : (s.books host).WellKept)
    (within : PaidWithinRecords s) (listed : s.claims.get claimId = some claim)
    (active : claim.status = .active) (stored : s.stakes.get claim.wallet = some record)
    (unsuspended : record.suspended = false)
    (stale : collectionInactivityLedgers < s.sequence - claim.lastCollectedLedger) :
    ∃ s', expireStaleClaim s claimId = .ok s' := by
  have rest : claim.streamed < claim.entitlement := (within claimId claim listed).2 active
  have fits : InI128 (claim.entitlement - claim.streamed) := by
    have covered : claim.outstanding ≤ s.totalAllocated := kept.outstanding_le listed
    have allocatedFits : s.totalAllocated ≤ i128Max := kept.allocatedFits
    rw [Claim.outstanding_of_live (by rw [active]; rfl)] at covered
    exact ⟨le_trans (by decide) (sub_nonneg.mpr rest.le), by omega⟩
  simp only [expireStaleClaim, bind_eq_ok, okOr_eq_ok, rejectIf_eq_ok, i128_eq_ok,
    Except.ok.injEq]
  exact ⟨_, claim, listed, (), not_not.mpr active, (), not_le.mpr rest, record, stored, (),
    Bool.eq_false_iff.mp unsuspended, (), not_le.mpr stale, _, ⟨fits, rfl⟩, rfl⟩

/-! ### Runs -/

/-- The steps whose overrides leave something to pay. -/
def leavesRest (host : Host D) : System.Guard (State D) (Action D) (Output D) :=
  fun _ s action => (bookEvent host s action).LeavesRest s.claims

instance (host : Host D) (log : List (Entry (State D) (Action D) (Output D))) (s : State D)
    (action : Action D) : Decidable (leavesRest host log s action) :=
  inferInstanceAs (Decidable (BookEvent.LeavesRest _ _))

/-- What follows in a state whose claims are paid within their records: no release of
a reservation is negative, and every claim in effect can be swept once it is stale. -/
structure ReleasesSound (s : State D) : Prop where
  rest : Store.All (fun _ claim => 0 ≤ claim.entitlement - claim.streamed) s.claims
  overridden : ∀ claimId released,
    releasedAllocation s (s.claims.get claimId) = .ok released → released ≤ s.totalAllocated
  swept : ∀ claimId claim record, s.claims.get claimId = some claim → claim.status = .active →
    s.stakes.get claim.wallet = some record → record.suspended = false →
      collectionInactivityLedgers < s.sequence - claim.lastCollectedLedger →
        ∃ s', expireStaleClaim s claimId = .ok s'

/-- In every run whose overrides leave something to pay every claim is paid within
its record and releases are sound.  A further step keeps this exactly when it is no
override that leaves nothing, and raises the allocation aggregate only as an admission
or an override. -/
theorem never_paid_beyond_record (host : Host D)
    {log : List (Entry (State D) (Action D) (Output D))} {s : State D}
    (run : (poolSystem host).Run (leavesRest host) log s) :
    (PaidWithinRecords s ∧ ReleasesSound s) ∧
      ∀ {action output s'}, (poolSystem host).step s action = .ok (output, s') →
        (PaidWithinRecords s' ↔ leavesRest host log s action) ∧
          (s.totalAllocated < s'.totalAllocated → action.reserves = true) := by
  have kept := wellKept_of_run run
  obtain ⟨within, exactly⟩ := run.invariant_exactly (I := PaidWithinRecords)
    (by
      intro s deployed
      obtain ⟨-, noClaims, -⟩ := deployed_books deployed
      rw [PaidWithinRecords, noClaims]
      exact Store.all_empty)
    (fun _ _ _ _ _ run within stepped =>
      (step_refines stepped).paidWithin_iff (wellKept_of_run run) within)
  refine ⟨⟨within, ?_, ?_, ?_⟩, fun {action output s'} stepped => ⟨exactly stepped, ?_⟩⟩
  · exact within.imp fun _ _ paid => sub_nonneg.mpr paid.1.2
  · exact fun _ _ computed => releasedAllocation_le kept within computed
  · exact fun _ _ _ listed active stored unsuspended stale =>
      expireStaleClaim_succeeds kept within listed active stored unsuspended stale
  · intro raised
    apply bookEvent_reserves
    by_contra releases
    have lower := (step_refines stepped).allocated_le kept within (Bool.eq_false_iff.mpr releases)
    exact absurd raised (not_lt.mpr lower)

/-- In such a run a claim paid in part is overridden with more than it was paid. -/
theorem never_paid_beyond_record_sample :
    ∃ log s, (poolSystem sampleHost).Run (leavesRest sampleHost) log s ∧
      (∃ claim ∈ s.claims.get (computeClaimId sampleHost (party 11) 0),
        claim.streamed = 511 ∧ claim.entitlement = 600) ∧ PaidWithinRecords s := by
  obtain ⟨log, s, run, ends⟩ := System.exists_run_of_replay (poolSystem sampleHost)
    (leavesRest sampleHost) samplePool_deployed
    (sampleOpening 1000 ++ [afterDays 30,
      callBy 11 (.claimStream (computeClaimId sampleHost (party 11) 0) (party 21))] ++
      overrideBoth 11 0 600 1)
    (fun _ s => ∃ claim ∈ s.claims.get (computeClaimId sampleHost (party 11) 0),
      claim.streamed = 511 ∧ claim.entitlement = 600) (by decide +kernel)
  exact ⟨log, s, run, ends, (never_paid_beyond_record sampleHost run).1.1⟩

/-- A claim that was paid 511 of 1000 is overridden with 500: it is paid beyond its
record, and its cancellation raises the allocation aggregate. -/
theorem override_below_payments :
    ∃ log s output s', (poolSystem sampleHost).Run System.anyStep log s ∧ ¬ PaidWithinRecords s ∧
      poolStep sampleHost s (callBy 1 (.cancelClaim (computeClaimId sampleHost (party 11) 0))) =
        .ok (output, s') ∧
      s.totalAllocated < s'.totalAllocated := by
  obtain ⟨log, s, output, s', -, -, run, cancelled, -, overpaid, raised⟩ :=
    System.exists_continuation_of_replay (poolSystem sampleHost) System.anyStep System.anyStep
      samplePool_deployed
      (sampleOpening 1000 ++ [afterDays 30,
        callBy 11 (.claimStream (computeClaimId sampleHost (party 11) 0) (party 21))] ++
        overrideBoth 11 0 500 1)
      (callBy 1 (.cancelClaim (computeClaimId sampleHost (party 11) 0))) []
      (fun s s' _ _ => ¬ PaidWithinRecords s ∧ s.totalAllocated < s'.totalAllocated)
      (by decide +kernel)
  exact ⟨log, s, output, s', run, overpaid, cancelled, raised⟩

end ProtectionPool
