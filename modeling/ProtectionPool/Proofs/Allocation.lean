/-
Module: ProtectionPool.Proofs.Allocation
Purpose: The allocation aggregate is exactly what the live claims have yet to be
  paid.  The single step that breaks this is an override of an active claim that
  was paid already: it releases the unpaid rest and reserves the full new
  entitlement, although the payments are carried over.
Trusted boundary: none
Main exports: AllocationLedger, carriesNothing, allocation_ledger_exact
-/
import ProtectionPool.Proofs.WellKept

namespace ProtectionPool

open Checked

variable {D : Type} [DecidableEq D]

/-- The allocation ledger: the aggregate is the sum of what the live claims
hold, so it is zero once no claim is live. -/
structure AllocationLedger (s : State D) : Prop where
  aggregate : s.totalAllocated = Store.total Claim.reserved s.claims
  idle : Store.All (fun _ claim => claim.status.isLive = false) s.claims → s.totalAllocated = 0

/-- No live claim was paid more than it carries. -/
def NotOverpaid (claims : Store D Claim) : Prop :=
  Store.All (fun _ claim => claim.status.isLive = true → claim.streamed ≤ claim.entitlement)
    claims

/-- The condition under which an entry keeps the aggregate exact: an override
carries no payments over. -/
def BookEvent.CarriesNothing (claims : Store D Claim) : BookEvent D → Prop
  | .overridden _ claimId _ => carriedStreamed (claims.get claimId) = 0
  | _ => True

instance (claims : Store D Claim) (event : BookEvent D) :
    Decidable (event.CarriesNothing claims) := by
  induction event using BookEvent.casesOn with
  | overridden => exact inferInstanceAs (Decidable (carriedStreamed _ = 0))
  | _ => exact inferInstanceAs (Decidable True)

variable {idOf : Address → BytesN 32 → D} {event : BookEvent D} {b b' : Books D}

/-! ### No overpayment without a carry -/

theorem BookStep.notOverpaid (step : BookStep idOf event b b') (kept : b.WellKept)
    (bounded : NotOverpaid b.claims) (clear : event.CarriesNothing b.claims) :
    NotOverpaid b'.claims := by
  cases step with
  | queued => exact bounded.set fun live => by cases live
  | admitted _ _ eligible => exact bounded.set fun _ => eligible.positive.le
  | released listed => exact bounded.set fun _ => (kept.claims _ _ listed).positive.le
  | queueExpired listed | approvalExpired listed | staleExpired listed | droppedPending listed
  | reversed listed => exact bounded.set fun live => by cases live
  | unlocked listed pending =>
      exact bounded.update listed fun below _ => below (by rw [pending]; rfl)
  | approved listed awaiting =>
      exact bounded.update listed fun below _ => below (by rw [awaiting]; rfl)
  | streamed listed active _ _ vested =>
      have claimKept := kept.claims _ _ listed
      exact bounded.set fun _ => vested claimKept.positive.le (claimKept.schedule active)
  | overridden _ _ _ _ positive =>
      refine bounded.set fun _ => ?_
      have nothing : carriedStreamed (b.claims.get _) = 0 := clear
      simp only [Claim.activated, OverrideRequest.claim, freshClaim, nothing]
      exact positive.le
  | restarted _ listed => exact bounded.update listed id
  | staked | exited | redeemed | deployed | kept | treasury | clock | amended => exact bounded

/-! ### The aggregate under an entry -/

/-- A live claim that was not overpaid releases exactly what it holds. -/
theorem release_exact (kept : b.WellKept) (bounded : NotOverpaid b.claims) {claimId : D}
    {claim : Claim} (listed : b.claims.get claimId = some claim)
    (live : claim.status.isLive = true) :
    saturatingSub b.totalAllocated (claim.entitlement - claim.streamed) =
      b.totalAllocated - claim.reserved := by
  have below := bounded claimId claim listed live
  have covered := kept.outstanding_le listed
  have fits := kept.allocatedFits
  rw [Claim.outstanding_of_live live] at covered
  rw [Claim.reserved_of_live live]
  refine saturateI128_of_fits ⟨?_, ?_⟩
  · exact le_trans (by decide) (show (0 : Int) ≤ _ by omega)
  · omega

theorem afterRelease_exact (kept : b.WellKept) (bounded : NotOverpaid b.claims) (claimId : D) :
    b.afterRelease (b.claims.get claimId) =
      b.totalAllocated - Store.share Claim.reserved (b.claims.get claimId) := by
  cases listed : b.claims.get claimId with
  | none => simp [Books.afterRelease]
  | some claim =>
      by_cases live : claim.status.isLive = true
      · simpa [Books.afterRelease, live] using release_exact kept bounded listed live
      · have ended := Claim.reserved_of_not_live (Bool.eq_false_iff.mpr live)
        simp [Books.afterRelease, live, ended]

/-- A payout takes its amount off the aggregate. -/
theorem payment_exact (kept : b.WellKept) {claimId : D} {claim : Claim}
    (listed : b.claims.get claimId = some claim) (active : claim.status = .active) {amount : Int}
    (within : claim.streamed + amount ≤ claim.entitlement) (positive : 0 < amount) :
    saturatingSub b.totalAllocated amount = b.totalAllocated - amount := by
  have covered := kept.outstanding_le listed
  have fits := kept.allocatedFits
  rw [Claim.outstanding_of_live (by rw [active]; rfl)] at covered
  refine saturateI128_of_fits ⟨?_, ?_⟩
  · exact le_trans (by decide) (show (0 : Int) ≤ _ by omega)
  · omega

/-- One entry keeps the aggregate exact exactly when it carries no payments over. -/
theorem BookStep.allocation_exact_iff (step : BookStep idOf event b b') (kept : b.WellKept)
    (bounded : NotOverpaid b.claims)
    (allocation : b.totalAllocated = Store.total Claim.reserved b.claims) :
    b'.totalAllocated = Store.total Claim.reserved b'.claims ↔ event.CarriesNothing b.claims := by
  cases step with
  | queued _ _ _ unused =>
      refine iff_of_true ?_ trivial
      rw [Store.total_set, share_unused Claim.reserved_of_not_live unused,
        Claim.reserved_of_not_live rfl, sub_zero, add_zero]
      exact allocation
  | admitted _ _ _ unused _ _ admission =>
      refine iff_of_true ?_ trivial
      simp only [Books.enterClaim]
      rw [Store.total_set, share_unused Claim.reserved_of_not_live unused,
        reserved_admission admission, sub_zero, allocation]
      rfl
  | released listed reserved _ _ _ _ admission =>
      have held := Claim.reserved_of_not_live (by rw [reserved]; rfl)
      refine iff_of_true ?_ trivial
      simp only [Books.enterClaim]
      rw [total_replace _ listed, held, reserved_admission admission, sub_zero, allocation]
      rfl
  | queueExpired listed reserved =>
      refine iff_of_true ?_ trivial
      rw [total_ended _ listed (Claim.reserved_of_not_live rfl),
        Claim.reserved_of_not_live (by rw [reserved]; rfl), sub_zero]
      exact allocation
  | unlocked listed pending =>
      refine iff_of_true ?_ trivial
      rw [Store.total_set_of_eq _ listed]
      · exact allocation
      · rw [Claim.reserved_of_live rfl, Claim.reserved_of_live (by rw [pending]; rfl)]
  | approved listed awaiting =>
      refine iff_of_true ?_ trivial
      rw [Store.total_set_of_eq _ listed]
      · exact allocation
      · rw [Claim.reserved_of_live rfl, Claim.reserved_of_live (by rw [awaiting]; rfl)]
        rfl
  | approvalExpired listed awaiting =>
      refine iff_of_true ?_ trivial
      have unpaid := (kept.claims _ _ listed).unpaid (.inr (by rw [awaiting]; rfl))
      have released := release_exact kept bounded listed (by rw [awaiting]; rfl)
      rw [unpaid, sub_zero] at released
      rw [total_ended _ listed (Claim.reserved_of_not_live rfl), ← allocation]
      exact released
  | staleExpired listed active | reversed listed active =>
      refine iff_of_true ?_ trivial
      rw [total_ended _ listed (Claim.reserved_of_not_live rfl), ← allocation]
      exact release_exact kept bounded listed (by rw [active]; rfl)
  | droppedPending listed pending =>
      refine iff_of_true ?_ trivial
      rw [total_ended _ listed (Claim.reserved_of_not_live rfl), ← allocation]
      exact release_exact kept bounded listed (ClaimStatus.isLive_of_isPending pending)
  | streamed listed active _ positive vested =>
      have claimKept := kept.claims _ _ listed
      have within := vested claimKept.positive.le (claimKept.schedule active)
      refine iff_of_true ?_ trivial
      calc saturatingSub b.totalAllocated _ = b.totalAllocated - _ :=
            payment_exact kept listed active within positive
        _ = _ := by
            rw [total_replace _ listed, reserved_paid active within, allocation]
            omega
  | @overridden _ claimId req record =>
      have released := afterRelease_exact kept bounded claimId
      rw [Store.total_set, Claim.reserved_of_live rfl, released]
      simp only [Claim.activated, OverrideRequest.claim, freshClaim, BookEvent.CarriesNothing]
      omega
  | restarted _ listed =>
      refine iff_of_true ?_ trivial
      rw [Store.total_set_of_eq _ listed]
      · exact allocation
      · rfl
  | staked | exited | redeemed | deployed | kept | treasury | clock | amended =>
      exact iff_of_true allocation trivial

/-! ### Runs -/

theorem AllocationLedger.of_aggregate {s : State D}
    (aggregate : s.totalAllocated = Store.total Claim.reserved s.claims) : AllocationLedger s where
  aggregate := aggregate
  idle := by
    intro ended
    rw [aggregate]
    refine Store.total_eq_zero fun claimId claim listed => ?_
    exact Claim.reserved_of_not_live (ended claimId claim listed)

/-- The steps that keep the aggregate exact: no override is executed on an active
claim that was paid already. -/
def carriesNothing (host : Host D) : System.Guard (State D) (Action D) (Output D) :=
  fun _ s action => (bookEvent host s action).CarriesNothing s.claims

instance (host : Host D) (log : List (Entry (State D) (Action D) (Output D))) (s : State D)
    (action : Action D) : Decidable (carriesNothing host log s action) :=
  inferInstanceAs (Decidable (BookEvent.CarriesNothing _ _))

/-- In every run of such steps no live claim is overpaid and the aggregate is
exact. -/
theorem allocation_of_run {host : Host D}
    {log : List (Entry (State D) (Action D) (Output D))} {s : State D}
    (run : (poolSystem host).Run (carriesNothing host) log s) :
    NotOverpaid s.claims ∧ s.totalAllocated = Store.total Claim.reserved s.claims := by
  refine run.invariant
    (P := fun _ s => NotOverpaid s.claims ∧
      s.totalAllocated = Store.total Claim.reserved s.claims) ?_ ?_
  · intro s deployed
    obtain ⟨-, noClaims, -, allocated, -⟩ := deployed_books deployed
    simp only [NotOverpaid, noClaims, allocated, Store.total_empty, Store.all_empty, and_self]
  · intro log s action output s' run books clear stepped
    have step := step_refines stepped
    have kept := wellKept_of_run run
    exact ⟨step.notOverpaid kept books.1 clear,
      (step.allocation_exact_iff kept books.1 books.2).mpr clear⟩

/-- In every run in which no override is executed on an active claim already paid
in part, the allocation ledger is exact.  A further step keeps it so exactly when
it is no such override. -/
theorem allocation_ledger_exact (host : Host D)
    {log : List (Entry (State D) (Action D) (Output D))} {s : State D}
    (run : (poolSystem host).Run (carriesNothing host) log s) :
    AllocationLedger s ∧
      ∀ {action output s'}, (poolSystem host).step s action = .ok (output, s') →
        (AllocationLedger s' ↔ carriesNothing host log s action) := by
  obtain ⟨bounded, aggregate⟩ := allocation_of_run run
  refine ⟨.of_aggregate aggregate, fun stepped => ?_⟩
  have exactly :=
    (step_refines stepped).allocation_exact_iff (wellKept_of_run run) bounded aggregate
  exact ⟨fun ledger => exactly.mp ledger.aggregate, fun clear => .of_aggregate (exactly.mpr clear)⟩

/-- Such runs reserve and pay. -/
theorem allocation_ledger_exact_sample :
    ∃ log s, (poolSystem sampleHost).Run (carriesNothing sampleHost) log s ∧
      s.totalAllocated = 4900 ∧ AllocationLedger s := by
  obtain ⟨log, s, run, ends⟩ := System.exists_run_of_replay (poolSystem sampleHost)
    (carriesNothing sampleHost) samplePool_deployed
    (sampleOpening 10000 ++ [afterDays 30,
      callBy 11 (.claimStream (computeClaimId sampleHost (party 11) 0) (party 21))])
    (fun _ s => s.totalAllocated = 4900) (by decide +kernel)
  exact ⟨log, s, run, ends, (allocation_ledger_exact sampleHost run).1⟩

/-- The claim of the opening is paid in part and overridden again with the same
terms: 10000 are reserved while 4900 are left to pay. -/
theorem reexecution_reserves_paid_part :
    ∃ log s, (poolSystem sampleHost).Run System.anyStep log s ∧ ¬ AllocationLedger s := by
  obtain ⟨log, s, run, ends⟩ := System.exists_run_of_replay (poolSystem sampleHost)
    System.anyStep samplePool_deployed
    (sampleOpening 10000 ++ [afterDays 30,
      callBy 11 (.claimStream (computeClaimId sampleHost (party 11) 0) (party 21))] ++
      overrideBoth 11 0 10000 1)
    (fun _ s => ¬ s.totalAllocated = Store.total Claim.reserved s.claims) (by decide +kernel)
  exact ⟨log, s, run, fun ledger => ends ledger.aggregate⟩

end ProtectionPool
