/-
Module: ProtectionPool.Proofs.WellKept
Purpose: What holds of the books in every run, whatever its steps: amounts are
  not negative, a claim pays nothing before it is active and its schedule spans
  the vesting period, and the reservations never exceed the aggregate kept over
  them.
Trusted boundary: none
Main exports: Claim.WellKept, Books.WellKept, BookStep.wellKept, wellKept_of_run
-/
import ProtectionPool.Books.Refinement

namespace ProtectionPool

open Checked

variable {D : Type}

/-- What every stored claim satisfies. -/
structure Claim.WellKept (claim : Claim) : Prop where
  positive : 0 < claim.entitlement
  streamedNonneg : 0 ≤ claim.streamed
  used : claim.status ≠ .unused
  unpaid : claim.status = .reserved ∨ claim.status.isPending = true → claim.streamed = 0
  schedule : claim.status = .active →
    claim.vestingEndsLedger = claim.cooldownEndsLedger + vestingLedgers

/-- What a claim holds in the allocation ledger: a live one the part of its
entitlement that was not paid yet. -/
def Claim.reserved (claim : Claim) : Int :=
  if claim.status.isLive then claim.entitlement - claim.streamed else 0

/-- What is still reserved for a claim: nothing unless it is live, and nothing
once it was paid more than it carries. -/
def Claim.outstanding (claim : Claim) : Int :=
  if claim.status.isLive then max (claim.entitlement - claim.streamed) 0 else 0

variable [DecidableEq D]

/-- The unconditional invariant of the books. -/
structure Books.WellKept (b : Books D) : Prop where
  liquid : 0 ≤ b.liquid
  amounts : Store.All (fun _ record => 0 ≤ record.amount) b.stakes
  claims : Store.All (fun _ claim => Claim.WellKept claim) b.claims
  staked : Store.All (fun _ claim => ∃ record, b.stakes.get claim.wallet = some record) b.claims
  allocatedFits : b.totalAllocated ≤ i128Max
  covered : Store.total Claim.outstanding b.claims ≤ b.totalAllocated

variable {idOf : Address → BytesN 32 → D} {event : BookEvent D} {b b' : Books D}

theorem Claim.outstanding_nonneg (claim : Claim) : 0 ≤ claim.outstanding := by
  unfold Claim.outstanding
  split_ifs
  · exact le_max_right _ _
  · exact le_refl 0

/-- The reservations together are not negative, so neither is the aggregate. -/
theorem Books.WellKept.allocated_nonneg (kept : b.WellKept) : 0 ≤ b.totalAllocated :=
  (Store.total_nonneg fun _ claim _ => claim.outstanding_nonneg).trans kept.covered

/-- The aggregate covers what is outstanding for any one claim. -/
theorem Books.WellKept.outstanding_le (kept : b.WellKept) {claimId : D} {claim : Claim}
    (listed : b.claims.get claimId = some claim) : claim.outstanding ≤ b.totalAllocated :=
  (Store.le_total (fun _ claim _ => claim.outstanding_nonneg) listed).trans kept.covered

/-- An identifier whose claim is unused is not listed at all. -/
theorem Books.WellKept.absent (kept : b.WellKept) {claimId : D}
    (unused : ∀ claim, b.claims.get claimId = some claim → claim.status = .unused) :
    b.claims.get claimId = none := by
  cases listed : b.claims.get claimId with
  | none => rfl
  | some claim => exact absurd (unused claim listed) (kept.claims _ _ listed).used

/-! ### Step lemmas -/

theorem BookStep.liquid (step : BookStep idOf event b b') (liquid : 0 ≤ b.liquid) :
    0 ≤ b'.liquid := by
  cases step with
  | staked positive _ payment =>
      simp only [payment.1]
      exact add_nonneg liquid positive.le
  | exited _ _ _ _ afforded payment =>
      rcases payment with ⟨rest, -⟩ | ⟨rest, -⟩ <;> simp only [rest]
      · exact sub_nonneg.mpr afforded
      · exact liquid
  | streamed _ _ _ _ _ afforded payment =>
      simp only [payment.1]
      split_ifs
      · exact sub_nonneg.mpr afforded
      · exact liquid
  | redeemed _ _ afforded | treasury afforded => exact afforded liquid
  | deployed afforded exchange =>
      simp only [exchange.1]
      exact sub_nonneg.mpr afforded
  | queued | admitted | released | queueExpired | unlocked | approved | approvalExpired
  | staleExpired | droppedPending | reversed | overridden | kept | clock | amended | restarted =>
      exact liquid

theorem BookStep.amounts (step : BookStep idOf event b b')
    (amounts : Store.All (fun _ record => 0 ≤ record.amount) b.stakes) :
    Store.All (fun _ record => 0 ≤ record.amount) b'.stakes := by
  intro wallet record' stored'
  cases step.depositChange stored' with
  | made deposit positive => exact positive.le
  | left stored empty => exact empty.ge
  | kept stored amount => exact (amounts _ _ stored).trans_eq amount.symm

/-- A new claim is well kept. -/
theorem freshClaim_wellKept {wallet : Address} {txHash : BytesN 32}
    {hackTimestamp tier deadline : Nat} {entitlement stake : Int} {status : ClaimStatus}
    (positive : 0 < entitlement) (used : status ≠ .unused) (inactive : status ≠ .active) :
    (freshClaim wallet txHash hackTimestamp entitlement stake tier status deadline).WellKept where
  positive := positive
  streamedNonneg := le_refl 0
  used := used
  unpaid := fun _ => rfl
  schedule := fun active => absurd active inactive

/-- A status that is not an admission status nor active asks nothing new. -/
theorem Claim.WellKept.ended {claim : Claim} (kept : claim.WellKept) {status : ClaimStatus}
    (ended : status = .expired ∨ status = .cancelled) :
    { claim with status := status }.WellKept where
  positive := kept.positive
  streamedNonneg := kept.streamedNonneg
  used := by rcases ended with rfl | rfl <;> simp
  unpaid := by rcases ended with rfl | rfl <;> simp [ClaimStatus.isPending]
  schedule := by rcases ended with rfl | rfl <;> simp

/-- A payout leaves an active claim active or completes it. -/
theorem Claim.WellKept.paid {claim : Claim} (kept : claim.WellKept)
    (active : claim.status = .active) {amount : Int} (nonneg : 0 ≤ amount) {now : Nat} :
    (claim.paid amount now).WellKept := by
  have status : (claim.paid amount now).status = .active ∨
      (claim.paid amount now).status = .completed := by
    simp only [Claim.paid, active]
    split_ifs
    · exact .inr rfl
    · exact .inl rfl
  refine ⟨kept.positive, add_nonneg kept.streamedNonneg nonneg, ?_, ?_, fun _ => ?_⟩
  · rcases status with status | status <;> rw [status] <;> decide
  · rcases status with status | status <;> rw [status] <;> simp [ClaimStatus.isPending]
  · exact kept.schedule active

theorem carriedStreamed_nonneg (claims : Store.All (fun _ claim => Claim.WellKept claim) b.claims)
    (claimId : D) : 0 ≤ carriedStreamed (b.claims.get claimId) := by
  cases listed : b.claims.get claimId with
  | none => exact le_refl 0
  | some claim =>
      simp only [carriedStreamed]
      split_ifs
      · exact (claims claimId claim listed).streamedNonneg
      · exact le_refl 0

theorem BookStep.claims_wellKept (step : BookStep idOf event b b')
    (claims : Store.All (fun _ claim => Claim.WellKept claim) b.claims) :
    Store.All (fun _ claim => Claim.WellKept claim) b'.claims := by
  cases step with
  | queued _ _ eligible =>
      exact claims.set (freshClaim_wellKept eligible.positive (by decide) (by decide))
  | admitted _ _ eligible _ _ _ admission =>
      exact claims.set (freshClaim_wellKept eligible.positive
        (ClaimStatus.ne_of_isPending admission.pending rfl)
        (ClaimStatus.ne_of_isPending admission.pending rfl))
  | released listed _ _ _ _ _ admission =>
      exact claims.set (freshClaim_wellKept (claims _ _ listed).positive
        (ClaimStatus.ne_of_isPending admission.pending rfl)
        (ClaimStatus.ne_of_isPending admission.pending rfl))
  | queueExpired listed | approvalExpired listed | staleExpired listed =>
      exact claims.update listed fun kept => kept.ended (.inl rfl)
  | droppedPending listed | reversed listed =>
      exact claims.update listed fun kept => kept.ended (.inr rfl)
  | unlocked listed pending =>
      refine claims.update listed fun kept => ⟨kept.positive, kept.streamedNonneg, nofun, ?_, ?_⟩
      · intro _
        exact kept.unpaid (.inr (by rw [pending]; rfl))
      · intro active
        cases active
  | approved listed awaiting =>
      refine claims.update listed fun kept => ⟨kept.positive, kept.streamedNonneg, nofun, ?_, ?_⟩
      · intro _
        exact kept.unpaid (.inr (by rw [awaiting]; rfl))
      · intro _
        rfl
  | streamed listed active unpaid positive =>
      exact claims.update listed fun kept => kept.paid active positive.le
  | overridden _ _ _ _ positive =>
      refine claims.set ⟨positive, carriedStreamed_nonneg claims _, nofun, ?_, fun _ => rfl⟩
      rintro (reserved | pending)
      · cases reserved
      · cases pending
  | restarted _ listed =>
      exact claims.update listed fun kept =>
        ⟨kept.positive, kept.streamedNonneg, kept.used, kept.unpaid, kept.schedule⟩
  | staked | exited | redeemed | deployed | kept | treasury | clock | amended => exact claims

/-- A wallet that has a stake record keeps having one. -/
theorem BookStep.records_kept (step : BookStep idOf event b b') {wallet : Address}
    (stored : ∃ record, b.stakes.get wallet = some record) :
    ∃ record, b'.stakes.get wallet = some record := by
  cases step with
  | unlocked | streamed | redeemed | deployed | kept | treasury | clock => exact stored
  | _ => exact Store.exists_get_set stored

theorem BookStep.claims_staked (step : BookStep idOf event b b')
    (staked : Store.All (fun _ claim => ∃ record, b.stakes.get claim.wallet = some record)
      b.claims) :
    Store.All (fun _ claim => ∃ record, b'.stakes.get claim.wallet = some record) b'.claims := by
  have carried : Store.All (fun _ claim => ∃ record, b'.stakes.get claim.wallet = some record)
      b.claims := staked.imp fun _ _ stored => step.records_kept stored
  cases step with
  | queued | admitted | released | overridden =>
      exact carried.set ⟨_, Store.get_set_self _ _ _⟩
  | queueExpired listed | unlocked listed | approved listed | approvalExpired listed
  | staleExpired listed | streamed listed | droppedPending listed | reversed listed
  | restarted _ listed =>
      exact carried.update listed id
  | staked | exited | redeemed | deployed | kept | treasury | clock | amended => exact carried

/-! ### Reservations -/

theorem Claim.reserved_of_live {claim : Claim} (live : claim.status.isLive = true) :
    claim.reserved = claim.entitlement - claim.streamed := if_pos live

theorem Claim.reserved_of_not_live {claim : Claim} (ended : claim.status.isLive = false) :
    claim.reserved = 0 := by
  simp [Claim.reserved, ended]

/-- What is outstanding for a claim is what it holds, unless it was overpaid. -/
theorem Claim.outstanding_eq_max (claim : Claim) : claim.outstanding = max claim.reserved 0 := by
  unfold Claim.outstanding Claim.reserved
  split_ifs
  · rfl
  · exact (max_self 0).symm

theorem Claim.outstanding_of_live {claim : Claim} (live : claim.status.isLive = true) :
    claim.outstanding = max (claim.entitlement - claim.streamed) 0 := if_pos live

theorem Claim.outstanding_of_not_live {claim : Claim} (ended : claim.status.isLive = false) :
    claim.outstanding = 0 := by
  simp [Claim.outstanding, ended]

theorem le_saturatingSub {x y z : Int} (fits : z ≤ i128Max) (below : z ≤ x - y) :
    z ≤ saturatingSub x y :=
  le_saturateI128 fits below

/-- Releasing a live claim's reservation leaves enough for all others. -/
theorem Books.WellKept.covered_release (kept : b.WellKept) {claim : Claim}
    (live : claim.status.isLive = true) :
    Store.total Claim.outstanding b.claims - claim.outstanding ≤
      saturatingSub b.totalAllocated (claim.entitlement - claim.streamed) := by
  have covered := kept.covered
  have fits := kept.allocatedFits
  have atLeast : claim.entitlement - claim.streamed ≤ claim.outstanding := by
    rw [Claim.outstanding_of_live live]
    exact le_max_left _ _
  have nonneg := claim.outstanding_nonneg
  exact le_saturatingSub (by omega) (by omega)

/-- What an override finds released covers all claims but the one it replaces. -/
theorem Books.WellKept.covered_afterRelease (kept : b.WellKept) (claimId : D) :
    Store.total Claim.outstanding b.claims -
        Store.share Claim.outstanding (b.claims.get claimId) ≤
      b.afterRelease (b.claims.get claimId) := by
  cases listed : b.claims.get claimId with
  | none => simpa [Books.afterRelease] using kept.covered
  | some claim =>
      by_cases live : claim.status.isLive = true
      · simpa [Books.afterRelease, live] using kept.covered_release live
      · have ended := Claim.outstanding_of_not_live (Bool.eq_false_iff.mpr live)
        simpa [Books.afterRelease, live, ended] using kept.covered

/-- What is asked of an active claim is not asked of a pending one. -/
theorem forall_active_of_pending {P : Claim → Prop} {claimId : D} {claim : Claim}
    (listed : b.claims.get claimId = some claim) (pending : claim.status.isPending = true) :
    ∀ other ∈ b.claims.get claimId, other.status = .active → P other := by
  intro other found active
  obtain rfl := Option.mem_unique listed found
  exact absurd active (ClaimStatus.ne_of_isPending pending rfl)

/-- The total once one listed claim is replaced. -/
theorem total_replace (weight : Claim → Int) {claims : Store D Claim} {claimId : D}
    {claim claim' : Claim} (listed : claims.get claimId = some claim) :
    Store.total weight (claims.set claimId claim') =
      Store.total weight claims - weight claim + weight claim' := by
  rw [Store.total_set, listed, Store.share_some]

/-- The total once a listed claim is replaced by one that weighs nothing. -/
theorem total_ended (weight : Claim → Int) {claims : Store D Claim} {claimId : D}
    {claim claim' : Claim} (listed : claims.get claimId = some claim)
    (ended : weight claim' = 0) :
    Store.total weight (claims.set claimId claim') = Store.total weight claims - weight claim := by
  rw [total_replace weight listed, ended, add_zero]

/-- An unused identifier weighs nothing when only live claims do. -/
theorem share_unused {weight : Claim → Int}
    (idle : ∀ {claim : Claim}, claim.status.isLive = false → weight claim = 0)
    {claims : Store D Claim} {claimId : D}
    (unused : ∀ claim, claims.get claimId = some claim → claim.status = .unused) :
    Store.share weight (claims.get claimId) = 0 := by
  cases listed : claims.get claimId with
  | none => rfl
  | some claim =>
      apply idle
      rw [unused claim listed]
      rfl

omit [DecidableEq D] in
/-- A claim just admitted holds its whole entitlement. -/
theorem reserved_admission {record : StakeRecord D} {wallet : Address} {txHash : BytesN 32}
    {hackTimestamp tier deadline : Nat} {entitlement stake : Int} {status : ClaimStatus}
    (admission : b.Admission record status) :
    (freshClaim wallet txHash hackTimestamp entitlement stake tier status deadline).reserved =
      entitlement := by
  rw [Claim.reserved_of_live (ClaimStatus.isLive_of_isPending admission.pending)]
  simp only [freshClaim, sub_zero]

/-- A payout takes its amount off what the claim holds. -/
theorem reserved_paid {claim : Claim} (active : claim.status = .active) {amount : Int}
    (within : claim.streamed + amount ≤ claim.entitlement) {now : Nat} :
    (claim.paid amount now).reserved = claim.reserved - amount := by
  have held : claim.reserved = claim.entitlement - claim.streamed :=
    Claim.reserved_of_live (by rw [active]; rfl)
  by_cases full : claim.streamed + amount ≥ claim.entitlement
  · have completed : (claim.paid amount now).status = .completed := if_pos full
    rw [Claim.reserved_of_not_live (by rw [completed]; rfl)]
    omega
  · have stays : (claim.paid amount now).status = .active := (if_neg full).trans active
    rw [Claim.reserved_of_live (by rw [stays]; rfl)]
    simp only [Claim.paid]
    omega

omit [DecidableEq D] in
/-- A claim just admitted has its whole entitlement outstanding. -/
theorem outstanding_admission {record : StakeRecord D} {wallet : Address} {txHash : BytesN 32}
    {hackTimestamp tier deadline : Nat} {entitlement stake : Int} {status : ClaimStatus}
    (positive : 0 < entitlement) (admission : b.Admission record status) :
    (freshClaim wallet txHash hackTimestamp entitlement stake tier status deadline).outstanding =
      entitlement := by
  rw [Claim.outstanding_eq_max, reserved_admission admission, max_eq_left positive.le]

/-- A payout takes its amount off what is outstanding. -/
theorem outstanding_paid {claim : Claim} (active : claim.status = .active) {amount : Int}
    (within : claim.streamed + amount ≤ claim.entitlement) (positive : 0 < amount) (now : Nat) :
    (claim.paid amount now).outstanding = claim.outstanding - amount := by
  have held : claim.reserved = claim.entitlement - claim.streamed :=
    Claim.reserved_of_live (by rw [active]; rfl)
  rw [Claim.outstanding_eq_max, Claim.outstanding_eq_max, reserved_paid active within]
  omega

theorem BookStep.covered (step : BookStep idOf event b b') (kept : b.WellKept) :
    Store.total Claim.outstanding b'.claims ≤ b'.totalAllocated := by
  have covered := kept.covered
  cases step with
  | queued _ _ _ unused =>
      rw [Store.total_set, share_unused Claim.outstanding_of_not_live unused,
        Claim.outstanding_of_not_live rfl]
      simpa using covered
  | admitted _ _ eligible unused _ _ admission =>
      simp only [Books.enterClaim]
      rw [Store.total_set, share_unused Claim.outstanding_of_not_live unused,
        outstanding_admission eligible.positive admission, sub_zero]
      exact Int.add_le_add_right covered _
  | released listed reserved _ _ _ _ admission =>
      have held := Claim.outstanding_of_not_live (by rw [reserved]; rfl)
      simp only [Books.enterClaim]
      rw [total_replace _ listed, held, sub_zero,
        outstanding_admission (kept.claims _ _ listed).positive admission]
      exact Int.add_le_add_right covered _
  | queueExpired listed reserved =>
      rw [total_ended _ listed (Claim.outstanding_of_not_live rfl),
        Claim.outstanding_of_not_live (by rw [reserved]; rfl), sub_zero]
      exact covered
  | unlocked listed pending =>
      rw [Store.total_set_of_eq _ listed]
      · exact covered
      · rw [Claim.outstanding_of_live rfl, Claim.outstanding_of_live (by rw [pending]; rfl)]
  | approved listed awaiting =>
      rw [Store.total_set_of_eq _ listed]
      · exact covered
      · rw [Claim.outstanding_of_live rfl, Claim.outstanding_of_live (by rw [awaiting]; rfl)]
        rfl
  | approvalExpired listed awaiting =>
      have unpaid := (kept.claims _ _ listed).unpaid (.inr (by rw [awaiting]; rfl))
      have released := kept.covered_release (by rw [awaiting]; rfl)
      rw [unpaid, sub_zero] at released
      rw [total_ended _ listed (Claim.outstanding_of_not_live rfl)]
      exact released
  | staleExpired listed active =>
      rw [total_ended _ listed (Claim.outstanding_of_not_live rfl)]
      exact kept.covered_release (by rw [active]; rfl)
  | streamed listed active unpaid positive vested =>
      have claimKept := kept.claims _ _ listed
      have within := vested claimKept.positive.le (claimKept.schedule active)
      have fits := kept.allocatedFits
      rw [total_replace _ listed, outstanding_paid active within positive]
      refine le_saturatingSub ?_ ?_ <;> omega
  | droppedPending listed pending =>
      rw [total_ended _ listed (Claim.outstanding_of_not_live rfl)]
      exact kept.covered_release (ClaimStatus.isLive_of_isPending pending)
  | reversed listed active =>
      rw [total_ended _ listed (Claim.outstanding_of_not_live rfl)]
      exact kept.covered_release (by rw [active]; rfl)
  | @overridden _ claimId req record _ _ _ _ _ positive =>
      have released := kept.covered_afterRelease claimId
      have carried := carriedStreamed_nonneg kept.claims claimId
      rw [Store.total_set, Claim.outstanding_of_live rfl]
      simp only [Claim.activated, OverrideRequest.claim, freshClaim]
      omega
  | restarted _ listed =>
      rw [Store.total_set_of_eq _ listed]
      · exact covered
      · rfl
  | staked | exited | redeemed | deployed | kept | treasury | clock | amended => exact covered

theorem BookStep.allocatedFits (step : BookStep idOf event b b')
    (fits : b.totalAllocated ≤ i128Max) : b'.totalAllocated ≤ i128Max := by
  cases step with
  | admitted _ _ _ _ entered | released _ _ _ _ entered => exact entered.2
  | overridden _ _ _ _ _ _ _ entered => exact entered.2
  | approvalExpired | staleExpired | streamed | droppedPending | reversed =>
      exact saturateI128_le _
  | staked | exited | queued | queueExpired | unlocked | approved | redeemed | deployed | kept
  | treasury | clock | amended | restarted => exact fits

/-- Every entry keeps the books well. -/
theorem BookStep.wellKept (step : BookStep idOf event b b') (kept : b.WellKept) :
    b'.WellKept where
  liquid := step.liquid kept.liquid
  amounts := step.amounts kept.amounts
  claims := step.claims_wellKept kept.claims
  staked := step.claims_staked kept.staked
  allocatedFits := step.allocatedFits kept.allocatedFits
  covered := step.covered kept

/-- The books are well kept in every run. -/
theorem wellKept_of_run {host : Host D}
    {guard : System.Guard (State D) (Action D) (Output D)}
    {log : List (Entry (State D) (Action D) (Output D))} {s : State D}
    (run : (poolSystem host).Run guard log s) : (s.books host).WellKept := by
  refine run.invariant (P := fun _ s => (s.books host).WellKept) ?_ ?_
  · intro s deployed
    obtain ⟨noStakes, noClaims, -, allocated, -, liquid, -⟩ := deployed_books deployed
    refine ⟨liquid, ?_, ?_, ?_, ?_, ?_⟩
    · simp only [State.books, noStakes, Store.all_empty]
    · simp only [State.books, noClaims, Store.all_empty]
    · simp only [State.books, noClaims, Store.all_empty]
    · simp only [State.books, allocated]
      decide
    · simp only [State.books, allocated, noClaims, Store.total_empty, le_refl]
  · intro _ _ _ _ _ _ kept _ stepped
    exact (step_refines stepped).wellKept kept

end ProtectionPool
