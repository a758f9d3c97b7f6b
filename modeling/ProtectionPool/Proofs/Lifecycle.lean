/-
Module: ProtectionPool.Proofs.Lifecycle
Purpose: The life of a claim.  An identifier is submitted once at most, its
  claim moves along the listed transitions only, and what was claimed is pinned;
  executed overrides alone start a claim over, and never a completed one.
Trusted boundary: none
Main exports: ClaimStatus.succeeds, Executes, LawfulChange, LawfulStep,
  claim_lifecycle
-/
import ProtectionPool.Proofs.TwoOfTwo
import ProtectionPool.Proofs.WellKept

namespace ProtectionPool

variable {D : Type}

/-! ### What a claim may become -/

/-- The transitions of a claim apart from overrides. -/
def ClaimStatus.succeeds (status status' : ClaimStatus) : Bool :=
  match status, status' with
  | .reserved, .pendingTime | .reserved, .awaitingApproval | .reserved, .expired => true
  | .pendingTime, .awaitingApproval | .pendingTime, .cancelled => true
  | .awaitingApproval, .active | .awaitingApproval, .expired | .awaitingApproval, .cancelled => true
  | .active, .completed | .active, .expired | .active, .cancelled => true
  | _, _ => false

/-- How a claim may change outside overrides: what was claimed stays, nothing
paid is taken back, and the status stays or moves along a listed transition. -/
structure OrdinaryChange (claim claim' : Claim) : Prop where
  entitlement : claim'.entitlement = claim.entitlement
  tier : claim'.tier = claim.tier
  hackTimestamp : claim'.hackTimestamp = claim.hackTimestamp
  streamed : claim.streamed ≤ claim'.streamed
  status : claim'.status = claim.status ∨ claim.status.succeeds claim'.status = true

/-- How a claim may change in a step: an executed override of it puts any but a
completed claim into effect, every other step changes it in the ordinary way.
Its wallet and its transaction stay in either case. -/
structure LawfulChange (overridden : Prop) (claim claim' : Claim) : Prop where
  wallet : claim'.wallet = claim.wallet
  txHash : claim'.txHash = claim.txHash
  change : (overridden ∧ claim.status ≠ .completed ∧ claim'.status = .active) ∨
    OrdinaryChange claim claim'

/-- The identifier a call submits. -/
def Action.submission (host : Host D) : Action D → Option D
  | .invoke _ (.submitClaim _ wallet txHash _ _ _ _ _) => some (computeClaimId host wallet txHash)
  | _ => none

variable [DecidableEq D]

/-- An action executed an override of an identifier: it approved one and left no
request pending. -/
def Register.Executed (host : Host D) (r' : Register D) (action : Action D) (claimId : D) : Prop :=
  ∃ caller terms, action.approvesOverride = some (caller, terms) ∧
    terms.claimId host = claimId ∧ r'.overrides.get claimId = none

instance decidableExecuted (host : Host D) (r' : Register D) (action : Action D) (claimId : D) :
    Decidable (r'.Executed host action claimId) :=
  decidable_of_iff
    (action.approvesOverride.any (fun approval => decide (approval.2.claimId host = claimId)) =
        true ∧ r'.overrides.get claimId = none)
    (by simp [Register.Executed, Option.any_eq_true, ← and_assoc])

/-- A step executes an override of an identifier. -/
def Executes (host : Host D) (claimId : D) (e : Entry (State D) (Action D) (Output D)) : Prop :=
  e.post.register.Executed host e.action claimId

instance (host : Host D) (claimId : D) (e : Entry (State D) (Action D) (Output D)) :
    Decidable (Executes host claimId e) :=
  decidableExecuted host e.post.register e.action claimId

/-- What a step may do to the claims: submit an identifier that was neither
submitted nor overridden before, list a claim by a submission or an override
only, and change the listed ones lawfully. -/
structure LawfulStep (host : Host D) (past : Log D) (e : Entry (State D) (Action D) (Output D)) :
    Prop where
  once : ∀ claimId, e.action.submission host = some claimId → ∀ earlier ∈ past,
    earlier.action.submission host ≠ some claimId ∧ ¬ Executes host claimId earlier
  listed : ∀ claimId claim', e.pre.claims.get claimId = none →
    e.post.claims.get claimId = some claim' →
      (e.action.submission host = some claimId ∧
        (claim'.status = .reserved ∨ claim'.status.isPending = true)) ∨
      (Executes host claimId e ∧ claim'.status = .active)
  changed : ∀ claimId claim, e.pre.claims.get claimId = some claim →
    ∃ claim', e.post.claims.get claimId = some claim' ∧
      LawfulChange (Executes host claimId e) claim claim'

variable {host : Host D} {r r' : Register D} {action : Action D} {output : Output D}
  {claimId : D} {claim claim' : Claim}

/-! ### Steps -/

/-- A claim a step leaves alone. -/
theorem OrdinaryChange.refl (claim : Claim) : OrdinaryChange claim claim :=
  ⟨rfl, rfl, rfl, le_refl _, .inl rfl⟩

/-- A claim whose status alone moves on. -/
theorem OrdinaryChange.move {status : ClaimStatus}
    (succeeds : claim.status.succeeds status = true) :
    OrdinaryChange claim { claim with status := status } :=
  ⟨rfl, rfl, rfl, le_refl _, .inr succeeds⟩

/-- A claim that is written under an identifier, seen from any other. -/
theorem ordinary_of_set {claims : Store D Claim} {owner : D} {written : Claim}
    {overridden : Claim → Prop}
    (change : ∀ claim, claims.get owner = some claim → OrdinaryChange claim written)
    (listed : claims.get claimId = some claim) :
    ∃ claim', (claims.set owner written).get claimId = some claim' ∧
      (overridden claim' ∨ OrdinaryChange claim claim') := by
  by_cases same : claimId = owner
  · subst same
    exact ⟨written, Store.get_set_self _ _ _, .inr (change claim listed)⟩
  · exact ⟨claim, by rw [Store.get_set_ne _ _ same, listed], .inr (.refl claim)⟩

/-- The change of a claim that the step found listed. -/
theorem forall_listed {claims : Store D Claim} {P : Claim → Prop}
    (listed : claims.get claimId = some claim) (holds : P claim) :
    ∀ other, claims.get claimId = some other → P other := by
  intro other found
  obtain rfl := Option.mem_unique listed found
  exact holds

theorem Claim.restarted_ordinary (claim : Claim) (now : Nat) :
    OrdinaryChange claim (claim.restarted now) := by
  unfold Claim.restarted
  split <;> exact ⟨rfl, rfl, rfl, le_refl _, .inl rfl⟩

/-- A payout completes the claim or leaves it in effect. -/
theorem Claim.paid_ordinary {amount : Int} (active : claim.status = .active)
    (positive : 0 < amount) (now : Nat) : OrdinaryChange claim (claim.paid amount now) := by
  refine ⟨rfl, rfl, rfl, ?_, ?_⟩
  · simp only [Claim.paid]
    omega
  · simp only [Claim.paid, active]
    split_ifs
    · exact .inr rfl
    · exact .inl rfl

omit [DecidableEq D] in
/-- A released claim is the queued one, admitted. -/
theorem released_ordinary {record : StakeRecord D} {status : ClaimStatus} {deadline : Nat}
    (kept : claim.WellKept) (reserved : claim.status = .reserved)
    (admission : r.Admission record status deadline) :
    OrdinaryChange claim
      (freshClaim claim.wallet claim.txHash claim.hackTimestamp claim.entitlement record.amount
        claim.tier status deadline) := by
  refine ⟨rfl, rfl, rfl, (kept.unpaid (.inl reserved)).le, .inr ?_⟩
  rw [reserved]
  rcases admission with ⟨rfl, -⟩ | ⟨rfl, -⟩
  · rfl
  · rfl

/-- No claim on file is unused. -/
theorem absent_of_unused {claims : Store D Claim}
    (kept : Store.All (fun _ claim => Claim.WellKept claim) claims)
    (unused : ∀ claim, claims.get claimId = some claim → claim.status = .unused) :
    claims.get claimId = none := by
  cases listed : claims.get claimId with
  | none => rfl
  | some claim => exact absurd (unused claim listed) (kept claimId claim listed).used

/-- A listed claim changes by an executed override of it or in the ordinary way. -/
theorem RegisterStep.claim_changed (step : RegisterStep host action output r r')
    (kept : Store.All (fun _ claim => Claim.WellKept claim) r.claims)
    (listed : r.claims.get claimId = some claim) :
    ∃ claim', r'.claims.get claimId = some claim' ∧
      ((r'.Executed host action claimId ∧ claim.status ≠ .completed ∧ claim'.status = .active) ∨
        OrdinaryChange claim claim') := by
  cases step with
  | queued submission | admitted submission =>
      refine ordinary_of_set ?_ listed
      intro other found
      rw [absent_of_unused kept submission.unused] at found
      cases found
  | released _ found reserved _ _ admission =>
      have change := released_ordinary (kept _ _ found) reserved admission
      exact ordinary_of_set (forall_listed found change) listed
  | queueExpired _ found status | approvalExpired found status | staleExpired found status
  | reversed found status =>
      refine ordinary_of_set (forall_listed found ?_) listed
      apply OrdinaryChange.move
      rw [status]
      rfl
  | @droppedPending _ _ _ dropped _ _ found pending =>
      refine ordinary_of_set (forall_listed found ?_) listed
      apply OrdinaryChange.move
      cases status : dropped.status <;> rw [status] at pending <;> first | rfl | cases pending
  | unlocked _ found status =>
      refine ordinary_of_set (forall_listed found ⟨rfl, rfl, rfl, le_refl _, .inr ?_⟩) listed
      rw [status]
      rfl
  | approved _ found status =>
      refine ordinary_of_set (forall_listed found ⟨rfl, rfl, rfl, le_refl _, .inr ?_⟩) listed
      rw [status]
      rfl
  | streamed _ found active _ _ _ _ _ positive =>
      exact ordinary_of_set (forall_listed found (Claim.paid_ordinary active positive _)) listed
  | restarted found =>
      exact ordinary_of_set (forall_listed found (Claim.restarted_ordinary _ _)) listed
  | @overrideExecuted _ _ caller wallet txHash entitlement tier _ _ _ _ _ _ unfinished =>
      by_cases same : claimId = computeClaimId host wallet txHash
      · subst same
        refine ⟨_, Store.get_set_self _ _ _, .inl ⟨?_, unfinished claim listed, rfl⟩⟩
        exact ⟨caller, ⟨wallet, txHash, entitlement, tier⟩, rfl, rfl, Store.get_remove_self _ _⟩
      · exact ⟨claim, by rw [← listed]; exact Store.get_set_ne _ _ same, .inr (.refl claim)⟩
  | funds | clock | oracleSet | pubkeySet | identitySet | coSignerSet | adminTransferred | paused
  | unpaused | staked | beneficiarySet | withdrawn | emergencyExited | suspended | unsuspended
  | overridePending | overrideCancelled | revoked =>
      exact ⟨claim, listed, .inr (.refl claim)⟩

/-- A claim is listed by a submission of its identifier or by an override of it. -/
theorem RegisterStep.claim_listed (step : RegisterStep host action output r r')
    (absent : r.claims.get claimId = none) (listed' : r'.claims.get claimId = some claim') :
    (action.submission host = some claimId ∧
        (claim'.status = .reserved ∨ claim'.status.isPending = true)) ∨
      (r'.Executed host action claimId ∧ claim'.status = .active) := by
  have old : ∀ {owner : D} {found : Claim} {P : Prop}, r.claims.get owner = some found →
      claimId = owner → P := by
    rintro owner found P listed rfl
    rw [absent] at listed
    cases listed
  have untouched : ∀ {P : Prop}, r.claims.get claimId = some claim' → P := by
    intro P listed
    exact old listed rfl
  cases step with
  | queued submission =>
      rcases Store.get_set_eq_some.mp listed' with ⟨rfl, rfl⟩ | ⟨-, before⟩
      · exact .inl ⟨rfl, .inl rfl⟩
      · exact untouched before
  | admitted submission admission =>
      rcases Store.get_set_eq_some.mp listed' with ⟨rfl, rfl⟩ | ⟨-, before⟩
      · refine .inl ⟨rfl, .inr ?_⟩
        rcases admission with ⟨rfl, -⟩ | ⟨rfl, -⟩ <;> rfl
      · exact untouched before
  | @overrideExecuted _ _ caller wallet txHash entitlement tier =>
      rcases Store.get_set_eq_some.mp listed' with ⟨rfl, rfl⟩ | ⟨-, before⟩
      · refine .inr ⟨⟨caller, ⟨wallet, txHash, entitlement, tier⟩, rfl, rfl, ?_⟩, rfl⟩
        exact Store.get_remove_self _ _
      · exact untouched before
  | released _ found | queueExpired _ found | unlocked _ found | approved _ found
  | streamed _ found =>
      rcases Store.get_set_eq_some.mp listed' with ⟨same, -⟩ | ⟨-, before⟩
      · exact old found same
      · exact untouched before
  | approvalExpired found | staleExpired found | droppedPending found | reversed found
  | restarted found =>
      rcases Store.get_set_eq_some.mp listed' with ⟨same, -⟩ | ⟨-, before⟩
      · exact old found same
      · exact untouched before
  | funds | clock | oracleSet | pubkeySet | identitySet | coSignerSet | adminTransferred | paused
  | unpaused | staked | beneficiarySet | withdrawn | emergencyExited | suspended | unsuspended
  | overridePending | overrideCancelled | revoked =>
      exact untouched listed'

/-- A submission finds its identifier unlisted and lists it. -/
theorem RegisterStep.submission_lists (step : RegisterStep host action output r r')
    (kept : Store.All (fun _ claim => Claim.WellKept claim) r.claims)
    (submits : action.submission host = some claimId) :
    r.claims.get claimId = none ∧ ∃ claim', r'.claims.get claimId = some claim' := by
  cases step with
  | queued submission | admitted submission =>
      cases submits
      exact ⟨absent_of_unused kept submission.unused, _, Store.get_set_self _ _ _⟩
  | funds fundsOnly => cases action, fundsOnly using Action.fundsCases <;> cases submits
  | _ => cases submits

/-- An executed override lists its identifier. -/
theorem RegisterStep.execution_lists (step : RegisterStep host action output r r')
    (executed : r'.Executed host action claimId) :
    ∃ claim', r'.claims.get claimId = some claim' := by
  obtain ⟨caller, terms, approves, named, removed⟩ := executed
  cases step with
  | overridePending =>
      cases approves
      subst named
      simp only [OverrideTerms.claimId, Store.get_set_self, reduceCtorEq] at removed
  | overrideExecuted =>
      cases approves
      subst named
      exact ⟨_, Store.get_set_self _ _ _⟩
  | funds fundsOnly => cases action, fundsOnly using Action.fundsCases <;> cases approves
  | _ => cases approves

/-! ### Runs -/

/-- Every identifier submitted or overridden so far is listed. -/
def SeenListed (host : Host D) (log : Log D) (s : State D) : Prop :=
  ∀ e ∈ log, ∀ claimId, e.action.submission host = some claimId ∨ Executes host claimId e →
    ∃ claim, s.claims.get claimId = some claim

/-- In every run in which the claim identifiers do not collide every step is
lawful: an identifier is submitted at most once and never after an override of
it, claims are listed and changed along the listed transitions only, and a claim
keeps its wallet and its transaction for ever. -/
theorem claim_lifecycle (host : Host D) {log : Log D} {s : State D}
    (run : (poolSystem host).Run System.anyStep log s) (distinct : ClaimIdsDistinct host log) :
    System.Along (LawfulStep host) log := by
  apply System.Along.of_assumption (A := ClaimIdsDistinct host) _ _ distinct
  · have along := run.along
      (P := fun past e => ClaimIdsDistinct host (e :: past) → LawfulStep host past e)
      (I := SeenListed host)
    refine (along ?_ ?_).1
    · intro s _ e member
      cases member
    · intro log s action output s' run seen _ stepped
      have step := step_registers stepped
      have kept := (wellKept_of_run run).claims
      have filed := filedByPair_of_run run
      have filed' := filed.step step
      constructor
      · intro distinct
        constructor
        · intro claimId submits earlier member
          have absent := (step.submission_lists kept submits).1
          constructor
          · intro again
            obtain ⟨claim, listed⟩ := seen earlier member claimId (.inl again)
            cases absent.symm.trans listed
          · intro executed
            obtain ⟨claim, listed⟩ := seen earlier member claimId (.inr executed)
            cases absent.symm.trans listed
        · intro claimId claim' absent listed'
          exact step.claim_listed absent listed'
        · intro claimId claim listed
          obtain ⟨claim', listed', change⟩ := step.claim_changed kept listed
          have before : Named host (namedPairs (⟨s, action, output, s'⟩ :: log)) claimId
              claim.wallet claim.txHash := (filed.claims claimId claim listed).mono
          have after := filed'.claims claimId claim' listed'
          have same := distinct _ after.named _ before.named
            (after.computed.symm.trans before.computed)
          exact ⟨claim', listed', (Prod.mk.inj same).1, (Prod.mk.inj same).2, change⟩
      · intro e member claimId marked
        rcases List.mem_cons.mp member with rfl | older
        · rcases marked with submits | executed
          · exact (step.submission_lists kept submits).2
          · exact step.execution_lists executed
        · obtain ⟨claim, listed⟩ := seen e older claimId marked
          obtain ⟨claim', listed', -⟩ := step.claim_changed kept listed
          exact ⟨claim', listed'⟩
  · exact fun _ _ => ClaimIdsDistinct.shrink

/-- In such a run a claim can be submitted, cancelled and put into effect again by
an override. -/
theorem claim_lifecycle_sample :
    ∃ log s, (poolSystem sampleHost).Run System.anyStep log s ∧
      ¬ Store.All (fun _ claim => claim.status ≠ .active) s.claims ∧
      System.Along (LawfulStep sampleHost) log := by
  obtain ⟨log, s, run, stands, distinct⟩ := System.exists_run_of_replay (poolSystem sampleHost)
    System.anyStep samplePool_deployed
    ([callBy 11 (.stake (party 11) 2000 (party 21)),
      callBy 12 (.stake (party 12) 100000 (party 22)),
      callBy 1 (.submitClaim (party 1) (party 11) 0 2000 1 1000000 0 0),
      callBy 1 (.cancelClaim (computeClaimId sampleHost (party 11) 0))] ++
      overrideBoth 11 0 10000 1)
    (fun log s => ¬ Store.All (fun _ claim => claim.status ≠ .active) s.claims ∧
      ClaimIdsDistinct sampleHost log) (by decide +kernel)
  exact ⟨log, s, run, stands, claim_lifecycle sampleHost run distinct⟩

end ProtectionPool
