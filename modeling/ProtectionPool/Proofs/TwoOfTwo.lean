/-
Module: ProtectionPool.Proofs.TwoOfTwo
Purpose: An override takes effect only after two different parties asked for it.
  The roles of admin and co-signer are never held by one address, and a stored
  approval was made by the signer it names, in its role, for the terms of the
  request, since the request was last removed.
Trusted boundary: none
Main exports: OverrideTerms, ApprovedSince, TwoOfTwo, RolesApart,
  override_needs_both_parties
-/
import ProtectionPool.Proofs.ClaimIds

namespace ProtectionPool

variable {D : Type} [DecidableEq D]

/-! ### Approvals in the log -/

/-- The four values an override is approved for. -/
structure OverrideTerms where
  wallet : Address
  txHash : BytesN 32
  entitlement : Int
  tier : Nat
deriving DecidableEq

/-- The identifier of the claim an override is about. -/
def OverrideTerms.claimId (host : Host D) (terms : OverrideTerms) : D :=
  computeClaimId host terms.wallet terms.txHash

/-- The terms of a request. -/
def OverrideRequest.terms (req : OverrideRequest) : OverrideTerms :=
  ⟨req.wallet, req.txHash, req.entitlement, req.tier⟩

/-- The caller of an override approval and the terms approved. -/
def Action.approvesOverride : Action D → Option (Address × OverrideTerms)
  | .invoke _ (.approveOverride caller wallet txHash entitlement tier) =>
      some (caller, ⟨wallet, txHash, entitlement, tier⟩)
  | _ => none

/-- A step removes the pending request of a claim identifier. -/
def RemovesRequest (claimId : D) (e : Entry (State D) (Action D) (Output D)) : Prop :=
  (e.pre.overrides.get claimId).isSome = true ∧ e.post.overrides.get claimId = none

/-- A step is the approval of the terms by a party while it held a role. -/
def ApprovedAs (role : State D → Address) (signer : Address) (terms : OverrideTerms)
    (e : Entry (State D) (Action D) (Output D)) : Prop :=
  e.action.approvesOverride = some (signer, terms) ∧ role e.pre = signer

/-- A party approved the terms in a role since the pending request was last
removed. -/
def ApprovedSince (host : Host D) (role : State D → Address) (signer : Address)
    (terms : OverrideTerms) : Log D → Prop
  | [] => False
  | e :: past =>
      ¬ RemovesRequest (terms.claimId host) e ∧
        (ApprovedAs role signer terms e ∨ ApprovedSince host role signer terms past)

/-- The current holder of a role approved the terms, in this step or since the
pending request was last removed. -/
def HolderApproved (host : Host D) (role : State D → Address) (terms : OverrideTerms)
    (past : Log D) (e : Entry (State D) (Action D) (Output D)) : Prop :=
  ApprovedAs role (role e.pre) terms e ∨ ApprovedSince host role (role e.pre) terms past

/-- A step that executes an override, after which no request is pending, is
backed by two different parties. -/
def TwoOfTwo (host : Host D) (past : Log D) (e : Entry (State D) (Action D) (Output D)) : Prop :=
  ∀ caller terms, e.action.approvesOverride = some (caller, terms) →
    e.post.overrides.get (terms.claimId host) = none →
      e.pre.admin ≠ e.pre.coSigner ∧ HolderApproved host State.admin terms past e ∧
        HolderApproved host State.coSigner terms past e

variable {host : Host D} {r r' : Register D} {action : Action D} {output : Output D}
  {caller signer : Address} {terms : OverrideTerms} {claimId : D}

/-! ### The roles -/

/-- The co-signer is neither the admin nor the oracle. -/
structure Register.RolesApart (r : Register D) : Prop where
  notAdmin : r.coSigner ≠ r.admin
  notOracle : r.oracle ≠ r.coSigner

/-- Every setter keeps the roles apart. -/
theorem Register.RolesApart.step (apart : r.RolesApart)
    (step : RegisterStep host action output r r') : r'.RolesApart := by
  cases step with
  | oracleSet distinct | identitySet distinct => exact ⟨apart.notAdmin, distinct⟩
  | coSignerSet notOracle notAdmin => exact ⟨notAdmin, Ne.symm notOracle⟩
  | adminTransferred distinct => exact ⟨Ne.symm distinct, apart.notOracle⟩
  | _ => exact ⟨apart.notAdmin, apart.notOracle⟩

/-! ### What a step does to the requests -/

/-- An override approval writes the request with the caller's approval, or
executes it and removes it. -/
theorem RegisterStep.override_approved (step : RegisterStep host action output r r')
    (approves : action.approvesOverride = some (caller, terms)) :
    ∃ req, r.OverrideApproval host caller terms.wallet terms.txHash terms.entitlement terms.tier
        req ∧
      ((r.ready req = false ∧ r'.overrides = r.overrides.set (terms.claimId host) req) ∨
        (r.ready req = true ∧ r'.overrides = r.overrides.remove (terms.claimId host))) := by
  cases step with
  | overridePending approval unready =>
      cases approves
      exact ⟨_, approval, .inl ⟨unready, rfl⟩⟩
  | overrideExecuted approval ready =>
      cases approves
      exact ⟨_, approval, .inr ⟨ready, rfl⟩⟩
  | funds fundsOnly => cases action, fundsOnly using Action.fundsCases <;> cases approves
  | _ => cases approves

/-- Any other action writes no request. -/
theorem RegisterStep.requests_kept (step : RegisterStep host action output r r')
    (other : action.approvesOverride = none) {req : OverrideRequest}
    (stored : r'.overrides.get claimId = some req) : r.overrides.get claimId = some req := by
  cases step with
  | overridePending | overrideExecuted => cases other
  | @overrideCancelled _ _ _ wallet txHash =>
      by_cases same : claimId = computeClaimId host wallet txHash
      · rw [same, Store.get_remove_self] at stored
        cases stored
      · rwa [Store.get_remove_ne _ same] at stored
  | _ => exact stored

/-! ### The approvals on file -/

/-- The approvals of a request were made by the parties they name. -/
structure Approvals (host : Host D) (log : Log D) (req : OverrideRequest) : Prop where
  owner : ∀ signer, req.ownerApprover = some signer →
    ApprovedSince host State.admin signer req.terms log
  coSigner : ∀ signer, req.coSignerApprover = some signer →
    ApprovedSince host State.coSigner signer req.terms log

/-- Every pending request holds approvals that were made. -/
def ApprovalsOnFile (host : Host D) (log : Log D) (s : State D) : Prop :=
  Store.All (fun _ req => Approvals host log req) s.overrides

/-- An approval stands as long as its request does. -/
theorem ApprovedSince.stands {role : State D → Address} {past : Log D}
    {e : Entry (State D) (Action D) (Output D)}
    (approved : ApprovedSince host role signer terms past) {req : OverrideRequest}
    (stored : e.post.overrides.get (terms.claimId host) = some req) :
    ApprovedSince host role signer terms (e :: past) := by
  refine ⟨?_, .inr approved⟩
  rintro ⟨-, removed⟩
  rw [stored] at removed
  cases removed

/-- A recorded approval is the caller's own or one recorded before. -/
theorem approver_cases {holder : Address} {before : Option Address}
    (recorded : (if caller = holder then some holder else before) = some signer) :
    (caller = holder ∧ caller = signer) ∨ before = some signer := by
  split_ifs at recorded with own
  · exact .inl ⟨own, own.trans (Option.some.inj recorded)⟩
  · exact .inr recorded

/-- The approvals of the request a call approves: the caller's own, and those on
file before, made for the same terms. -/
theorem approvals_of_request {past : Log D} {e : Entry (State D) (Action D) (Output D)}
    (onFile : ApprovalsOnFile host past e.pre)
    (approves : e.action.approvesOverride = some (caller, terms)) {req : OverrideRequest}
    (approval : e.pre.register.OverrideApproval host caller terms.wallet terms.txHash
      terms.entitlement terms.tier req) (same : req.terms = terms) :
    (∀ signer, req.ownerApprover = some signer →
      ApprovedAs State.admin signer terms e ∨ ApprovedSince host State.admin signer terms past) ∧
    (∀ signer, req.coSignerApprover = some signer →
      ApprovedAs State.coSigner signer terms e ∨
        ApprovedSince host State.coSigner signer terms past) := by
  obtain rfl := approval.requested
  cases stored : e.pre.overrides.get (computeClaimId host terms.wallet terms.txHash) with
  | none =>
      -- a new request holds the caller's approval only
      have pending : e.pre.register.overrides.get _ = none := stored
      simp only [Register.request, pending, Option.getD_none]
      constructor
      · intro signer recorded
        rcases approver_cases recorded with ⟨own, rfl⟩ | none
        · exact .inl ⟨approves, own.symm⟩
        · cases none
      · intro signer recorded
        rcases approver_cases recorded with ⟨own, rfl⟩ | none
        · exact .inl ⟨approves, own.symm⟩
        · cases none
  | some old =>
      have pending : e.pre.register.overrides.get _ = some old := stored
      have before := onFile _ old stored
      have agrees : old.terms = terms := by
        rw [← same]
        simp only [Register.request, pending, Option.getD_some, OverrideRequest.terms]
      subst agrees
      simp only [Register.request, pending, Option.getD_some]
      constructor
      · intro signer recorded
        rcases approver_cases recorded with ⟨own, rfl⟩ | earlier
        · exact .inl ⟨approves, own.symm⟩
        · exact .inr (before.owner signer earlier)
      · intro signer recorded
        rcases approver_cases recorded with ⟨own, rfl⟩ | earlier
        · exact .inl ⟨approves, own.symm⟩
        · exact .inr (before.coSigner signer earlier)

/-- Where no identifiers collide the request a call approves is for the terms of
the call. -/
theorem request_terms {past : Log D} {e : Entry (State D) (Action D) (Output D)}
    (distinct : ClaimIdsDistinct host (e :: past))
    (filed : FiledByPair host (namedPairs past) e.pre.register)
    (approves : e.action.approvesOverride = some (caller, terms)) {req : OverrideRequest}
    (approval : e.pre.register.OverrideApproval host caller terms.wallet terms.txHash
      terms.entitlement terms.tier req) : req.terms = terms := by
  have called : e.action.named = some (terms.wallet, terms.txHash) := by
    cases action : e.action with
    | invoke env call =>
        rw [action] at approves
        cases call <;> cases approves
        rfl
    | _ =>
        rw [action] at approves
        cases approves
  obtain ⟨wallet, txHash⟩ := distinct.eq_of_named called (filed.request approval called)
  rw [OverrideRequest.terms, wallet, txHash, approval.entitlement, approval.tier]

/-- A step leaves only approvals on file that were made. -/
theorem ApprovalsOnFile.step {past : Log D} {e : Entry (State D) (Action D) (Output D)}
    (onFile : ApprovalsOnFile host past e.pre) (distinct : ClaimIdsDistinct host (e :: past))
    (filed : FiledByPair host (namedPairs past) e.pre.register)
    (filed' : FiledByPair host (namedPairs (e :: past)) e.post.register)
    (step : RegisterStep host e.action e.result e.pre.register e.post.register) :
    ApprovalsOnFile host (e :: past) e.post := by
  intro claimId req stored
  have own : claimId = req.terms.claimId host := (filed'.overrides claimId req stored).computed
  rw [own] at stored
  have standing : ∀ {earlier}, e.pre.overrides.get (req.terms.claimId host) = some earlier →
      earlier = req → Approvals host (e :: past) req := by
    rintro earlier before rfl
    have approvals := onFile _ _ before
    constructor
    · exact fun signer recorded => (approvals.owner signer recorded).stands stored
    · exact fun signer recorded => (approvals.coSigner signer recorded).stands stored
  cases approves : e.action.approvesOverride with
  | none => exact standing (step.requests_kept approves stored) rfl
  | some approved =>
      obtain ⟨caller, terms⟩ := approved
      obtain ⟨written, approval, outcome⟩ := step.override_approved approves
      have same := request_terms distinct filed approves approval
      have kept : ∀ {requests : Store D OverrideRequest},
          e.post.overrides = requests → requests.get (req.terms.claimId host) = some req := by
        rintro requests rfl
        exact stored
      rcases outcome with ⟨-, after⟩ | ⟨-, after⟩
      · rcases Store.get_set_eq_some.mp (kept after) with ⟨-, rfl⟩ | ⟨-, before⟩
        · -- the request the call approved
          obtain ⟨owner, coSigner⟩ := approvals_of_request onFile approves approval same
          rw [← same] at owner coSigner
          have stays : ¬ RemovesRequest (written.terms.claimId host) e := by
            rintro ⟨-, removed⟩
            rw [stored] at removed
            cases removed
          constructor
          · exact fun signer recorded => ⟨stays, owner signer recorded⟩
          · exact fun signer recorded => ⟨stays, coSigner signer recorded⟩
        · exact standing before rfl
      · by_cases other : req.terms.claimId host = terms.claimId host
        · have gone := kept after
          rw [other, Store.get_remove_self] at gone
          cases gone
        · have before := kept after
          rw [Store.get_remove_ne _ other] at before
          exact standing before rfl

/-- A step that executes an override is backed by both parties. -/
theorem twoOfTwo_step {past : Log D} {e : Entry (State D) (Action D) (Output D)}
    (onFile : ApprovalsOnFile host past e.pre) (distinct : ClaimIdsDistinct host (e :: past))
    (filed : FiledByPair host (namedPairs past) e.pre.register)
    (apart : e.pre.register.RolesApart)
    (step : RegisterStep host e.action e.result e.pre.register e.post.register) :
    TwoOfTwo host past e := by
  intro caller terms approves executed
  obtain ⟨req, approval, outcome⟩ := step.override_approved approves
  have same := request_terms distinct filed approves approval
  obtain ⟨owner, coSigner⟩ := approvals_of_request onFile approves approval same
  rcases outcome with ⟨-, after⟩ | ⟨ready, -⟩
  · have pending : e.post.overrides = e.pre.overrides.set (terms.claimId host) req := after
    rw [pending, Store.get_set_self] at executed
    cases executed
  · have distinctRoles : e.pre.coSigner ≠ e.pre.admin := apart.notAdmin
    rcases Bool.or_eq_true_iff.mp ready with both | one
    · obtain ⟨ownerApproved, coSignerApproved⟩ := Bool.and_eq_true_iff.mp both
      exact ⟨Ne.symm distinctRoles, owner _ (of_decide_eq_true ownerApproved),
        coSigner _ (of_decide_eq_true coSignerApproved)⟩
    · exact absurd (of_decide_eq_true one) distinctRoles

/-! ### Runs -/

/-- In every run in which the claim identifiers do not collide, an override is
executed only when the admin and the co-signer of that step are different parties
and each of them approved exactly its terms, in its role and since the request
was last removed. -/
theorem override_needs_both_parties (host : Host D) {log : Log D} {s : State D}
    (run : (poolSystem host).Run System.anyStep log s) (distinct : ClaimIdsDistinct host log) :
    System.Along (TwoOfTwo host) log := by
  apply System.Along.of_assumption (A := ClaimIdsDistinct host) _ _ distinct
  · have along := run.along
      (P := fun past e => ClaimIdsDistinct host (e :: past) → TwoOfTwo host past e)
      (I := fun log s => s.register.RolesApart ∧
        (ClaimIdsDistinct host log → ApprovalsOnFile host log s))
    refine (along ?_ ?_).1
    · intro s deployed
      have new := deployed_register deployed
      refine ⟨⟨new.distinct.1, new.distinct.2⟩, fun _ => ?_⟩
      have noOverrides : s.overrides = Store.empty := new.noOverrides
      rw [ApprovalsOnFile, noOverrides]
      exact Store.all_empty
    · rintro log s action output s' run ⟨apart, onFile⟩ - stepped
      have step := step_registers stepped
      have filed := filedByPair_of_run run
      refine ⟨fun distinct => ?_, apart.step step, fun distinct => ?_⟩
      · exact twoOfTwo_step (e := ⟨s, action, output, s'⟩) (onFile distinct.shrink) distinct filed
          apart step
      · exact (onFile distinct.shrink).step (e := ⟨s, action, output, s'⟩) distinct filed
          (filed.step step) step
  · exact fun _ _ => ClaimIdsDistinct.shrink

/-- An override is executed after the admin's key moved on and the new admin
approved again. -/
theorem override_needs_both_parties_sample :
    ∃ log s, (poolSystem sampleHost).Run System.anyStep log s ∧
      (s.claims.get (computeClaimId sampleHost (party 11) 0)).isSome = true ∧
      System.Along (TwoOfTwo sampleHost) log := by
  obtain ⟨log, s, run, filed, distinct⟩ := System.exists_run_of_replay (poolSystem sampleHost)
    System.anyStep samplePool_deployed
    [callBy 11 (.stake (party 11) 2000 (party 21)),
      callBy 12 (.stake (party 12) 100000 (party 22)),
      callBy 1 (.approveOverride (party 1) (party 11) 0 10000 1),
      callBy 1 (.transferAdmin (party 4)),
      callBy 3 (.approveOverride (party 3) (party 11) 0 10000 1),
      callBy 4 (.approveOverride (party 4) (party 11) 0 10000 1)]
    (fun log s => (s.claims.get (computeClaimId sampleHost (party 11) 0)).isSome ∧
      ClaimIdsDistinct sampleHost log) (by decide +kernel)
  exact ⟨log, s, run, filed, override_needs_both_parties sampleHost run distinct⟩

end ProtectionPool
