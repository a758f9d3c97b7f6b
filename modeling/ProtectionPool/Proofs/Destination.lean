/-
Module: ProtectionPool.Proofs.Destination
Purpose: Where the payouts of a claim go.  A claim put into effect commits the
  beneficiary its wallet's deposit names then; payouts are checked against
  whatever the record names when they are made, so they reach the committed
  beneficiary exactly as long as nobody with a claim in effect names another.
Trusted boundary: none
Main exports: committedBeneficiary, PaysCommitted, KeepsBeneficiary,
  payouts_reach_committed_beneficiary
-/
import ProtectionPool.Proofs.Records
import ProtectionPool.Proofs.WellKept

namespace ProtectionPool

variable {D : Type} [DecidableEq D]

/-! ### What a claim in effect commits -/

/-- Whether a claim of the wallet is in effect under an identifier. -/
def inEffect (claims : Store D Claim) (wallet : Address) (claimId : D) : Bool :=
  (claims.get claimId).any fun claim =>
    decide (claim.wallet = wallet) && decide (claim.status = .active)

/-- The beneficiary a wallet's record names. -/
def beneficiaryOf (stakes : Store Address (StakeRecord D)) (wallet : Address) : Option D :=
  (stakes.get wallet).map StakeRecord.beneficiaryHash

/-- The beneficiary the wallet's record named when its claim last came into
effect. -/
def committedBeneficiary : Log D → Address → D → Option D
  | [], _, _ => none
  | e :: past, wallet, claimId =>
      if inEffect e.post.claims wallet claimId && !inEffect e.pre.claims wallet claimId then
        beneficiaryOf e.post.stakes wallet
      else committedBeneficiary past wallet claimId

/-- A payout goes to the beneficiary its claim committed. -/
def PaidToCommitted (host : Host D) (past : Log D) (e : Entry (State D) (Action D) (Output D)) :
    Prop :=
  match e.action with
  | .invoke _ (.claimStream claimId beneficiary) =>
      ∀ claim ∈ e.pre.claims.get claimId,
        committedBeneficiary past claim.wallet claimId = some (addressHash host beneficiary)
  | _ => True

/-- The beneficiary that the payouts of the claims in effect are checked against
stays the same. -/
def BeneficiariesFixed (e : Entry (State D) (Action D) (Output D)) : Prop :=
  Store.All (fun _ claim => claim.status = .active →
    beneficiaryOf e.post.stakes claim.wallet = beneficiaryOf e.pre.stakes claim.wallet)
    e.pre.claims

/-- What a step should do to the payouts of the claims in effect. -/
structure PaysCommitted (host : Host D) (past : Log D)
    (e : Entry (State D) (Action D) (Output D)) : Prop where
  payout : PaidToCommitted host past e
  fixed : BeneficiariesFixed e

/-! ### The condition -/

/-- No stored claim of a wallet is in effect. -/
def NoActiveClaim (claims : Store D Claim) (wallet : Address) : Prop :=
  Store.All (fun _ claim => claim.wallet = wallet → claim.status ≠ .active) claims

/-- The wallet an action names a beneficiary for, and the beneficiary. -/
def Action.namedBeneficiary : Action D → Option (Address × Address)
  | .invoke _ (.stake staker _ beneficiary) => some (staker, beneficiary)
  | .invoke _ (.setBeneficiary staker newBeneficiary) => some (staker, newBeneficiary)
  | _ => none

/-- A wallet with a claim in effect names no beneficiary but the one its record
names already. -/
def KeepsBeneficiary (host : Host D) (e : Entry (State D) (Action D) (Output D)) : Prop :=
  ∀ named ∈ e.action.namedBeneficiary, NoActiveClaim e.pre.claims named.1 ∨
    beneficiaryOf e.pre.stakes named.1 = some (addressHash host named.2)

instance (claims : Store D Claim) (wallet : Address) : Decidable (NoActiveClaim claims wallet) :=
  inferInstanceAs (Decidable (Store.All _ _))

instance (host : Host D) (past : Log D) (e : Entry (State D) (Action D) (Output D)) :
    Decidable (PaidToCommitted host past e) := by
  obtain ⟨_, action, _, _⟩ := e
  induction action using Action.casesOn with
  | invoke _ call =>
      induction call using Call.casesOn with
      | claimStream => exact inferInstanceAs (Decidable (∀ claim ∈ Store.get _ _, _))
      | _ => exact inferInstanceAs (Decidable True)
  | _ => exact inferInstanceAs (Decidable True)

instance (host : Host D) (e : Entry (State D) (Action D) (Output D)) :
    Decidable (KeepsBeneficiary host e) :=
  inferInstanceAs (Decidable (∀ named ∈ e.action.namedBeneficiary, _))

variable {host : Host D} {r r' : Register D} {action : Action D} {output : Output D}
  {wallet beneficiary : Address} {claimId : D}

theorem inEffect_iff {claims : Store D Claim} :
    inEffect claims wallet claimId = true ↔
      ∃ claim, claims.get claimId = some claim ∧ claim.wallet = wallet ∧
        claim.status = .active := by
  cases listed : claims.get claimId <;> simp [inEffect, listed]

theorem committedBeneficiary_of_kept {past : Log D}
    {e : Entry (State D) (Action D) (Output D)}
    (before : inEffect e.pre.claims wallet claimId = true) :
    committedBeneficiary (e :: past) wallet claimId =
      committedBeneficiary past wallet claimId := by
  rw [committedBeneficiary, before, Bool.not_true, Bool.and_false, if_neg Bool.false_ne_true]

theorem committedBeneficiary_of_new {past : Log D}
    {e : Entry (State D) (Action D) (Output D)}
    (before : inEffect e.pre.claims wallet claimId = false)
    (after : inEffect e.post.claims wallet claimId = true) :
    committedBeneficiary (e :: past) wallet claimId = beneficiaryOf e.post.stakes wallet := by
  rw [committedBeneficiary, before, after, Bool.not_false, Bool.and_true, if_pos rfl]

/-! ### What a step does to a beneficiary -/

/-- After a wallet names a beneficiary its record names it. -/
theorem RegisterStep.beneficiary_named (step : RegisterStep host action output r r')
    (named : action.namedBeneficiary = some (wallet, beneficiary)) :
    beneficiaryOf r'.stakes wallet = some (addressHash host beneficiary) := by
  cases step with
  | staked | beneficiarySet =>
      cases named
      rw [beneficiaryOf, Store.get_set_self, Option.map_some]
  | funds fundsOnly => cases action, fundsOnly using Action.fundsCases <;> cases named
  | _ => cases named

/-- A payout is made under a claim in effect, to the beneficiary its wallet's
record names. -/
theorem RegisterStep.paid_beneficiary {env : Env}
    (step : RegisterStep host (.invoke env (.claimStream claimId beneficiary)) output r r') :
    ∃ claim, r.claims.get claimId = some claim ∧ claim.status = .active ∧
      beneficiaryOf r.stakes claim.wallet = some (addressHash host beneficiary) := by
  cases step with
  | funds fundsOnly => cases fundsOnly
  | streamed _ listed active _ _ stored _ committed =>
      refine ⟨_, listed, active, ?_⟩
      rw [beneficiaryOf, stored, Option.map_some, committed]

omit [DecidableEq D] in
/-- An action that names no beneficiary for a wallet neither makes it a deposit
nor changes the beneficiary of a standing one. -/
theorem Action.unnamed
    (unnamed : ∀ beneficiary, action.namedBeneficiary ≠ some (wallet, beneficiary)) :
    action.newBeneficiary wallet = none ∧ action.staker ≠ some wallet := by
  cases action with
  | invoke env call =>
      cases call with
      | setBeneficiary staker newBeneficiary =>
          refine ⟨if_neg ?_, nofun⟩
          rintro rfl
          exact unnamed newBeneficiary rfl
      | stake staker amount beneficiary =>
          refine ⟨rfl, ?_⟩
          rintro ⟨⟩
          exact unnamed beneficiary rfl
      | _ => exact ⟨rfl, nofun⟩
  | _ => exact ⟨rfl, nofun⟩

/-- A wallet that names no beneficiary keeps the one on file. -/
theorem RegisterStep.beneficiary_kept (step : RegisterStep host action output r r')
    (stored : ∃ record, r.stakes.get wallet = some record)
    (unnamed : ∀ beneficiary, action.namedBeneficiary ≠ some (wallet, beneficiary)) :
    beneficiaryOf r'.stakes wallet = beneficiaryOf r.stakes wallet := by
  obtain ⟨record, stored⟩ := stored
  obtain ⟨none, undeposited⟩ := Action.unnamed unnamed
  obtain ⟨record', stored', beneficiary, -⟩ := step.record_kept stored undeposited
  rw [none, Option.map_none, Option.getD_none] at beneficiary
  rw [beneficiaryOf, beneficiaryOf, stored', stored, Option.map_some, Option.map_some, beneficiary]

/-- The claims in effect keep their beneficiaries exactly when no wallet of one
names another. -/
theorem beneficiariesFixed_iff {e : Entry (State D) (Action D) (Output D)}
    (step : RegisterStep host e.action e.result e.pre.register e.post.register)
    (kept : (e.pre.books host).WellKept) :
    BeneficiariesFixed e ↔ KeepsBeneficiary host e := by
  constructor
  · rintro fixed ⟨staker, beneficiary⟩ named
    by_cases idle : NoActiveClaim e.pre.claims staker
    · exact .inl idle
    · obtain ⟨claimId, claim, listed, own, active⟩ : ∃ claimId claim,
          e.pre.claims.get claimId = some claim ∧ claim.wallet = staker ∧
            claim.status = .active := by
        simpa [NoActiveClaim, Store.All] using idle
      subst own
      right
      rw [← fixed claimId claim listed active]
      exact step.beneficiary_named named
  · intro keeps claimId claim listed active
    by_cases unnamed : ∀ beneficiary, e.action.namedBeneficiary ≠ some (claim.wallet, beneficiary)
    · exact step.beneficiary_kept (kept.staked claimId claim listed) unnamed
    · obtain ⟨beneficiary, named⟩ := not_forall_not.mp unnamed
      rcases keeps _ named with idle | same
      · exact absurd active (idle claimId claim listed rfl)
      · rw [same]
        exact step.beneficiary_named named

/-! ### Runs -/

/-- Every claim in effect has the beneficiary it committed. -/
def Committed (log : Log D) (s : State D) : Prop :=
  ∀ wallet claimId, inEffect s.claims wallet claimId = true →
    committedBeneficiary log wallet claimId = beneficiaryOf s.stakes wallet

/-- A payout goes to the beneficiary on file. -/
theorem paidToCommitted {log : Log D} {e : Entry (State D) (Action D) (Output D)}
    (step : RegisterStep host e.action e.result e.pre.register e.post.register)
    (committed : Committed log e.pre) : PaidToCommitted host log e := by
  unfold PaidToCommitted
  split
  · rename_i env claimId beneficiary called
    rw [called] at step
    obtain ⟨claim, listed, active, paysOut⟩ := step.paid_beneficiary
    intro other found
    obtain rfl := Option.mem_unique listed found
    rw [committed _ _ (inEffect_iff.mpr ⟨claim, listed, rfl, active⟩)]
    exact paysOut
  · trivial

/-- A step that leaves the beneficiaries of the claims in effect alone keeps them
committed. -/
theorem Committed.step {log : Log D} {e : Entry (State D) (Action D) (Output D)}
    (committed : Committed log e.pre) (fixed : BeneficiariesFixed e) :
    Committed (e :: log) e.post := by
  intro wallet claimId after
  cases before : inEffect e.pre.claims wallet claimId with
  | false => exact committedBeneficiary_of_new before after
  | true =>
      obtain ⟨claim, listed, rfl, active⟩ := inEffect_iff.mp before
      rw [committedBeneficiary_of_kept before, committed _ _ before]
      exact (fixed claimId claim listed active).symm

/-- In every run the payouts go to the beneficiaries their claims committed and no
step changes the beneficiary of a claim in effect exactly when no wallet with a
claim in effect names another beneficiary, by a new deposit or otherwise. -/
theorem payouts_reach_committed_beneficiary (host : Host D) {log : Log D} {s : State D}
    (run : (poolSystem host).Run System.anyStep log s) :
    System.Along (PaysCommitted host) log ↔
      System.Along (fun _ e => KeepsBeneficiary host e) log := by
  apply run.along_iff (I := Committed)
  · intro s deployed wallet claimId effective
    have noClaims : s.claims = Store.empty := (deployed_register deployed).noClaims
    obtain ⟨claim, listed, -⟩ := inEffect_iff.mp effective
    rw [noClaims, Store.get_empty] at listed
    cases listed
  · intro log s action output s' run committed stepped
    have step := step_registers stepped
    have fixed := beneficiariesFixed_iff (e := ⟨s, action, output, s'⟩) step (wellKept_of_run run)
    constructor
    · intro pays
      exact fixed.mp pays.fixed
    · intro keeps
      exact ⟨paidToCommitted step committed, fixed.mpr keeps⟩
  · intro log s action output s' run committed stepped keeps
    have step := step_registers stepped
    apply committed.step
    exact (beneficiariesFixed_iff (e := ⟨s, action, output, s'⟩) step (wellKept_of_run run)).mpr
      keeps

/-- A run in which a claim is put into effect and paid keeps the condition. -/
theorem payouts_reach_committed_beneficiary_sample :
    ∃ log s, (poolSystem sampleHost).Run System.anyStep log s ∧
      ¬ NoActiveClaim s.claims (party 11) ∧ System.Along (PaysCommitted sampleHost) log := by
  obtain ⟨log, s, run, active, keeps⟩ := System.exists_run_of_replay (poolSystem sampleHost)
    System.anyStep samplePool_deployed
    (sampleOpening 10000 ++ [afterDays 30,
      callBy 11 (.claimStream (computeClaimId sampleHost (party 11) 0) (party 21))])
    (fun log s => ¬ NoActiveClaim s.claims (party 11) ∧
      System.Along (fun _ e => KeepsBeneficiary sampleHost e) log) (by decide +kernel)
  exact ⟨log, s, run, active, (payouts_reach_committed_beneficiary sampleHost run).mpr keeps⟩

/-- After the opening the first wallet stakes again and names another
beneficiary, to whom the next payout goes. -/
theorem restake_redirects_payouts :
    ∃ log s, (poolSystem sampleHost).Run System.anyStep log s ∧
      ¬ System.Along (PaysCommitted sampleHost) log := by
  obtain ⟨log, s, run, ends⟩ := System.exists_run_of_replay (poolSystem sampleHost)
    System.anyStep samplePool_deployed
    (sampleOpening 10000 ++ [callBy 11 (.stake (party 11) 2000 (party 23)), afterDays 30,
      callBy 11 (.claimStream (computeClaimId sampleHost (party 11) 0) (party 23))])
    (fun log _ => ¬ System.Along (PaidToCommitted sampleHost) log) (by decide +kernel)
  refine ⟨log, s, run, fun pays => ends (pays.imp ?_)⟩
  exact fun _ _ now => now.payout

end ProtectionPool
