/-
Module: ProtectionPool.Proofs.Authority
Purpose: What a signature is needed for.  While the admin does not sign, nothing the
  admin decides changes: the settings, the revocations, the yield taken out, who is
  suspended and what was cancelled.  While a wallet does not sign, its deposit and its
  points stay, unless an executed override takes them.
Trusted boundary: none
Main exports: Register.authorizer, dispatch_authorized, Settings, Ungoverned,
  unsigned_admin_changes_nothing, unsigned_deposit_stays
-/
import ProtectionPool.Model.Events
import ProtectionPool.Books.Frames
import ProtectionPool.Books.VaultCalls
import ProtectionPool.Proofs.Suspension

namespace ProtectionPool

open Checked

variable {D : Type}

/-! ### Who must sign -/

/-- The calls only the admin may make. -/
def Call.administers : Call D → Bool
  | .setOracle _ | .setOraclePubkey _ | .setOracleIdentity _ _ | .setCoSigner _ | .setPoolCap _
  | .transferAdmin _ | .pause | .unpause | .suspendStake _ | .unsuspendStake _ _
  | .revokeApproval _ _ _ _ _ _ _ | .cancelClaim _ | .cancelPendingOverride _ _ _ | .setVault _
  | .setTreasury _ | .setDeployBps _ | .deployToVault _ _ | .provideLiquidity _ _
  | .extractYield _ _ | .withdrawYield _ => true
  | _ => false

variable [DecidableEq D]

/-- The address a call asks to authorize it, if it asks any. -/
def Register.authorizer (r : Register D) : Call D → Option Address
  | .stake staker _ _ | .withdraw staker _ | .setBeneficiary staker _ | .emergencyExit staker =>
      some staker
  | .submitClaim caller _ _ _ _ _ _ _ | .approveOverride caller _ _ _ _ => some caller
  | .approveClaim claimId | .claimStream claimId _ => (r.claims.get claimId).map Claim.wallet
  | .unlockPendingClaim _ | .tryReleaseQueuedClaim _ | .expireQueuedClaim _
  | .expirePendingApproval _ | .expireStaleClaim _ | .autoDeployLiquidity | .ensureLiquidity =>
      none
  | _ => some r.admin

/-- The addresses that authorized an action. -/
def Action.signers : Action D → List Address
  | .invoke env _ => env.signers
  | _ => []

variable {host : Host D} {env : Env} {s s' : State D} {output : Output D} {action : Action D}

/-- A call succeeds only with the signature it asks for, and never with that of the pool
itself. -/
theorem dispatch_authorized {call : Call D} {signer : Address}
    (stepped : dispatch host env s call = .ok (output, s'))
    (asked : s.register.authorizer call = some signer) :
    signer ∈ env.signers ∧ signer ≠ host.contract := by
  cases call with
  | approveClaim claimId =>
      obtain ⟨stepped, -⟩ := returningUnit_eq_ok.mp stepped
      simp only [approveClaim, bind_eq_ok, okOr_eq_ok, requireAuth_eq_ok] at stepped
      obtain ⟨-, -, claim, listed, -, signed, -⟩ := stepped
      have wallet : some claim.wallet = some signer :=
        (congrArg (Option.map Claim.wallet) listed).symm.trans asked
      exact Option.some.inj wallet ▸ signed
  | claimStream claimId beneficiary =>
      obtain ⟨paid, payout, -⟩ := returning_eq_ok.mp stepped
      obtain ⟨claim, _, streamed⟩ := claimStream_eq_ok.mp payout
      have wallet : some claim.wallet = some signer :=
        (congrArg (Option.map Claim.wallet) streamed.listed).symm.trans asked
      exact Option.some.inj wallet ▸ streamed.signed
  | unlockPendingClaim | tryReleaseQueuedClaim | expireQueuedClaim | expirePendingApproval
  | expireStaleClaim | autoDeployLiquidity | ensureLiquidity => cases asked
  | _ =>
      have admin : s.register.admin = s.admin := rfl
      obtain rfl := Option.some.inj asked
      simp only [dispatch, returningUnit_eq_ok, returning_eq_ok, setOracle, setOraclePubkey,
        setOracleIdentity, setCoSigner, setPoolCap, transferAdmin, setPaused, suspendStake,
        unsuspendStake, stake, withdraw, setBeneficiary, emergencyExit, submitClaim,
        revokeApproval, cancelClaim, approveOverride, cancelPendingOverride, setVault, setTreasury,
        setDeployBps, deployToVault, provideLiquidity, extractYield, withdrawYield, bind_eq_ok,
        rejectIf_eq_ok, requireAuth_eq_ok] at stepped
      grind

/-- What the admin alone may call asks for the admin's signature. -/
theorem authorizer_of_administers {call : Call D} (administers : call.administers = true) :
    s.register.authorizer call = some s.admin := by
  cases call <;> first | rfl | cases administers

/-- Without the admin's signature no administrative call succeeds. -/
theorem not_administers {call : Call D} (stepped : dispatch host env s call = .ok (output, s'))
    (unsigned : s.admin ∉ env.signers) : call.administers = false := by
  by_contra administers
  rw [Bool.not_eq_false] at administers
  exact unsigned (dispatch_authorized stepped (authorizer_of_administers administers)).1

/-! ### What the admin decides -/

/-- The roles, the limits, the pause switch and the counterparties of the pool. -/
structure Settings where
  admin : Address
  oracle : Address
  oraclePubkey : Option (BytesN 32)
  coSigner : Address
  xlmToken : Address
  poolCap : Int
  paused : Bool
  vault : Option Address
  treasury : Option Address
  deployBps : Int
  totalExtractedYield : Int

/-- The settings of a state, with the yield taken out under them. -/
def State.settings (s : State D) : Settings where
  admin := s.admin
  oracle := s.oracle
  oraclePubkey := s.oraclePubkey
  coSigner := s.coSigner
  xlmToken := s.xlmToken
  poolCap := s.poolCap
  paused := s.paused
  vault := s.vault
  treasury := s.treasury
  deployBps := s.deployBps
  totalExtractedYield := s.totalExtractedYield

/-- A call that is not administrative leaves the settings alone. -/
theorem dispatch_settings {call : Call D} (plain : call.administers = false) :
    Leaves (fun result => State.settings result.2) s.settings (dispatch host env s call) := by
  cases call with
  | stake | withdraw | emergencyExit | setBeneficiary | unlockPendingClaim | expireQueuedClaim
  | expirePendingApproval | expireStaleClaim | submitClaim | tryReleaseQueuedClaim | approveClaim
  | claimStream | approveOverride =>
      exact dispatch_leaves_offCash _ (fun _ => rfl) rfl
  | autoDeployLiquidity =>
      apply leaves_returning
      rintro ⟨gained, s'⟩ stepped
      obtain ⟨-, amount, computed, ⟨-, -, rfl⟩ | ⟨-, vault, -, -, rfl⟩⟩ :=
        autoDeployLiquidity_ok stepped
      · rfl
      · rfl
  | ensureLiquidity =>
      apply leaves_returning
      rintro ⟨received, s'⟩ stepped
      obtain ⟨shortfall, computed, ⟨-, -, rfl⟩ | ⟨-, -, shares, vault, -, -, -, -, -, -, rfl⟩⟩ :=
        ensureLiquidity_ok stepped
      · rfl
      · rfl
  | _ => cases plain

/-- Every step that the admin did not sign leaves the settings alone. -/
theorem step_settings (stepped : poolStep host s action = .ok (output, s'))
    (unsigned : s.admin ∉ action.signers) : s'.settings = s.settings := by
  cases action with
  | invoke env call => exact dispatch_settings (not_administers stepped unsigned) _ stepped
  | closeLedger sequence timestamp =>
      obtain ⟨-, -, rfl⟩ := closeLedger_eq_ok.mp (returningUnit_eq_ok.mp stepped).1
      rfl
  | moveXlm holder balance =>
      obtain ⟨-, -, rfl⟩ := moveXlm_eq_ok.mp (returningUnit_eq_ok.mp stepped).1
      rfl
  | moveShares vault balance =>
      obtain rfl := moveShares_eq_ok.mp (returningUnit_eq_ok.mp stepped).1
      rfl

/-- An administrative action. -/
def Action.administers : Action D → Bool
  | .invoke _ call => call.administers
  | _ => false

theorem step_not_administers (stepped : poolStep host s action = .ok (output, s'))
    (unsigned : s.admin ∉ action.signers) : action.administers = false := by
  cases action with
  | invoke env call => exact not_administers stepped unsigned
  | _ => rfl

section Registered

variable {r r' : Register D}

theorem RegisterStep.revoked_kept (step : RegisterStep host action output r r')
    (plain : action.administers = false) : r'.revoked = r.revoked := by
  cases step with
  | revoked => cases plain
  | _ => rfl

/-- Only the admin suspends a deposit. -/
theorem RegisterStep.suspended_before (step : RegisterStep host action output r r')
    (plain : action.administers = false) {wallet : Address}
    (suspended : isSuspended r'.stakes wallet = true) : isSuspended r.stakes wallet = true := by
  obtain ⟨record', stored', marked⟩ := (Option.any_eq_true _ _).mp suspended
  cases step.recordEntry stored' with
  | fresh _ _ _ unsuspended =>
      rw [unsuspended] at marked
      cases marked
  | kept stored _ _ same _ =>
      have undecided : action.suspension wallet = none := by
        cases action with
        | invoke env call => cases call <;> first | rfl | cases plain
        | _ => rfl
      rw [undecided, Option.getD_none] at same
      rw [isSuspended_of_get stored, ← same, marked]

/-- Only the admin cancels a claim. -/
theorem RegisterStep.cancelled_before (step : RegisterStep host action output r r')
    (plain : action.administers = false) {claimId : D} {claim' : Claim}
    (listed' : r'.claims.get claimId = some claim') (cancelled : claim'.status = .cancelled) :
    ∃ claim, r.claims.get claimId = some claim ∧ claim.status = .cancelled := by
  have written : ∀ {owner : D} {new : Claim}, (r.claims.set owner new).get claimId = some claim' →
      new.status ≠ .cancelled → ∃ claim, r.claims.get claimId = some claim ∧
        claim.status = .cancelled := by
    intro owner new found differs
    rcases Store.get_set_eq_some.mp found with ⟨-, rfl⟩ | ⟨-, before⟩
    · exact absurd cancelled differs
    · exact ⟨claim', before, cancelled⟩
  cases step with
  | droppedPending | reversed | restarted => cases plain
  | queued | queueExpired | unlocked | approved | approvalExpired | staleExpired
  | overrideExecuted => exact written listed' nofun
  | admitted _ admission | released _ _ _ _ _ admission =>
      apply written listed'
      rcases admission with ⟨rfl, -⟩ | ⟨rfl, -⟩ <;> nofun
  | @streamed _ _ _ _ claim _ amount _ listed active =>
      apply written listed'
      simp only [Claim.paid, active]
      split_ifs <;> nofun
  | _ => exact ⟨claim', listed', cancelled⟩

end Registered

/-! ### Without the admin -/

/-- What two states have in common when the admin decided nothing in between. -/
structure Ungoverned (before after : State D) : Prop where
  settings : after.settings = before.settings
  revocations : after.revoked = before.revoked
  suspensions : ∀ wallet, isSuspended after.stakes wallet = true →
    isSuspended before.stakes wallet = true
  cancellations : ∀ claimId claim, after.claims.get claimId = some claim →
    claim.status = .cancelled →
      ∃ earlier, before.claims.get claimId = some earlier ∧ earlier.status = .cancelled

/-- The steps that an address did not authorize. -/
def unsignedBy (signer : Address) : System.Guard (State D) (Action D) (Output D) :=
  fun _ _ action => signer ∉ action.signers

instance (signer : Address) (log : Log D) (s : State D) (action : Action D) :
    Decidable (unsignedBy signer log s action) :=
  inferInstanceAs (Decidable (signer ∉ action.signers))

/-- From any state on and whatever all others do, as long as its admin does not sign, no
setting changes and no yield leaves, no approval is revoked, no wallet is suspended and no
claim is cancelled. -/
theorem unsigned_admin_changes_nothing (host : Host D) {opening : State D} {log : Log D}
    {s : State D}
    (run : ((poolSystem host).startingAt opening).Run (unsignedBy opening.admin) log s) :
    Ungoverned opening s := by
  induction run with
  | start initial =>
      obtain rfl := initial
      exact ⟨rfl, rfl, fun _ => id, fun _ claim listed cancelled => ⟨claim, listed, cancelled⟩⟩
  | @step log s s' action output run met stepped inductionHypothesis =>
      obtain ⟨settings, revocations, suspensions, cancellations⟩ := inductionHypothesis
      have sameAdmin : s.admin = opening.admin := congrArg Settings.admin settings
      have unsigned : s.admin ∉ action.signers := sameAdmin ▸ met
      have plain := step_not_administers stepped unsigned
      have registered := step_registers stepped
      constructor
      · exact (step_settings stepped unsigned).trans settings
      · exact (registered.revoked_kept plain).trans revocations
      · intro wallet suspended
        exact suspensions wallet (registered.suspended_before plain suspended)
      · intro claimId claim listed cancelled
        obtain ⟨earlier, before, status⟩ := registered.cancelled_before plain listed cancelled
        exact cancellations claimId earlier before status

/-- Deposits, a withdrawal and a payout go on while the admin is silent. -/
theorem unsigned_admin_changes_nothing_sample :
    ∃ log s, ((poolSystem sampleHost).startingAt samplePool).Run (unsignedBy samplePool.admin)
        log s ∧
      log.length = 4 ∧ Ungoverned samplePool s := by
  obtain ⟨log, s, run, four⟩ := System.exists_run_of_replay
    ((poolSystem sampleHost).startingAt samplePool) (unsignedBy samplePool.admin) rfl
    [callBy 11 (.stake (party 11) 2000 (party 21)),
      callBy 12 (.stake (party 12) 100000 (party 22)), afterDays 30,
      callBy 12 (.withdraw (party 12) (party 22))]
    (fun log _ => log.length = 4) (by decide +kernel)
  exact ⟨log, s, run, four, unsigned_admin_changes_nothing sampleHost run⟩

/-! ### Without the wallet -/

/-- A deposit in the pool on the terms it had. -/
structure KeepsTerms (record record' : StakeRecord D) : Prop where
  beneficiary : record'.beneficiaryHash = record.beneficiaryHash
  amount : record'.amount = record.amount
  ledger : record'.stakedAtLedger = record.stakedAtLedger
  timestamp : record'.stakedAtTimestamp = record.stakedAtTimestamp
  standing : record'.withdrawn = false

/-- Whether an action executes an override against a wallet. -/
def Register.executes (host : Host D) (r : Register D) (wallet : Address) : Action D → Bool
  | .invoke _ (.approveOverride caller owner txHash entitlement tier) =>
      let req := r.request host caller owner txHash entitlement tier
      r.ready req && decide (req.wallet = wallet)
  | _ => false

/-- The steps that a wallet did not authorize and that execute no override against it. -/
def undisturbed (host : Host D) (wallet : Address) :
    System.Guard (State D) (Action D) (Output D) :=
  fun _ s action => wallet ∉ action.signers ∧ s.register.executes host wallet action = false

instance (host : Host D) (wallet : Address) (log : Log D) (s : State D) (action : Action D) :
    Decidable (undisturbed host wallet log s action) :=
  inferInstanceAs (Decidable (_ ∧ _))

/-- A wallet's deposit and banked points in a register. -/
structure Held (record : StakeRecord D) (points : Int) (wallet : Address) (r : Register D) :
    Prop where
  deposit : ∃ record', r.stakes.get wallet = some record' ∧ KeepsTerms record record'
  points : (r.pointsBalances.get wallet).getD 0 = points

section Held

variable {r r' : Register D} {record stored written : StakeRecord D} {points : Int}
  {wallet owner : Address}

omit [DecidableEq D] in
/-- The deposit is still held when a record on file is written again, of another wallet or
with the terms kept. -/
theorem KeepsTerms.rewritten
    (deposit : ∃ record', r.stakes.get wallet = some record' ∧ KeepsTerms record record')
    (found : r.stakes.get owner = some stored)
    (keeps : owner = wallet → KeepsTerms record stored → KeepsTerms record written) :
    ∃ record', (r.stakes.set owner written).get wallet = some record' ∧
      KeepsTerms record record' := by
  obtain ⟨record', stored', kept⟩ := deposit
  by_cases own : owner = wallet
  · subst own
    obtain rfl := Option.some.inj (found.symm.trans stored')
    exact ⟨written, Store.get_set_self .., keeps rfl kept⟩
  · exact ⟨record', by rw [Store.get_set_ne _ _ (Ne.symm own), stored'], kept⟩

/-- A wallet's balance does not depend on what others bank. -/
theorem points_set_ne {balances : Store Address Int} {balance : Int} (other : owner ≠ wallet) :
    ((balances.set owner balance).get wallet).getD 0 = (balances.get wallet).getD 0 := by
  rw [Store.get_set_ne _ _ (Ne.symm other)]

/-- No step takes a deposit or points from a wallet that does not sign, unless it executes
an override against it. -/
theorem Held.step (held : Held record points wallet r)
    (step : RegisterStep host action output r r')
    (silent : ∀ env call, action = .invoke env call → r.authorizer call ≠ some wallet)
    (standing : r.executes host wallet action = false) : Held record points wallet r' := by
  obtain ⟨deposit, balance⟩ := held
  cases step with
  | @staked _ env staker beneficiary amount =>
      have other : staker ≠ wallet := fun own => silent env _ rfl (congrArg some own)
      obtain ⟨record', stored, kept⟩ := deposit
      exact ⟨⟨record', by rw [Store.get_set_ne _ _ (Ne.symm other), stored], kept⟩, balance⟩
  | @beneficiarySet _ env staker beneficiary _ _ _ stored =>
      have other : staker ≠ wallet := fun own => silent env _ rfl (congrArg some own)
      exact ⟨KeepsTerms.rewritten deposit stored fun own => absurd own other, balance⟩
  | @withdrawn _ env staker beneficiary _ _ _ _ stored _ _ _ _ _ banked =>
      have other : staker ≠ wallet := fun own => silent env _ rfl (congrArg some own)
      refine ⟨KeepsTerms.rewritten deposit stored fun own => absurd own other, ?_⟩
      rcases banked with rfl | ⟨earned, rfl⟩
      · exact balance
      · exact (points_set_ne other).trans balance
  | @emergencyExited _ env staker _ _ stored =>
      have other : staker ≠ wallet := fun own => silent env _ rfl (congrArg some own)
      exact ⟨KeepsTerms.rewritten deposit stored fun own => absurd own other, balance⟩
  | @approved _ env claimId claim _ _ _ _ listed _ _ stored =>
      have other : claim.wallet ≠ wallet := by
        intro own
        apply silent env _ rfl
        rw [Register.authorizer, listed, Option.map_some, own]
      exact ⟨KeepsTerms.rewritten deposit stored fun own => absurd own other,
        (points_set_ne other).trans balance⟩
  | @overrideExecuted _ env caller owner txHash entitlement tier req executedRecord _ _ approval
      ready _ stored =>
      have other : req.wallet ≠ wallet := by
        intro own
        rw [Register.executes, ← approval.requested, ready, own] at standing
        simp at standing
      refine ⟨KeepsTerms.rewritten deposit stored fun own => absurd own other, ?_⟩
      dsimp only
      split_ifs
      · exact balance
      · exact (points_set_ne other).trans balance
  | suspended stored | unsuspended stored | restarted _ stored | queueExpired _ _ _ stored
  | approvalExpired _ _ stored | staleExpired _ _ _ stored | droppedPending _ _ stored
  | released _ _ _ stored =>
      refine ⟨KeepsTerms.rewritten deposit stored ?_, balance⟩
      exact fun _ kept =>
        ⟨kept.beneficiary, kept.amount, kept.ledger, kept.timestamp, kept.standing⟩
  | reversed _ _ stored =>
      refine ⟨KeepsTerms.rewritten deposit stored ?_, balance⟩
      exact fun _ kept => ⟨kept.beneficiary, kept.amount, kept.ledger, kept.timestamp, rfl⟩
  | queued submission | admitted submission =>
      refine ⟨KeepsTerms.rewritten deposit submission.stored ?_, balance⟩
      exact fun _ kept =>
        ⟨kept.beneficiary, kept.amount, kept.ledger, kept.timestamp, kept.standing⟩
  | funds | clock | oracleSet | pubkeySet | identitySet | coSignerSet | adminTransferred | paused
  | unpaused | unlocked | streamed | overridePending | overrideCancelled | revoked =>
      exact ⟨deposit, balance⟩

end Held

/-- From any state on and whatever all others do, as long as a wallet signs nothing and no
override is executed against it, its deposit stays in the pool on the terms it was made
on, and its banked points stay too. -/
theorem unsigned_deposit_stays (host : Host D) {opening : State D} {log : Log D} {s : State D}
    {wallet : Address} {record : StakeRecord D}
    (stored : opening.stakes.get wallet = some record) (standing : record.withdrawn = false)
    (run : ((poolSystem host).startingAt opening).Run (undisturbed host wallet) log s) :
    (∃ record', s.stakes.get wallet = some record' ∧ KeepsTerms record record') ∧
      getPointsBalance s wallet = getPointsBalance opening wallet := by
  have held : Held record (getPointsBalance opening wallet) wallet s.register := by
    induction run with
    | start initial =>
        obtain rfl := initial
        exact ⟨⟨record, stored, rfl, rfl, rfl, rfl, standing⟩, rfl⟩
    | @step log s s' action output run met stepped inductionHypothesis =>
        apply inductionHypothesis.step (step_registers stepped)
        · rintro env call rfl asked
          exact met.1 (dispatch_authorized stepped asked).1
        · exact met.2
  exact ⟨held.deposit, held.points⟩

/-- Half a year passes over a deposit: a claim is submitted by the oracle, unlocked and
expires, the wallet is suspended and released, and an override is asked for by the admin
alone. -/
theorem unsigned_deposit_stays_sample :
    ∃ opening log s record, opening.stakes.get (party 11) = some record ∧
      record.withdrawn = false ∧
      ((poolSystem sampleHost).startingAt opening).Run (undisturbed sampleHost (party 11)) log s ∧
      log.length = 8 ∧
      (∃ record', s.stakes.get (party 11) = some record' ∧ KeepsTerms record record') ∧
      getPointsBalance s (party 11) = getPointsBalance opening (party 11) := by
  have stored : ({ samplePool with
      stakes := samplePool.stakes.set (party 11) (freshStake sampleHost samplePool 2000 (party 21))
      totalStaked := 2000 } : State Nat).stakes.get (party 11) =
      some (freshStake sampleHost samplePool 2000 (party 21)) := Store.get_set_self ..
  obtain ⟨log, s, run, eight⟩ := System.exists_run_of_replay
    ((poolSystem sampleHost).startingAt _) (undisturbed sampleHost (party 11))
    (s := { samplePool with
      stakes := samplePool.stakes.set (party 11) (freshStake sampleHost samplePool 2000 (party 21))
      totalStaked := 2000 }) rfl
    [callBy 12 (.stake (party 12) 100000 (party 22)), afterDays 10,
      callBy 1 (.submitClaim (party 1) (party 11) 0 3000 1 (1000000 + secondsPerDay * 10) 0 0),
      callBy 1 (.suspendStake (party 11)), callBy 1 (.unsuspendStake (party 11) none),
      callBy 1 (.approveOverride (party 1) (party 11) 1 3000 1), afterDays 90,
      callBy 9 (.unlockPendingClaim (computeClaimId sampleHost (party 11) 0))]
    (fun log _ => log.length = 8) (by decide +kernel)
  exact ⟨_, log, s, _, stored, rfl, run, eight,
    unsigned_deposit_stays sampleHost stored rfl run⟩

end ProtectionPool
