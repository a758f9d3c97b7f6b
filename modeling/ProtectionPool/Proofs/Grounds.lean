/-
Module: ProtectionPool.Proofs.Grounds
Purpose: What the past of a transfer says for it.  The deposit each wallet last left in
  the pool, the beneficiary it last named, the claims put into effect and not ended and
  the treasury last set are read off the log; every transfer the contract orders goes
  back to them, and nothing else moves XLM but the vault in its own calls and holders by
  themselves.
Trusted boundary: none
Main exports: lastDeposit, lastNamed, lastEffect, lastTreasury, PutsIntoEffect, Foretold,
  Grounded, transfers_sanctioned
-/
import ProtectionPool.Proofs.Authority
import ProtectionPool.Proofs.CashBook
import ProtectionPool.Proofs.Destination

namespace ProtectionPool

open Checked Accounts

variable {D : Type}

/-! ### What the log last said -/

/-- The deposit an action leaves a wallet with, if it makes one or pays it out. -/
def Action.leavesDeposit : Action D → Option (Address × Int)
  | .invoke _ (.stake staker amount _) => some (staker, amount)
  | .invoke _ (.withdraw staker _) | .invoke _ (.emergencyExit staker) => some (staker, 0)
  | _ => none

/-- The treasury an action sets. -/
def Action.setsTreasury : Action D → Option (Unit × Option Address)
  | .invoke _ (.setTreasury treasury) => some ((), some treasury)
  | _ => none

/-- The beneficiary an action names for a wallet, as it is committed. -/
def Action.commits (host : Host D) (action : Action D) : Option (Address × Option D) :=
  action.namedBeneficiary.map fun named => (named.1, some (addressHash host named.2))

/-- The deposit each wallet made last, if it has not left since. -/
def lastDeposit (past : Log D) : Address → Int :=
  System.latest (fun e => e.action.leavesDeposit) (fun _ => 0) past

/-- The beneficiary each wallet named last. -/
def lastNamed (host : Host D) (past : Log D) : Address → Option D :=
  System.latest (fun e => e.action.commits host) (fun _ => none) past

/-- The treasury set last. -/
def lastTreasury (past : Log D) : Option Address :=
  System.latest (fun e => e.action.setsTreasury) (fun _ => none) past ()

variable [DecidableEq D]

/-- What an action says of a claim: for which wallet it puts it into effect and when its
cooldown ends, or that it ends it. -/
def Register.effects (host : Host D) (r : Register D) :
    Action D → Option (D × Option (Address × Nat))
  | .invoke _ (.approveClaim claimId) =>
      (r.claims.get claimId).map fun claim =>
        (claimId, some (claim.wallet, r.sequence + cooldownLedgers))
  | .invoke _ (.approveOverride caller wallet txHash entitlement tier) =>
      let req := r.request host caller wallet txHash entitlement tier
      if r.ready req then
        some (computeClaimId host wallet txHash, some (req.wallet, r.sequence + cooldownLedgers))
      else none
  | .invoke _ (.cancelClaim claimId) | .invoke _ (.expireStaleClaim claimId) =>
      some (claimId, none)
  | _ => none

/-- The claims put into effect and neither cancelled nor swept since. -/
def lastEffect (host : Host D) (past : Log D) : D → Option (Address × Nat) :=
  System.latest (fun e => e.pre.register.effects host e.action) (fun _ => none) past

/-! ### What the register shows of it -/

/-- The deposit on a record. -/
def amountOn (record : Option (StakeRecord D)) : Int := (record.map StakeRecord.amount).getD 0

/-- For which wallet a claim is or was in effect, and when its cooldown ended. -/
def Claim.effect (claim : Option Claim) : Option (Address × Nat) :=
  claim.bind fun claim =>
    if claim.status = .active ∨ claim.status = .completed then
      some (claim.wallet, claim.cooldownEndsLedger)
    else none

variable {host : Host D} {env : Env} {s s' : State D} {r r' : Register D} {action : Action D}
  {output : Output D}

theorem RegisterStep.deposit_told (step : RegisterStep host action output r r') :
    (fun wallet => amountOn (r'.stakes.get wallet)) =
      action.leavesDeposit.elim (fun wallet => amountOn (r.stakes.get wallet))
        fun told =>
          Function.update (fun wallet => amountOn (r.stakes.get wallet)) told.1 told.2 := by
  cases step with
  | staked | withdrawn | emergencyExited => exact Store.view_set amountOn _ _ _
  | beneficiarySet _ stored | suspended stored | unsuspended stored | restarted _ stored
  | queueExpired _ _ _ stored | approved _ _ _ _ stored | approvalExpired _ _ stored
  | staleExpired _ _ _ stored | released _ _ _ stored | droppedPending _ _ stored
  | reversed _ _ stored | overrideExecuted _ _ _ stored =>
      apply Store.view_set_of_same amountOn
      rw [stored]
      rfl
  | queued submission | admitted submission =>
      apply Store.view_set_of_same amountOn
      rw [submission.stored]
      rfl
  | funds fundsOnly => cases action, fundsOnly using Action.fundsCases <;> rfl
  | _ => rfl

theorem RegisterStep.commitment_told (step : RegisterStep host action output r r') :
    (fun wallet => beneficiaryOf r'.stakes wallet) =
      (action.commits host).elim (fun wallet => beneficiaryOf r.stakes wallet)
        fun told =>
          Function.update (fun wallet => beneficiaryOf r.stakes wallet) told.1 told.2 := by
  cases step with
  | staked | beneficiarySet => exact Store.view_set (Option.map StakeRecord.beneficiaryHash) _ _ _
  | withdrawn _ stored | emergencyExited stored | suspended stored | unsuspended stored
  | restarted _ stored | queueExpired _ _ _ stored | approved _ _ _ _ stored
  | approvalExpired _ _ stored | staleExpired _ _ _ stored | released _ _ _ stored
  | droppedPending _ _ stored | reversed _ _ stored | overrideExecuted _ _ _ stored =>
      apply Store.view_set_of_same (Option.map StakeRecord.beneficiaryHash)
      rw [stored]
      rfl
  | queued submission | admitted submission =>
      apply Store.view_set_of_same (Option.map StakeRecord.beneficiaryHash)
      rw [submission.stored]
      rfl
  | funds fundsOnly => cases action, fundsOnly using Action.fundsCases <;> rfl
  | _ => rfl

theorem effect_of_idle {claim : Claim} (active : claim.status ≠ .active)
    (completed : claim.status ≠ .completed) : Claim.effect (some claim) = none :=
  if_neg (not_or.mpr ⟨active, completed⟩)

theorem effect_of_active {claim : Claim} (active : claim.status = .active) :
    Claim.effect (some claim) = some (claim.wallet, claim.cooldownEndsLedger) :=
  if_pos (.inl active)

/-- A claim that is not in effect is written over by one that is not. -/
theorem effects_of_idle {claims : Store D Claim} {claimId : D} {claim : Claim}
    (before : Claim.effect (claims.get claimId) = none) (active : claim.status ≠ .active)
    (completed : claim.status ≠ .completed) :
    (fun other => Claim.effect ((claims.set claimId claim).get other)) =
      fun other => Claim.effect (claims.get other) := by
  apply Store.view_set_of_same Claim.effect
  rw [before, effect_of_idle active completed]

/-- No claim is in effect under an identifier that a submission may use. -/
theorem Register.Submission.idle {caller wallet : Address} {txHash : BytesN 32}
    {entitlement : Int} {tier hackTimestamp deadline : Nat} {record : StakeRecord D}
    (submission : r.Submission host caller wallet txHash entitlement tier hackTimestamp deadline
      record) : Claim.effect (r.claims.get (computeClaimId host wallet txHash)) = none := by
  cases found : r.claims.get (computeClaimId host wallet txHash) with
  | none => rfl
  | some claim =>
      have unused := submission.unused claim found
      exact effect_of_idle (by rw [unused]; nofun) (by rw [unused]; nofun)

omit [DecidableEq D] in
theorem Register.Admission.idle {record : StakeRecord D} {status : ClaimStatus} {deadline : Nat}
    (admission : r.Admission record status deadline) :
    status ≠ .active ∧ status ≠ .completed := by
  rcases admission with ⟨rfl, -⟩ | ⟨rfl, -⟩ <;> exact ⟨nofun, nofun⟩

theorem RegisterStep.effect_told (step : RegisterStep host action output r r') :
    (fun claimId => Claim.effect (r'.claims.get claimId)) =
      (r.effects host action).elim (fun claimId => Claim.effect (r.claims.get claimId))
        fun told => Function.update (fun claimId => Claim.effect (r.claims.get claimId))
          told.1 told.2 := by
  cases step with
  | queued submission => exact effects_of_idle submission.idle nofun nofun
  | admitted submission admission =>
      exact effects_of_idle submission.idle admission.idle.1 admission.idle.2
  | released _ listed reserved _ _ admission =>
      refine effects_of_idle ?_ admission.idle.1 admission.idle.2
      rw [listed]
      exact effect_of_idle (by rw [reserved]; nofun) (by rw [reserved]; nofun)
  | queueExpired _ listed reserved =>
      refine effects_of_idle ?_ nofun nofun
      rw [listed]
      exact effect_of_idle (by rw [reserved]; nofun) (by rw [reserved]; nofun)
  | unlocked _ listed pending | approvalExpired listed pending =>
      refine effects_of_idle ?_ nofun nofun
      rw [listed]
      exact effect_of_idle (by rw [pending]; nofun) (by rw [pending]; nofun)
  | streamed _ listed active =>
      apply Store.view_set_of_same Claim.effect
      rw [listed, effect_of_active active]
      simp only [Claim.paid, active]
      split_ifs <;> rfl
  | restarted listed =>
      apply Store.view_set_of_same Claim.effect
      rw [listed, Claim.restarted]
      split <;> rfl
  | approved _ listed =>
      rw [Register.effects, listed]
      exact Store.view_set Claim.effect _ _ _
  | overrideExecuted approval ready =>
      rw [Register.effects, ← approval.requested]
      simp only [ready, if_true]
      exact Store.view_set Claim.effect _ _ _
  | overridePending approval unready =>
      rw [Register.effects, ← approval.requested]
      simp only [unready]
      rfl
  | staleExpired | droppedPending | reversed => exact Store.view_set Claim.effect _ _ _
  | funds fundsOnly => cases action, fundsOnly using Action.fundsCases <;> rfl
  | _ => rfl

/-- A call that does not set the treasury leaves it. -/
theorem dispatch_leaves_treasury {call : Call D}
    (other : (Action.invoke env call).setsTreasury = none) :
    Leaves (fun result => State.treasury result.2) s.treasury (dispatch host env s call) := by
  cases call with
  | stake | withdraw | emergencyExit | submitClaim | tryReleaseQueuedClaim | approveClaim
  | claimStream | cancelClaim | approveOverride | setBeneficiary | suspendStake | unsuspendStake
  | revokeApproval | unlockPendingClaim | expireQueuedClaim | expirePendingApproval
  | expireStaleClaim | cancelPendingOverride =>
      exact dispatch_leaves_offCash State.treasury (fun _ => rfl) rfl
  | autoDeployLiquidity | ensureLiquidity =>
      intro result stepped
      exact congrArg Settings.treasury (dispatch_settings rfl _ stepped)
  | setOracle | setOraclePubkey | setOracleIdentity | setCoSigner | transferAdmin | pause
  | unpause | setPoolCap | setVault | setDeployBps =>
      apply leaves_returningUnit
      simp only [setOracle, setOraclePubkey, setOracleIdentity, setCoSigner, transferAdmin,
        setPaused, setPoolCap, setVault, setDeployBps, leaves_bind, leaves_ok, implies_true]
  | deployToVault =>
      apply leaves_returning
      rintro ⟨gained, s'⟩ stepped
      obtain ⟨-, vault, -, -, rfl⟩ := deployToVault_ok stepped
      rfl
  | provideLiquidity =>
      apply leaves_returning
      rintro ⟨received, s'⟩ stepped
      obtain ⟨-, -, vault, -, -, rfl⟩ := provideLiquidity_ok stepped
      rfl
  | extractYield =>
      apply leaves_returning
      rintro ⟨sent, s'⟩ stepped
      obtain ⟨-, -, vault, treasury, -, -, -, paid⟩ := extractYield_ok stepped
      rcases sendYield_ok paid with ⟨-, -, rfl⟩ | ⟨-, rfl⟩
      · rfl
      · rfl
  | withdrawYield =>
      apply leaves_returningUnit
      intro s' stepped
      obtain ⟨_, _, drawn⟩ := withdrawYield_ok stepped
      rw [drawn.state]
      rfl
  | setTreasury => cases other

theorem step_treasury_told (stepped : poolStep host s action = .ok (output, s')) :
    (fun _ => s'.treasury) =
      action.setsTreasury.elim (fun _ => s.treasury)
        fun told => Function.update (fun _ => s.treasury) told.1 told.2 := by
  funext _
  cases action with
  | invoke env call =>
      cases told : (Action.invoke env call).setsTreasury with
      | none => exact dispatch_leaves_treasury told _ stepped
      | some set =>
          cases call with
          | setTreasury treasury =>
              obtain rfl := Option.some.inj told
              obtain ⟨stepped, -⟩ := returningUnit_eq_ok.mp stepped
              simp only [setTreasury, bind_eq_ok, Except.ok.injEq] at stepped
              obtain ⟨_, -, rfl⟩ := stepped
              rfl
          | _ => cases told
  | closeLedger sequence timestamp =>
      obtain ⟨-, -, rfl⟩ := closeLedger_eq_ok.mp (returningUnit_eq_ok.mp stepped).1
      rfl
  | moveXlm holder balance =>
      obtain ⟨-, -, rfl⟩ := moveXlm_eq_ok.mp (returningUnit_eq_ok.mp stepped).1
      rfl
  | moveShares vault balance =>
      obtain rfl := moveShares_eq_ok.mp (returningUnit_eq_ok.mp stepped).1
      rfl

/-! ### The log and the state -/

variable {guard : System.Guard (State D) (Action D) (Output D)} {log : Log D}

theorem lastDeposit_eq (run : (poolSystem host).Run guard log s) (wallet : Address) :
    lastDeposit log wallet = depositOf s wallet := by
  have told : (fun wallet => amountOn (s.stakes.get wallet)) = lastDeposit log := by
    apply run.latest_eq fun s wallet => amountOn (s.stakes.get wallet)
    · intro s deployed
      have noStakes : s.stakes = Store.empty := (deployed_register deployed).noStakes
      funext wallet
      rw [noStakes]
      rfl
    · intro log s action output s' _ stepped
      exact (step_registers stepped).deposit_told
  exact (congrFun told wallet).symm

theorem lastNamed_eq (run : (poolSystem host).Run guard log s) (wallet : Address) :
    lastNamed host log wallet = beneficiaryOf s.stakes wallet := by
  have told : (fun wallet => beneficiaryOf s.stakes wallet) = lastNamed host log := by
    apply run.latest_eq fun s wallet => beneficiaryOf s.stakes wallet
    · intro s deployed
      have noStakes : s.stakes = Store.empty := (deployed_register deployed).noStakes
      funext wallet
      rw [noStakes]
      rfl
    · intro log s action output s' _ stepped
      exact (step_registers stepped).commitment_told
  exact (congrFun told wallet).symm

theorem lastEffect_eq (run : (poolSystem host).Run guard log s) (claimId : D) :
    lastEffect host log claimId = Claim.effect (s.claims.get claimId) := by
  have told : (fun claimId => Claim.effect (s.claims.get claimId)) = lastEffect host log := by
    apply run.latest_eq fun s claimId => Claim.effect (s.claims.get claimId)
    · intro s deployed
      have noClaims : s.claims = Store.empty := (deployed_register deployed).noClaims
      funext claimId
      rw [noClaims]
      rfl
    · intro log s action output s' _ stepped
      exact (step_registers stepped).effect_told
  exact (congrFun told claimId).symm

omit [DecidableEq D] in
theorem deployed_noTreasury (deployed : Deployed host s) : s.treasury = none := by
  obtain ⟨env, _, _, xlm, _, _, _, _, _, _, _, -, -, -, built⟩ := deployed
  simp [initializePool] at built
  obtain ⟨-, -, -, -, rfl⟩ := built
  rfl

theorem lastTreasury_eq (run : (poolSystem host).Run guard log s) :
    lastTreasury log = s.treasury := by
  have told : (fun _ : Unit => s.treasury) =
      System.latest (fun e => e.action.setsTreasury) (fun _ => none) log := by
    apply run.latest_eq fun s _ => s.treasury
    · intro s deployed
      funext _
      exact deployed_noTreasury deployed
    · intro log s action output s' _ stepped
      exact step_treasury_told stepped
  exact (congrFun told ()).symm

/-! ### Claims put into effect -/

/-- A step puts a claim of a wallet into effect until its cooldown ends at a ledger: the
wallet approves it, or the admin or the co-signer gives the second approval of an
override. -/
inductive PutsIntoEffect (host : Host D) (claimId : D) (wallet : Address) (ends : Nat)
    (e : Entry (State D) (Action D) (Output D)) : Prop where
  | approved {env : Env} {claim : Claim} (call : e.action = .invoke env (.approveClaim claimId))
      (signed : wallet ∈ env.signers) (listed : e.pre.claims.get claimId = some claim)
      (own : claim.wallet = wallet) (cooling : ends = e.pre.sequence + cooldownLedgers)
  | overridden {env : Env} {caller owner : Address} {txHash : BytesN 32} {entitlement : Int}
      {tier : Nat} {req : OverrideRequest}
      (call : e.action = .invoke env (.approveOverride caller owner txHash entitlement tier))
      (signed : caller ∈ env.signers) (filed : computeClaimId host owner txHash = claimId)
      (approval : e.pre.register.OverrideApproval host caller owner txHash entitlement tier req)
      (ready : e.pre.register.ready req = true) (own : req.wallet = wallet)
      (cooling : ends = e.pre.sequence + cooldownLedgers)

/-- An override is said to put a claim into effect when it is executed. -/
theorem RegisterStep.override_told {caller owner : Address} {txHash : BytesN 32}
    {entitlement : Int} {tier : Nat} {told : D × Option (Address × Nat)}
    (step : RegisterStep host (.invoke env (.approveOverride caller owner txHash entitlement tier))
      output r r')
    (tells : r.effects host (.invoke env (.approveOverride caller owner txHash entitlement tier)) =
      some told) :
    ∃ req, r.OverrideApproval host caller owner txHash entitlement tier req ∧
      r.ready req = true ∧
      (computeClaimId host owner txHash, some (req.wallet, r.sequence + cooldownLedgers)) =
        told := by
  cases step with
  | funds fundsOnly => cases fundsOnly
  | overridePending approval unready =>
      simp only [Register.effects, ← approval.requested, unready] at tells
      cases tells
  | overrideExecuted approval ready =>
      simp only [Register.effects, ← approval.requested, ready, if_true] at tells
      exact ⟨_, approval, ready, Option.some.inj tells⟩

/-- A step that tells so puts the claim into effect. -/
theorem putsIntoEffect {claimId : D} {wallet : Address} {ends : Nat}
    (stepped : poolStep host s action = .ok (output, s'))
    (told : s.register.effects host action = some (claimId, some (wallet, ends))) :
    PutsIntoEffect host claimId wallet ends ⟨s, action, output, s'⟩ := by
  cases action with
  | invoke env call =>
      have dispatched : dispatch host env s call = .ok (output, s') := stepped
      cases call with
      | approveClaim owner =>
          obtain ⟨claim, listed, same⟩ := Option.map_eq_some_iff.mp told
          cases same
          have asked : s.register.authorizer (.approveClaim claimId) = some claim.wallet := by
            rw [Register.authorizer, listed, Option.map_some]
          exact .approved rfl (dispatch_authorized dispatched asked).1 listed rfl rfl
      | approveOverride caller owner txHash entitlement tier =>
          obtain ⟨req, approval, ready, effect⟩ := (step_registers stepped).override_told told
          cases effect
          exact .overridden rfl (dispatch_authorized dispatched rfl).1 rfl approval ready rfl rfl
      | _ => cases told
  | _ => cases told

/-- A claim that the log says is in effect was put into effect by one of its steps. -/
theorem lastEffect_put {claimId : D} {wallet : Address} {ends : Nat}
    (run : (poolSystem host).Run guard log s)
    (told : lastEffect host log claimId = some (wallet, ends)) :
    ∃ e ∈ log, PutsIntoEffect host claimId wallet ends e := by
  obtain ⟨e, member, said⟩ := System.latest_told told nofun
  have steps : ∀ e ∈ log, poolStep host e.pre e.action = .ok (e.result, e.post) :=
    run.entries fun _ _ _ _ _ _ _ stepped => stepped
  exact ⟨e, member, putsIntoEffect (steps e member) said⟩

/-! ### Grounds -/

/-- What the past says for a transfer that a call orders: the deposit that leaves was made
and did not leave before, who is paid was named last by the wallet whose money it is, the
claim was put into effect and not ended and its cooldown is over, and yield goes to the
treasury set last. -/
inductive Foretold (host : Host D) (past : Log D) (now : Nat) :
    Call D → Transfer Address Int → Prop where
  | deposit {staker beneficiary : Address} {amount : Int} :
      Foretold host past now (.stake staker amount beneficiary) ⟨staker, host.contract, amount⟩
  | withdrawal {staker beneficiary : Address} {amount : Int}
      (standing : lastDeposit past staker = amount)
      (named : lastNamed host past staker = some (addressHash host beneficiary)) :
      Foretold host past now (.withdraw staker beneficiary) ⟨host.contract, beneficiary, amount⟩
  | exit {staker : Address} {amount : Int} (standing : lastDeposit past staker = amount) :
      Foretold host past now (.emergencyExit staker) ⟨host.contract, staker, amount⟩
  | payout {claimId : D} {wallet beneficiary : Address} {ends : Nat} {amount : Int}
      (inEffect : lastEffect host past claimId = some (wallet, ends))
      (put : ∃ e ∈ past, PutsIntoEffect host claimId wallet ends e) (cooled : ends ≤ now)
      (named : lastNamed host past wallet = some (addressHash host beneficiary)) :
      Foretold host past now (.claimStream claimId beneficiary)
        ⟨host.contract, beneficiary, amount⟩
  | extraction {shares minXlmOut sent : Int} {treasury : Address}
      (set : lastTreasury past = some treasury) :
      Foretold host past now (.extractYield shares minXlmOut) ⟨host.contract, treasury, sent⟩
  | surplus {amount : Int} {treasury : Address} (set : lastTreasury past = some treasury) :
      Foretold host past now (.withdrawYield amount) ⟨host.contract, treasury, amount⟩

/-- A sanctioned transfer is foretold by the log. -/
theorem Sanctioned.foretold {call : Call D} {t : Transfer Address Int}
    (run : (poolSystem host).Run guard log s) (sanctioned : Sanctioned host env s call t) :
    Foretold host log s.sequence call t := by
  cases sanctioned with
  | deposit => exact .deposit
  | withdrawal _ _ stored _ _ _ committed =>
      refine .withdrawal ?_ ?_
      · rw [lastDeposit_eq run, depositOf, stored, Option.map_some, Option.getD_some]
      · rw [lastNamed_eq run, beneficiaryOf, stored, Option.map_some, committed]
  | exit _ stored =>
      refine .exit ?_
      rw [lastDeposit_eq run, depositOf, stored, Option.map_some, Option.getD_some]
  | @payout claimId beneficiary claim _ _ _ listed _ active cooled stored _ committed =>
      have inEffect : lastEffect host log claimId =
          some (claim.wallet, claim.cooldownEndsLedger) := by
        rw [lastEffect_eq run, listed, effect_of_active active]
      refine .payout inEffect (lastEffect_put run inEffect) cooled ?_
      rw [lastNamed_eq run, beneficiaryOf, stored, Option.map_some, committed]
  | extraction _ recipient => exact .extraction ((lastTreasury_eq run).trans recipient)
  | surplus _ recipient => exact .surplus ((lastTreasury_eq run).trans recipient)

/-- Whether XLM may reach a holder by other ways than the contract's transfers: the pool,
when a call asks the vault, and a holder that moves its own. -/
def Action.movesOutside (host : Host D) (s : State D) (holder : Address) : Action D → Prop
  | .invoke _ call => holder = host.contract ∧
      ((depositedXlm host s call).isSome ∨ (redeemedShares host s call).isSome)
  | .moveXlm mover _ => holder = mover
  | _ => False

omit [DecidableEq D] in
theorem Action.outside_quiet {holder : Address} (quiet : ¬ action.movesOutside host s holder) :
    action.outside host s holder = 0 := by
  cases action with
  | invoke env call =>
      simp only [movesOutside, not_and, not_or, Option.not_isSome_iff_eq_none] at quiet
      simp only [outside, vaultFlow]
      split_ifs <;> simp_all
  | moveXlm mover balance => exact if_neg quiet
  | _ => rfl

/-- What a step does to the balances: outside movements apart, the ordered transfers and
nothing else, each of them sanctioned and foretold. -/
structure Grounded (host : Host D) (past : Log D) (e : Entry (State D) (Action D) (Output D)) :
    Prop where
  settled : ∀ holder, e.post.xlm holder = e.pre.xlm holder + e.action.outside host e.pre holder +
    received holder (e.action.ordered host e.pre e.result) -
    spent holder (e.action.ordered host e.pre e.result)
  outside : ∀ holder, ¬ e.action.movesOutside host e.pre holder →
    e.action.outside host e.pre holder = 0
  grounds : ∀ t ∈ e.action.ordered host e.pre e.result, ∃ env call, e.action = .invoke env call ∧
    Sanctioned host env e.pre call t ∧ Foretold host past e.pre.sequence call t

/-- In every run from deployment no step moves XLM but by transfers that the state
sanctions and the log foretells, by what the vault moves in a call that asks it, and by
what holders move by themselves. -/
theorem transfers_sanctioned (host : Host D) {log : Log D} {s : State D}
    (run : (poolSystem host).Run System.anyStep log s) : System.Along (Grounded host) log := by
  apply run.along_of_steps
  intro log s action output s' run met stepped
  constructor
  · exact step_balances stepped
  · exact fun holder => Action.outside_quiet
  · intro t member
    cases action with
    | invoke env call =>
        have sanctioned := dispatch_sanctioned stepped t member
        exact ⟨env, call, rfl, sanctioned, sanctioned.foretold run⟩
    | _ => cases member

/-- Deposits, a payout, an extraction with a gain, an outside movement and an exit. -/
theorem transfers_sanctioned_sample :
    ∃ log s, (poolSystem sampleHost).Run System.anyStep log s ∧
      (transfersOf sampleHost log).length = 6 ∧ System.Along (Grounded sampleHost) log := by
  obtain ⟨log, s, run, six⟩ := System.exists_run_of_replay (poolSystem sampleHost)
    System.anyStep samplePool_deployed
    (sampleOpening 20000 ++ [afterDays 60,
      callBy 11 (.claimStream (computeClaimId sampleHost (party 11) 0) (party 21)),
      callBy 1 (.setVault (.contract 2)), callBy 1 (.setTreasury (party 4)),
      callBy 1 (.setDeployBps 5000),
      .invoke (.of [party 1] ⟨40000, 40000, 0, 0⟩) (.deployToVault 40000 0),
      .invoke (.of [party 1] ⟨0, 0, 45000, 40000⟩) (.extractYield 40000 0),
      .moveXlm (party 21) 5, callBy 13 (.stake (party 13) 3000 (party 23)),
      callBy 13 (.emergencyExit (party 13))])
    (fun log _ => (transfersOf sampleHost log).length = 6) (by decide +kernel)
  exact ⟨log, s, run, six, transfers_sanctioned sampleHost run⟩

end ProtectionPool
