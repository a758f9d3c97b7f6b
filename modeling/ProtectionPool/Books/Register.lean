/-
Module: ProtectionPool.Books.Register
Purpose: The pool seen as a register: the roles, the pause switch, the daily
  counters, the deposits, claims, override requests, points and revocations on
  file, and the clock.  Each kind of write to the register is listed once, with
  the action it is filed under and what the action found; movements of funds
  write nothing.
Trusted boundary: none
Main exports: Register, State.register, Log, RegisterStep
-/
import ProtectionPool.Books.Step
import ProtectionPool.Model.Contract

namespace ProtectionPool

variable {D : Type} [DecidableEq D]

/-- Everything the contract keeps on file apart from its funds. -/
structure Register (D : Type) where
  admin : Address
  oracle : Address
  oraclePubkey : Option (BytesN 32)
  coSigner : Address
  paused : Bool
  dailyOutflow : Int
  lastOutflowDay : Nat
  dailyEntitlementTotal : Int
  lastEntitlementDay : Nat
  dailyClaimCount : Nat
  stakes : Store Address (StakeRecord D)
  claims : Store D Claim
  overrides : Store D OverrideRequest
  pointsBalances : Store Address Int
  revoked : Store D Nat
  sequence : Nat
  timestamp : Nat

/-- The register of a state. -/
def State.register (s : State D) : Register D where
  admin := s.admin
  oracle := s.oracle
  oraclePubkey := s.oraclePubkey
  coSigner := s.coSigner
  paused := s.paused
  dailyOutflow := s.dailyOutflow
  lastOutflowDay := s.lastOutflowDay
  dailyEntitlementTotal := s.dailyEntitlementTotal
  lastEntitlementDay := s.lastEntitlementDay
  dailyClaimCount := s.dailyClaimCount
  stakes := s.stakes
  claims := s.claims
  overrides := s.overrides
  pointsBalances := s.pointsBalances
  revoked := s.revoked
  sequence := s.sequence
  timestamp := s.timestamp

/-- The steps of a run of the deployed contract, the most recent one first. -/
abbrev Log (D : Type) := List (Entry (State D) (Action D) (Output D))

/-- The calls that move or configure funds and write nothing else. -/
def Call.movesFunds : Call D → Bool
  | .setPoolCap _ | .setVault _ | .setTreasury _ | .setDeployBps _ | .deployToVault _ _
  | .autoDeployLiquidity | .provideLiquidity _ _ | .ensureLiquidity | .extractYield _ _
  | .withdrawYield _ => true
  | _ => false

/-- The actions that leave the register alone. -/
def Action.movesFunds : Action D → Bool
  | .invoke _ call => call.movesFunds
  | .closeLedger _ _ => false
  | .moveXlm _ _ | .moveShares _ _ => true

omit [DecidableEq D] in
/-- An action that leaves the register alone is one of these. -/
theorem Action.fundsCases {motive : (action : Action D) → action.movesFunds = true → Prop}
    (setPoolCap : ∀ env cap, motive (.invoke env (.setPoolCap cap)) rfl)
    (setVault : ∀ env vault, motive (.invoke env (.setVault vault)) rfl)
    (setTreasury : ∀ env treasury, motive (.invoke env (.setTreasury treasury)) rfl)
    (setDeployBps : ∀ env bps, motive (.invoke env (.setDeployBps bps)) rfl)
    (deployToVault : ∀ env amount minSharesOut,
      motive (.invoke env (.deployToVault amount minSharesOut)) rfl)
    (autoDeployLiquidity : ∀ env, motive (.invoke env .autoDeployLiquidity) rfl)
    (provideLiquidity : ∀ env shares minXlmOut,
      motive (.invoke env (.provideLiquidity shares minXlmOut)) rfl)
    (ensureLiquidity : ∀ env, motive (.invoke env .ensureLiquidity) rfl)
    (extractYield : ∀ env shares minXlmOut,
      motive (.invoke env (.extractYield shares minXlmOut)) rfl)
    (withdrawYield : ∀ env amount, motive (.invoke env (.withdrawYield amount)) rfl)
    (moveXlm : ∀ holder balance, motive (.moveXlm holder balance) rfl)
    (moveShares : ∀ vault balance, motive (.moveShares vault balance) rfl)
    (action : Action D) (fundsOnly : action.movesFunds = true) : motive action fundsOnly := by
  cases action with
  | invoke env call => cases call <;> first | cases fundsOnly; done | simp only [*]
  | closeLedger => cases fundsOnly
  | moveXlm holder balance => exact moveXlm holder balance
  | moveShares vault balance => exact moveShares vault balance

/-! ### Claims as the entries leave them -/

/-- A claim whose clock an unsuspension restarts. -/
def Claim.restarted (claim : Claim) (now : Nat) : Claim :=
  match claim.status with
  | .awaitingApproval => { claim with approveDeadlineLedger := now + approveWindowLedgers }
  | .active => { claim with lastCollectedLedger := now }
  | _ => claim

namespace Register

/-- The day the counters are kept for. -/
def today (r : Register D) : Nat := r.timestamp / secondsPerDay % 2 ^ 32

/-- What was paid today. -/
def outflowToday (r : Register D) : Int :=
  if r.lastOutflowDay ≠ r.today then 0 else r.dailyOutflow

/-- What was admitted today, and how many oracle admissions that were. -/
def admittedToday (r : Register D) : Int × Nat :=
  if r.lastEntitlementDay ≠ r.today then (0, 0)
  else (r.dailyEntitlementTotal, r.dailyClaimCount)

/-- The status and the approval deadline of a newly admitted claim. -/
def Admission (r : Register D) (record : StakeRecord D) (status : ClaimStatus)
    (deadline : Nat) : Prop :=
  (status = .awaitingApproval ∧ deadline = r.sequence + approveWindowLedgers ∧
      timeGateLedgers ≤ r.sequence - record.stakedAtLedger) ∨
    (status = .pendingTime ∧ deadline = 0 ∧
      r.sequence - record.stakedAtLedger < timeGateLedgers)

/-- The register after a claim is admitted and counted. -/
def enterClaim (r : Register D) (wallet : Address) (claimId : D) (record : StakeRecord D)
    (claim : Claim) (counted : Nat) : Register D :=
  { r with
    lastEntitlementDay := r.today
    dailyEntitlementTotal := r.admittedToday.1 + claim.entitlement
    dailyClaimCount := r.admittedToday.2 + counted
    stakes := r.stakes.set wallet
      { record with activeClaimId := some claimId, reservedClaimId := none }
    claims := r.claims.set claimId claim }

/-- An approval the oracle signed is in time and not revoked. -/
def AcceptsApproval (host : Host D) (r : Register D) (wallet : Address) (txHash : BytesN 32)
    (entitlement : Int) (tier hackTimestamp deadline : Nat) : Prop :=
  (r.timestamp ≤ deadline ∧ deadline ≤ r.timestamp + maxApprovalWindowSeconds) ∧
    ∀ liveUntil,
      r.revoked.get (approvalHash host
        (buildApprovalPayload host wallet txHash entitlement tier hackTimestamp deadline)) =
          some liveUntil → liveUntil < r.sequence

/-- What a submission finds when it succeeds. -/
structure Submission (host : Host D) (r : Register D) (caller wallet : Address)
    (txHash : BytesN 32) (entitlement : Int) (tier hackTimestamp deadline : Nat)
    (record : StakeRecord D) : Prop where
  running : r.paused = false
  role : caller = r.oracle ∨ caller = r.admin
  positive : 0 < entitlement
  accepted : caller = r.oracle →
    r.AcceptsApproval host wallet txHash entitlement tier hackTimestamp deadline
  stored : r.stakes.get wallet = some record
  funded : 0 < record.amount
  standing : record.withdrawn = false
  unsuspended : record.suspended = false
  inactive : record.activeClaimId = none
  unqueued : record.reservedClaimId = none
  unused : ∀ claim, r.claims.get (computeClaimId host wallet txHash) = some claim →
    claim.status = .unused

/-- The request an override approval is recorded on, with the approval. -/
def request (host : Host D) (r : Register D) (caller wallet : Address) (txHash : BytesN 32)
    (entitlement : Int) (tier : Nat) : OverrideRequest :=
  let pending := (r.overrides.get (computeClaimId host wallet txHash)).getD
    { wallet := wallet
      txHash := txHash
      entitlement := entitlement
      tier := tier
      ownerApprover := none
      coSignerApprover := none }
  { pending with
    ownerApprover := if caller = r.admin then some r.admin else pending.ownerApprover
    coSignerApprover := if caller = r.coSigner then some r.coSigner else pending.coSignerApprover }

/-- Both approvals are those of the current admin and co-signer. -/
def ready (r : Register D) (req : OverrideRequest) : Bool :=
  (decide (req.ownerApprover = some r.admin) && decide (req.coSignerApprover = some r.coSigner))
    || decide (r.coSigner = r.admin)

/-- What an override approval finds when it succeeds. -/
structure OverrideApproval (host : Host D) (r : Register D) (caller wallet : Address)
    (txHash : BytesN 32) (entitlement : Int) (tier : Nat) (req : OverrideRequest) : Prop where
  running : r.paused = false
  role : caller = r.admin ∨ caller = r.coSigner
  positive : 0 < entitlement
  requested : req = r.request host caller wallet txHash entitlement tier
  entitlement : req.entitlement = entitlement
  tier : req.tier = tier

end Register

/-- The writes to the register.  Each names the action it is filed under with
its output, the records it is made on, and what must hold for it to be made. -/
inductive RegisterStep (host : Host D) :
    Action D → Output D → Register D → Register D → Prop where
  | funds {r : Register D} {action : Action D} {output : Output D}
      (fundsOnly : action.movesFunds = true) : RegisterStep host action output r r
  | clock {r : Register D} {sequence timestamp : Nat} {output : Output D}
      (sequenceAdvances : r.sequence ≤ sequence) (timestampAdvances : r.timestamp ≤ timestamp)
      (sequenceFits : sequence < 2 ^ 32) (timestampFits : timestamp < 2 ^ 64) :
      RegisterStep host (.closeLedger sequence timestamp) output r
        { r with sequence := sequence, timestamp := timestamp }
  | oracleSet {r : Register D} {env : Env} {newOracle : Address} {output : Output D}
      (distinct : newOracle ≠ r.coSigner) :
      RegisterStep host (.invoke env (.setOracle newOracle)) output r { r with oracle := newOracle }
  | pubkeySet {r : Register D} {env : Env} {newPubkey : BytesN 32} {output : Output D} :
      RegisterStep host (.invoke env (.setOraclePubkey newPubkey)) output r
        { r with oraclePubkey := some newPubkey }
  | identitySet {r : Register D} {env : Env} {newOracle : Address} {newPubkey : BytesN 32}
      {output : Output D} (distinct : newOracle ≠ r.coSigner) :
      RegisterStep host (.invoke env (.setOracleIdentity newOracle newPubkey)) output r
        { r with oracle := newOracle, oraclePubkey := some newPubkey }
  | coSignerSet {r : Register D} {env : Env} {newCoSigner : Address} {output : Output D}
      (notOracle : newCoSigner ≠ r.oracle) (notAdmin : newCoSigner ≠ r.admin) :
      RegisterStep host (.invoke env (.setCoSigner newCoSigner)) output r
        { r with coSigner := newCoSigner }
  | adminTransferred {r : Register D} {env : Env} {newAdmin : Address} {output : Output D}
      (distinct : newAdmin ≠ r.coSigner) :
      RegisterStep host (.invoke env (.transferAdmin newAdmin)) output r
        { r with admin := newAdmin }
  | paused {r : Register D} {env : Env} {output : Output D} :
      RegisterStep host (.invoke env .pause) output r { r with paused := true }
  | unpaused {r : Register D} {env : Env} {output : Output D} :
      RegisterStep host (.invoke env .unpause) output r { r with paused := false }
  | staked {r : Register D} {env : Env} {staker beneficiary : Address} {amount : Int}
      {output : Output D} (running : r.paused = false) (positive : 0 < amount)
      (vacant : ∀ record, r.stakes.get staker = some record → record.isLive = false) :
      RegisterStep host (.invoke env (.stake staker amount beneficiary)) output r
        { r with
          stakes := r.stakes.set staker
            { beneficiaryHash := addressHash host beneficiary
              amount := amount
              stakedAtLedger := r.sequence
              stakedAtTimestamp := r.timestamp
              penaltyLockedUntilLedger := 0
              withdrawn := false
              suspended := false
              activeClaimId := none
              reservedClaimId := none } }
  | beneficiarySet {r : Register D} {env : Env} {staker newBeneficiary : Address}
      {record : StakeRecord D} {output : Output D} (running : r.paused = false)
      (stored : r.stakes.get staker = some record) (funded : 0 < record.amount)
      (standing : record.withdrawn = false) :
      RegisterStep host (.invoke env (.setBeneficiary staker newBeneficiary)) output r
        { r with
          stakes := r.stakes.set staker
            { record with beneficiaryHash := addressHash host newBeneficiary } }
  | withdrawn {r : Register D} {env : Env} {staker beneficiary : Address}
      {record : StakeRecord D} {points : Store Address Int} {output : Output D}
      (running : r.paused = false) (stored : r.stakes.get staker = some record)
      (funded : 0 < record.amount) (standing : record.withdrawn = false)
      (inactive : record.activeClaimId = none)
      (unlocked : record.penaltyLockedUntilLedger ≤ r.sequence)
      (committed : addressHash host beneficiary = record.beneficiaryHash)
      (banked : points = r.pointsBalances ∨
        ∃ balance, points = r.pointsBalances.set staker balance) :
      RegisterStep host (.invoke env (.withdraw staker beneficiary)) output r
        { r with
          stakes := r.stakes.set staker { record with withdrawn := true, amount := 0 }
          pointsBalances := points }
  | emergencyExited {r : Register D} {env : Env} {staker : Address} {record : StakeRecord D}
      {output : Output D} (stored : r.stakes.get staker = some record)
      (funded : 0 < record.amount) (standing : record.withdrawn = false)
      (inactive : record.activeClaimId = none) :
      RegisterStep host (.invoke env (.emergencyExit staker)) output r
        { r with stakes := r.stakes.set staker { record with withdrawn := true, amount := 0 } }
  | suspended {r : Register D} {env : Env} {wallet : Address} {record : StakeRecord D}
      {output : Output D} (stored : r.stakes.get wallet = some record) :
      RegisterStep host (.invoke env (.suspendStake wallet)) output r
        { r with stakes := r.stakes.set wallet { record with suspended := true } }
  | unsuspended {r : Register D} {env : Env} {wallet : Address} {claimId : Option D}
      {record : StakeRecord D} {output : Output D} (stored : r.stakes.get wallet = some record)
      (foreign : ∀ id claim, claimId = some id → r.claims.get id = some claim →
        claim.wallet ≠ wallet) :
      RegisterStep host (.invoke env (.unsuspendStake wallet claimId)) output r
        { r with stakes := r.stakes.set wallet { record with suspended := false } }
  | restarted {r : Register D} {env : Env} {claimId : D} {claim : Claim}
      {record : StakeRecord D} {output : Output D}
      (listed : r.claims.get claimId = some claim)
      (stored : r.stakes.get claim.wallet = some record) :
      RegisterStep host (.invoke env (.unsuspendStake claim.wallet (some claimId))) output r
        { r with
          stakes := r.stakes.set claim.wallet { record with suspended := false }
          claims := r.claims.set claimId (claim.restarted r.sequence) }
  | queued {r : Register D} {env : Env} {caller wallet : Address} {txHash : BytesN 32}
      {entitlement : Int} {tier hackTimestamp deadline : Nat} {signature : BytesN 64}
      {record : StakeRecord D} {output : Output D}
      (submission : r.Submission host caller wallet txHash entitlement tier hackTimestamp
        deadline record) :
      RegisterStep host
        (.invoke env (.submitClaim caller wallet txHash entitlement tier hackTimestamp deadline
          signature)) output r
        { r with
          stakes := r.stakes.set wallet
            { record with reservedClaimId := some (computeClaimId host wallet txHash) }
          claims := r.claims.set (computeClaimId host wallet txHash)
            (freshClaim wallet txHash hackTimestamp entitlement record.amount tier .reserved 0) }
  | admitted {r : Register D} {env : Env} {caller wallet : Address} {txHash : BytesN 32}
      {entitlement : Int} {tier hackTimestamp deadline approveDeadline : Nat}
      {signature : BytesN 64} {record : StakeRecord D} {status : ClaimStatus}
      {output : Output D}
      (submission : r.Submission host caller wallet txHash entitlement tier hackTimestamp
        deadline record)
      (admission : r.Admission record status approveDeadline) :
      RegisterStep host
        (.invoke env (.submitClaim caller wallet txHash entitlement tier hackTimestamp deadline
          signature)) output r
        (r.enterClaim wallet (computeClaimId host wallet txHash) record
          (freshClaim wallet txHash hackTimestamp entitlement record.amount tier status
            approveDeadline)
          (if caller = r.oracle then 1 else 0))
  | released {r : Register D} {env : Env} {claimId : D} {claim : Claim}
      {record : StakeRecord D} {approveDeadline : Nat} {status : ClaimStatus} {output : Output D}
      (running : r.paused = false) (listed : r.claims.get claimId = some claim)
      (reserved : claim.status = .reserved)
      (stored : r.stakes.get claim.wallet = some record)
      (own : record.activeClaimId = none ∨ record.activeClaimId = some claimId)
      (admission : r.Admission record status approveDeadline) :
      RegisterStep host (.invoke env (.tryReleaseQueuedClaim claimId)) output r
        (r.enterClaim claim.wallet claimId record
          (freshClaim claim.wallet claim.txHash claim.hackTimestamp claim.entitlement
            record.amount claim.tier status approveDeadline)
          0)
  | queueExpired {r : Register D} {env : Env} {claimId : D} {claim : Claim}
      {record : StakeRecord D} {output : Output D} (running : r.paused = false)
      (listed : r.claims.get claimId = some claim) (reserved : claim.status = .reserved)
      (stored : r.stakes.get claim.wallet = some record) :
      RegisterStep host (.invoke env (.expireQueuedClaim claimId)) output r
        { r with
          stakes := r.stakes.set claim.wallet { record with reservedClaimId := none }
          claims := r.claims.set claimId { claim with status := .expired } }
  | unlocked {r : Register D} {env : Env} {claimId : D} {claim : Claim}
      {record : StakeRecord D} {output : Output D} (running : r.paused = false)
      (listed : r.claims.get claimId = some claim) (pending : claim.status = .pendingTime)
      (stored : r.stakes.get claim.wallet = some record)
      (gate : record.stakedAtLedger + timeGateLedgers ≤ r.sequence) :
      RegisterStep host (.invoke env (.unlockPendingClaim claimId)) output r
        { r with
          claims := r.claims.set claimId
            { claim with
              status := .awaitingApproval
              approveDeadlineLedger := r.sequence + approveWindowLedgers } }
  | approved {r : Register D} {env : Env} {claimId : D} {claim : Claim}
      {record : StakeRecord D} {snapshot : Int} {output : Output D}
      (running : r.paused = false) (listed : r.claims.get claimId = some claim)
      (awaiting : claim.status = .awaitingApproval)
      (inTime : r.sequence ≤ claim.approveDeadlineLedger)
      (stored : r.stakes.get claim.wallet = some record)
      (unsuspended : record.suspended = false) :
      RegisterStep host (.invoke env (.approveClaim claimId)) output r
        { r with
          pointsBalances := r.pointsBalances.set claim.wallet 0
          stakes := r.stakes.set claim.wallet { record with withdrawn := true }
          claims := r.claims.set claimId
            (claim.activated record.amount snapshot (r.sequence + cooldownLedgers)) }
  | approvalExpired {r : Register D} {env : Env} {claimId : D} {claim : Claim}
      {record : StakeRecord D} {output : Output D}
      (listed : r.claims.get claimId = some claim)
      (awaiting : claim.status = .awaitingApproval)
      (stored : r.stakes.get claim.wallet = some record)
      (unsuspended : record.suspended = false)
      (late : claim.approveDeadlineLedger < r.sequence) :
      RegisterStep host (.invoke env (.expirePendingApproval claimId)) output r
        { r with
          stakes := r.stakes.set claim.wallet { record with activeClaimId := none }
          claims := r.claims.set claimId { claim with status := .expired } }
  | staleExpired {r : Register D} {env : Env} {claimId : D} {claim : Claim}
      {record : StakeRecord D} {output : Output D}
      (listed : r.claims.get claimId = some claim) (active : claim.status = .active)
      (unpaid : claim.streamed < claim.entitlement)
      (stored : r.stakes.get claim.wallet = some record)
      (unsuspended : record.suspended = false)
      (late : collectionInactivityLedgers < r.sequence - claim.lastCollectedLedger) :
      RegisterStep host (.invoke env (.expireStaleClaim claimId)) output r
        { r with
          stakes := r.stakes.set claim.wallet { record with activeClaimId := none }
          claims := r.claims.set claimId { claim with status := .expired } }
  | streamed {r : Register D} {env : Env} {claimId : D} {beneficiary : Address} {claim : Claim}
      {record : StakeRecord D} {amount : Int} (running : r.paused = false)
      (listed : r.claims.get claimId = some claim) (active : claim.status = .active)
      (cooled : claim.cooldownEndsLedger ≤ r.sequence)
      (unpaid : claim.streamed < claim.entitlement)
      (stored : r.stakes.get claim.wallet = some record)
      (unsuspended : record.suspended = false)
      (committed : addressHash host beneficiary = record.beneficiaryHash)
      (positive : 0 < amount) :
      RegisterStep host (.invoke env (.claimStream claimId beneficiary)) (.amount amount) r
        { r with
          lastOutflowDay := r.today
          dailyOutflow := r.outflowToday + amount
          claims := r.claims.set claimId (claim.paid amount r.sequence) }
  | droppedPending {r : Register D} {env : Env} {claimId : D} {claim : Claim}
      {record : StakeRecord D} {output : Output D}
      (listed : r.claims.get claimId = some claim) (pending : claim.status.isPending = true)
      (stored : r.stakes.get claim.wallet = some record) :
      RegisterStep host (.invoke env (.cancelClaim claimId)) output r
        { r with
          stakes := r.stakes.set claim.wallet { record with activeClaimId := none }
          claims := r.claims.set claimId { claim with status := .cancelled } }
  | reversed {r : Register D} {env : Env} {claimId : D} {claim : Claim}
      {record : StakeRecord D} {output : Output D}
      (listed : r.claims.get claimId = some claim) (active : claim.status = .active)
      (stored : r.stakes.get claim.wallet = some record) :
      RegisterStep host (.invoke env (.cancelClaim claimId)) output r
        { r with
          stakes := r.stakes.set claim.wallet
            { record with
              withdrawn := false
              penaltyLockedUntilLedger := r.sequence + penaltyLockLedgers
              activeClaimId := none }
          claims := r.claims.set claimId { claim with status := .cancelled } }
  | overridePending {r : Register D} {env : Env} {caller wallet : Address}
      {txHash : BytesN 32} {entitlement : Int} {tier : Nat} {req : OverrideRequest}
      {output : Output D}
      (approval : r.OverrideApproval host caller wallet txHash entitlement tier req)
      (unready : r.ready req = false) :
      RegisterStep host (.invoke env (.approveOverride caller wallet txHash entitlement tier))
        output r
        { r with overrides := r.overrides.set (computeClaimId host wallet txHash) req }
  | overrideExecuted {r : Register D} {env : Env} {caller wallet : Address}
      {txHash : BytesN 32} {entitlement : Int} {tier : Nat} {req : OverrideRequest}
      {record : StakeRecord D} {snapshot : Int} {output : Output D}
      (approval : r.OverrideApproval host caller wallet txHash entitlement tier req)
      (ready : r.ready req = true)
      (unfinished : ∀ claim, r.claims.get (computeClaimId host wallet txHash) = some claim →
        claim.status ≠ .completed)
      (stored : r.stakes.get req.wallet = some record) (funded : 0 < record.amount)
      (own : record.activeClaimId = none ∨
        record.activeClaimId = some (computeClaimId host wallet txHash)) :
      RegisterStep host (.invoke env (.approveOverride caller wallet txHash entitlement tier))
        output r
        { r with
          overrides := r.overrides.remove (computeClaimId host wallet txHash)
          pointsBalances :=
            if record.withdrawn then r.pointsBalances else r.pointsBalances.set req.wallet 0
          stakes := r.stakes.set req.wallet
            { record with
              withdrawn := true
              activeClaimId := some (computeClaimId host wallet txHash)
              reservedClaimId :=
                if record.reservedClaimId = some (computeClaimId host wallet txHash) then none
                else record.reservedClaimId }
          claims := r.claims.set (computeClaimId host wallet txHash)
            ((req.claim record.amount
                (carriedStreamed (r.claims.get (computeClaimId host wallet txHash)))
                r.timestamp).activated record.amount snapshot (r.sequence + cooldownLedgers)) }
  | overrideCancelled {r : Register D} {env : Env} {caller wallet : Address}
      {txHash : BytesN 32} {output : Output D} (role : caller = r.admin)
      (pending : (r.overrides.get (computeClaimId host wallet txHash)).isSome = true) :
      RegisterStep host (.invoke env (.cancelPendingOverride caller wallet txHash)) output r
        { r with overrides := r.overrides.remove (computeClaimId host wallet txHash) }
  | revoked {r : Register D} {env : Env} {caller wallet : Address} {txHash : BytesN 32}
      {entitlement : Int} {tier hackTimestamp deadline : Nat} {output : Output D}
      (role : caller = r.admin)
      (inTime : r.timestamp ≤ deadline ∧ deadline ≤ r.timestamp + maxApprovalWindowSeconds) :
      RegisterStep host
        (.invoke env (.revokeApproval caller wallet txHash entitlement tier hackTimestamp
          deadline)) output r
        { r with
          revoked := r.revoked.set
            (approvalHash host
              (buildApprovalPayload host wallet txHash entitlement tier hackTimestamp deadline))
            (r.sequence + revocationTtlLedgers) }

variable {host : Host D} {r r' : Register D} {action : Action D} {output : Output D}

/-! ### Admissions -/

omit [DecidableEq D] in
/-- A claim is out of the queue once it is admitted. -/
theorem Register.Admission.outOfQueue {record : StakeRecord D} {status : ClaimStatus}
    {deadline : Nat} (admission : r.Admission record status deadline) : status ≠ .reserved := by
  rcases admission with ⟨rfl, -⟩ | ⟨rfl, -⟩ <;> decide

/-! ### The clock -/

/-- Ledgers are not taken back. -/
theorem RegisterStep.sequence_le (step : RegisterStep host action output r r') :
    r.sequence ≤ r'.sequence := by
  cases step with
  | clock sequenceAdvances => exact sequenceAdvances
  | _ => exact le_refl _

/-- Time does not run backwards. -/
theorem RegisterStep.timestamp_le (step : RegisterStep host action output r r') :
    r.timestamp ≤ r'.timestamp := by
  cases step with
  | clock _ timestampAdvances => exact timestampAdvances
  | _ => exact le_refl _

end ProtectionPool
