/-
Module: ProtectionPool.Books.Step
Purpose: The pool seen as books of account: the deposits, the claims, the four
  aggregates kept over them and the XLM behind them, with the entries that may
  be made.  This is the statement of what the contract does to its books; how
  it decides to do so is the business of the operations.
Trusted boundary: none
Main exports: Books, BookEvent, Books.Eligible, BookStep, DepositChange
-/
import ProtectionPool.Model.Override

namespace ProtectionPool

open Checked

variable {D : Type} [DecidableEq D]

/-- The accounts of the pool.  `liquid` is the XLM it holds, `funds` that together
with the principal it has deployed. -/
structure Books (D : Type) where
  stakes : Store Address (StakeRecord D)
  claims : Store D Claim
  totalStaked : Int
  totalAllocated : Int
  totalStakers : Nat
  liquid : Int
  funds : Int
  sequence : Nat
  timestamp : Nat

/-- What a step does to the books, as far as its caller and the state before it
decide. -/
inductive BookEvent (D : Type) where
  | staked (wallet : Address)
  | exited (wallet : Address)
  | submitted (wallet : Address) (claimId : D)
  | released (wallet : Address) (claimId : D)
  | queueExpired (wallet : Address) (claimId : D)
  | unlocked (wallet : Address) (claimId : D)
  | approved (wallet : Address) (claimId : D)
  | approvalExpired (wallet : Address) (claimId : D)
  | staleExpired (wallet : Address) (claimId : D)
  | streamed (wallet : Address) (claimId : D) (amount : Int) (leavesPool : Bool)
  | cancelled (wallet : Address) (claimId : D)
  | overridden (wallet : Address) (claimId : D) (entitlement : Int)
  | redeemed (loss : Int)
  | deployed (booked pulled : Int)
  | other
deriving DecidableEq

namespace Books

/-- A new deposit. -/
def deposit (b : Books D) (amount : Int) (beneficiaryHash : D) : StakeRecord D where
  beneficiaryHash := beneficiaryHash
  amount := amount
  stakedAtLedger := b.sequence
  stakedAtTimestamp := b.timestamp
  penaltyLockedUntilLedger := 0
  withdrawn := false
  suspended := false
  activeClaimId := none
  reservedClaimId := none

/-- What a submission requires of the deposit and of the claimed loss. -/
structure Eligible (b : Books D) (record : StakeRecord D) (entitlement : Int)
    (tier hackTimestamp : Nat) : Prop where
  positive : 0 < entitlement
  funded : 0 < record.amount
  standing : record.withdrawn = false
  unsuspended : record.suspended = false
  inactive : record.activeClaimId = none
  unqueued : record.reservedClaimId = none
  covered : ∃ cap, tierCap record.amount tier = .ok cap ∧ entitlement ≤ cap
  past : hackTimestamp ≤ b.timestamp
  afterStake : record.stakedAtTimestamp ≤ hackTimestamp
  windowFits : hackTimestamp + claimWindowSeconds < 2 ^ 64
  inWindow : b.timestamp ≤ hackTimestamp + claimWindowSeconds

/-- The status a deposit's age gives a newly admitted claim. -/
def Admission (b : Books D) (record : StakeRecord D) (status : ClaimStatus) : Prop :=
  (status = .awaitingApproval ∧ timeGateLedgers ≤ b.sequence - record.stakedAtLedger) ∨
    (status = .pendingTime ∧ b.sequence - record.stakedAtLedger < timeGateLedgers)

omit [DecidableEq D] in
/-- An admitted claim waits for its time gate or for its approval. -/
theorem Admission.pending {b : Books D} {record : StakeRecord D} {status : ClaimStatus}
    (admission : b.Admission record status) : status.isPending = true := by
  rcases admission with ⟨rfl, -⟩ | ⟨rfl, -⟩
  · rfl
  · rfl

/-- The books after a claim is admitted. -/
def enterClaim (b : Books D) (wallet : Address) (claimId : D) (record : StakeRecord D)
    (claim : Claim) : Books D :=
  { b with
    totalAllocated := b.totalAllocated + claim.entitlement
    stakes := b.stakes.set wallet
      { record with activeClaimId := some claimId, reservedClaimId := none }
    claims := b.claims.set claimId claim }

/-- `total_allocated` once the reservation of the claim an override replaces is
released. -/
def afterRelease (b : Books D) : Option Claim → Int
  | some c =>
      if c.status.isLive then saturatingSub b.totalAllocated (c.entitlement - c.streamed)
      else b.totalAllocated
  | none => b.totalAllocated

end Books

/-- A claim as activation leaves it: the clocks start over. -/
def Claim.activated (claim : Claim) (stake snapshot : Int) (cooldownEnds : Nat) : Claim :=
  { claim with
    totalStakedSnapshot := snapshot
    stake := stake
    cooldownEndsLedger := cooldownEnds
    vestingEndsLedger := cooldownEnds + vestingLedgers
    lastCollectedLedger := cooldownEnds
    status := .active }

/-- The claim an override puts into effect, before its activation. -/
def OverrideRequest.claim (req : OverrideRequest) (amount streamed : Int) (now : Nat) : Claim :=
  { freshClaim req.wallet req.txHash now req.entitlement amount req.tier .active 0 with
    streamed := streamed }

/-- A claim after a payout. -/
def Claim.paid (claim : Claim) (amount : Int) (now : Nat) : Claim :=
  { claim with
    streamed := claim.streamed + amount
    lastCollectedLedger := now
    status :=
      if claim.streamed + amount ≥ claim.entitlement then .completed else claim.status }

/-- The entries of the books, with claims filed under an identifier of their
wallet and transaction.  Each entry names the records it is made on and what
must hold for it to be made. -/
inductive BookStep (idOf : Address → BytesN 32 → D) :
    BookEvent D → Books D → Books D → Prop where
  | staked {b : Books D} {wallet : Address} {amount liquid funds : Int} {beneficiaryHash : D}
      (positive : 0 < amount)
      (vacant : ∀ record, b.stakes.get wallet = some record → record.isLive = false)
      (payment : liquid = b.liquid + amount ∧ funds = b.funds + amount) :
      BookStep idOf (.staked wallet) b
        { b with
          stakes := b.stakes.set wallet (b.deposit amount beneficiaryHash)
          totalStaked := b.totalStaked + amount
          totalStakers := b.totalStakers + 1
          liquid := liquid
          funds := funds }
  | exited {b : Books D} {wallet : Address} {record : StakeRecord D} {liquid funds : Int}
      (stored : b.stakes.get wallet = some record)
      (funded : 0 < record.amount) (standing : record.withdrawn = false)
      (inactive : record.activeClaimId = none) (afforded : record.amount ≤ b.liquid)
      (payment : (liquid = b.liquid - record.amount ∧ funds = b.funds - record.amount) ∨
        (liquid = b.liquid ∧ funds = b.funds)) :
      BookStep idOf (.exited wallet) b
        { b with
          stakes := b.stakes.set wallet { record with withdrawn := true, amount := 0 }
          totalStaked := b.totalStaked - record.amount
          totalStakers := b.totalStakers - 1
          liquid := liquid
          funds := funds }
  | queued {b : Books D} {wallet : Address} {claimId : D} {record : StakeRecord D}
      {txHash : BytesN 32} {entitlement : Int} {tier hackTimestamp : Nat}
      (named : claimId = idOf wallet txHash) (stored : b.stakes.get wallet = some record)
      (eligible : b.Eligible record entitlement tier hackTimestamp)
      (unused : ∀ claim, b.claims.get claimId = some claim → claim.status = .unused) :
      BookStep idOf (.submitted wallet claimId) b
        { b with
          stakes := b.stakes.set wallet { record with reservedClaimId := some claimId }
          claims := b.claims.set claimId
            (freshClaim wallet txHash hackTimestamp entitlement record.amount tier .reserved 0) }
  | admitted {b : Books D} {wallet : Address} {claimId : D} {record : StakeRecord D}
      {txHash : BytesN 32} {entitlement : Int} {tier hackTimestamp deadline : Nat}
      {status : ClaimStatus}
      (named : claimId = idOf wallet txHash) (stored : b.stakes.get wallet = some record)
      (eligible : b.Eligible record entitlement tier hackTimestamp)
      (unused : ∀ claim, b.claims.get claimId = some claim → claim.status = .unused)
      (fits : InI128 (b.totalAllocated + entitlement))
      (solvent : b.totalAllocated + entitlement ≤ b.totalStaked)
      (admission : b.Admission record status) :
      BookStep idOf (.submitted wallet claimId) b
        (b.enterClaim wallet claimId record
          (freshClaim wallet txHash hackTimestamp entitlement record.amount tier status deadline))
  | released {b : Books D} {claimId : D} {claim : Claim} {record : StakeRecord D}
      {deadline : Nat} {status : ClaimStatus}
      (listed : b.claims.get claimId = some claim) (reserved : claim.status = .reserved)
      (stored : b.stakes.get claim.wallet = some record)
      (own : record.activeClaimId = none ∨ record.activeClaimId = some claimId)
      (fits : InI128 (b.totalAllocated + claim.entitlement))
      (solvent : b.totalAllocated + claim.entitlement ≤ b.totalStaked)
      (admission : b.Admission record status) :
      BookStep idOf (.released claim.wallet claimId) b
        (b.enterClaim claim.wallet claimId record
          (freshClaim claim.wallet claim.txHash claim.hackTimestamp claim.entitlement
            record.amount claim.tier status deadline))
  | queueExpired {b : Books D} {claimId : D} {claim : Claim} {record : StakeRecord D}
      (listed : b.claims.get claimId = some claim) (reserved : claim.status = .reserved)
      (stored : b.stakes.get claim.wallet = some record) :
      BookStep idOf (.queueExpired claim.wallet claimId) b
        { b with
          stakes := b.stakes.set claim.wallet { record with reservedClaimId := none }
          claims := b.claims.set claimId { claim with status := .expired } }
  | unlocked {b : Books D} {claimId : D} {claim : Claim} {record : StakeRecord D}
      {deadline : Nat}
      (listed : b.claims.get claimId = some claim) (pending : claim.status = .pendingTime)
      (stored : b.stakes.get claim.wallet = some record)
      (gate : record.stakedAtLedger + timeGateLedgers ≤ b.sequence) :
      BookStep idOf (.unlocked claim.wallet claimId) b
        { b with
          claims := b.claims.set claimId
            { claim with status := .awaitingApproval, approveDeadlineLedger := deadline } }
  | approved {b : Books D} {claimId : D} {claim : Claim} {record : StakeRecord D}
      (listed : b.claims.get claimId = some claim)
      (awaiting : claim.status = .awaitingApproval)
      (stored : b.stakes.get claim.wallet = some record)
      (unsuspended : record.suspended = false) :
      BookStep idOf (.approved claim.wallet claimId) b
        { b with
          totalStaked := b.totalStaked - record.amount
          totalStakers := b.totalStakers - 1
          stakes := b.stakes.set claim.wallet { record with withdrawn := true }
          claims := b.claims.set claimId
            (claim.activated record.amount b.totalStaked (b.sequence + cooldownLedgers)) }
  | approvalExpired {b : Books D} {claimId : D} {claim : Claim} {record : StakeRecord D}
      (listed : b.claims.get claimId = some claim)
      (awaiting : claim.status = .awaitingApproval)
      (stored : b.stakes.get claim.wallet = some record) :
      BookStep idOf (.approvalExpired claim.wallet claimId) b
        { b with
          totalAllocated := saturatingSub b.totalAllocated claim.entitlement
          stakes := b.stakes.set claim.wallet { record with activeClaimId := none }
          claims := b.claims.set claimId { claim with status := .expired } }
  | staleExpired {b : Books D} {claimId : D} {claim : Claim} {record : StakeRecord D}
      (listed : b.claims.get claimId = some claim) (active : claim.status = .active)
      (unpaid : claim.streamed < claim.entitlement)
      (stored : b.stakes.get claim.wallet = some record) :
      BookStep idOf (.staleExpired claim.wallet claimId) b
        { b with
          totalAllocated :=
            saturatingSub b.totalAllocated (claim.entitlement - claim.streamed)
          stakes := b.stakes.set claim.wallet { record with activeClaimId := none }
          claims := b.claims.set claimId { claim with status := .expired } }
  | streamed {b : Books D} {claimId : D} {claim : Claim} {amount liquid funds : Int}
      {leavesPool : Bool}
      (listed : b.claims.get claimId = some claim) (active : claim.status = .active)
      (unpaid : claim.streamed < claim.entitlement) (positive : 0 < amount)
      (vested : 0 ≤ claim.entitlement →
        claim.vestingEndsLedger = claim.cooldownEndsLedger + vestingLedgers →
          claim.streamed + amount ≤ claim.entitlement)
      (afforded : amount ≤ b.liquid)
      (payment : liquid = (if leavesPool then b.liquid - amount else b.liquid) ∧
        funds = if leavesPool then b.funds - amount else b.funds) :
      BookStep idOf (.streamed claim.wallet claimId amount leavesPool) b
        { b with
          totalAllocated := saturatingSub b.totalAllocated amount
          claims := b.claims.set claimId (claim.paid amount b.sequence)
          liquid := liquid
          funds := funds }
  | droppedPending {b : Books D} {claimId : D} {claim : Claim} {record : StakeRecord D}
      (listed : b.claims.get claimId = some claim) (pending : claim.status.isPending = true)
      (stored : b.stakes.get claim.wallet = some record) :
      BookStep idOf (.cancelled claim.wallet claimId) b
        { b with
          totalAllocated :=
            saturatingSub b.totalAllocated (claim.entitlement - claim.streamed)
          stakes := b.stakes.set claim.wallet { record with activeClaimId := none }
          claims := b.claims.set claimId { claim with status := .cancelled } }
  | reversed {b : Books D} {claimId : D} {claim : Claim} {record : StakeRecord D}
      {lockedUntil : Nat}
      (listed : b.claims.get claimId = some claim) (active : claim.status = .active)
      (stored : b.stakes.get claim.wallet = some record)
      (fits : InI128 (b.totalStaked + claim.stake)) :
      BookStep idOf (.cancelled claim.wallet claimId) b
        { b with
          totalStaked := b.totalStaked + claim.stake
          totalStakers := b.totalStakers + 1
          totalAllocated :=
            saturatingSub b.totalAllocated (claim.entitlement - claim.streamed)
          stakes := b.stakes.set claim.wallet
            { record with
              withdrawn := false
              penaltyLockedUntilLedger := lockedUntil
              activeClaimId := none }
          claims := b.claims.set claimId { claim with status := .cancelled } }
  | overridden {b : Books D} {claimId : D} {req : OverrideRequest} {record : StakeRecord D}
      {cap : Int}
      (unfinished : ∀ claim, b.claims.get claimId = some claim → claim.status ≠ .completed)
      (stored : b.stakes.get req.wallet = some record)
      (own : record.activeClaimId = none ∨ record.activeClaimId = some claimId)
      (funded : 0 < record.amount) (positive : 0 < req.entitlement)
      (capped : tierCap record.amount req.tier = .ok cap) (covered : req.entitlement ≤ cap)
      (fits : InI128 (b.afterRelease (b.claims.get claimId) + req.entitlement))
      (solvent : b.afterRelease (b.claims.get claimId) + req.entitlement ≤
        if record.withdrawn then b.totalStaked + record.amount else b.totalStaked) :
      BookStep idOf (.overridden req.wallet claimId req.entitlement) b
        { b with
          totalStaked :=
            if record.withdrawn then b.totalStaked else b.totalStaked - record.amount
          totalStakers := if record.withdrawn then b.totalStakers else b.totalStakers - 1
          totalAllocated := b.afterRelease (b.claims.get claimId) + req.entitlement
          stakes := b.stakes.set req.wallet
            { record with
              withdrawn := true
              activeClaimId := some claimId
              reservedClaimId :=
                if record.reservedClaimId = some claimId then none
                else record.reservedClaimId }
          claims := b.claims.set claimId
            ((req.claim record.amount (carriedStreamed (b.claims.get claimId))
                b.timestamp).activated record.amount b.totalStaked
              (b.sequence + cooldownLedgers)) }
  | redeemed {b : Books D} {loss liquid funds : Int}
      (nonneg : 0 ≤ loss) (kept : b.funds - loss ≤ funds) (afforded : 0 ≤ b.liquid → 0 ≤ liquid)
      (fits : i128Min ≤ funds - liquid) :
      BookStep idOf (.redeemed loss) b
        { b with
          totalStaked :=
            if 0 < loss then saturatingSub b.totalStaked loss else b.totalStaked
          liquid := liquid
          funds := funds }
  | deployed {b : Books D} {booked pulled liquid funds : Int} (afforded : pulled ≤ b.liquid)
      (exchange : liquid = b.liquid - pulled ∧ funds = b.funds + booked - pulled) :
      BookStep idOf (.deployed booked pulled) b { b with liquid := liquid, funds := funds }
  | kept {b : Books D} : BookStep idOf .other b b
  | treasury {b : Books D} {liquid funds : Int} (afforded : 0 ≤ b.liquid → 0 ≤ liquid)
      (surplus : min b.funds (b.totalStaked + b.totalAllocated) ≤ funds) :
      BookStep idOf .other b { b with liquid := liquid, funds := funds }
  | clock {b : Books D} {sequence timestamp : Nat}
      (sequenceAdvances : b.sequence ≤ sequence) (timestampAdvances : b.timestamp ≤ timestamp) :
      BookStep idOf .other b { b with sequence := sequence, timestamp := timestamp }
  | amended {b : Books D} {wallet : Address} {record : StakeRecord D} {beneficiaryHash : D}
      {suspended : Bool} (stored : b.stakes.get wallet = some record) :
      BookStep idOf .other b
        { b with
          stakes := b.stakes.set wallet
            { record with beneficiaryHash := beneficiaryHash, suspended := suspended } }
  | restarted {b : Books D} {wallet : Address} {record : StakeRecord D} {suspended : Bool}
      {claimId : D} {claim : Claim} {deadline collected : Nat}
      (stored : b.stakes.get wallet = some record)
      (listed : b.claims.get claimId = some claim) :
      BookStep idOf .other b
        { b with
          stakes := b.stakes.set wallet { record with suspended := suspended }
          claims := b.claims.set claimId
            { claim with approveDeadlineLedger := deadline, lastCollectedLedger := collected } }

/-! ### What an entry does to a deposit -/

variable {idOf : Address → BytesN 32 → D} {event : BookEvent D} {b b' : Books D}

/-- The ledgers of the books only go up. -/
theorem BookStep.sequence_le (step : BookStep idOf event b b') : b.sequence ≤ b'.sequence := by
  cases step with
  | clock advances => exact advances
  | _ => exact le_refl _

/-- How an entry leaves the deposit of a stored record: newly made, taken out, or of the
same amount and from the same ledger as before. -/
inductive DepositChange (b : Books D) (event : BookEvent D) (wallet : Address)
    (record' : StakeRecord D) : Prop where
  | made (deposit : event = .staked wallet) (positive : 0 < record'.amount)
      (now : record'.stakedAtLedger = b.sequence)
  | left {record : StakeRecord D} (stored : b.stakes.get wallet = some record)
      (empty : record'.amount = 0) (start : record'.stakedAtLedger = record.stakedAtLedger)
  | kept {record : StakeRecord D} (stored : b.stakes.get wallet = some record)
      (amount : record'.amount = record.amount)
      (start : record'.stakedAtLedger = record.stakedAtLedger)

/-- Every entry leaves the deposit of a record in one of these ways. -/
theorem BookStep.depositChange (step : BookStep idOf event b b') {wallet : Address}
    {record' : StakeRecord D} (stored' : b'.stakes.get wallet = some record') :
    DepositChange b event wallet record' := by
  cases step with
  | staked positive =>
      rcases Store.get_set_eq_some.mp stored' with ⟨rfl, rfl⟩ | ⟨-, before⟩
      · exact .made rfl positive rfl
      · exact .kept before rfl rfl
  | exited found =>
      rcases Store.get_set_eq_some.mp stored' with ⟨rfl, rfl⟩ | ⟨-, before⟩
      · exact .left found rfl rfl
      · exact .kept before rfl rfl
  | queued _ found | admitted _ found | overridden _ found | amended found | restarted found =>
      rcases Store.get_set_eq_some.mp stored' with ⟨rfl, rfl⟩ | ⟨-, before⟩
      · exact .kept found rfl rfl
      · exact .kept before rfl rfl
  | released _ _ found | queueExpired _ _ found | approved _ _ found | approvalExpired _ _ found
  | staleExpired _ _ _ found | droppedPending _ _ found | reversed _ _ found =>
      rcases Store.get_set_eq_some.mp stored' with ⟨rfl, rfl⟩ | ⟨-, before⟩
      · exact .kept found rfl rfl
      · exact .kept before rfl rfl
  | unlocked | streamed | redeemed | deployed | kept | treasury | clock =>
      exact .kept stored' rfl rfl

/-- Deposits are made in the past. -/
theorem BookStep.deposits_dated (step : BookStep idOf event b b')
    (dated : Store.All (fun _ record => record.stakedAtLedger ≤ b.sequence) b.stakes) :
    Store.All (fun _ record => record.stakedAtLedger ≤ b'.sequence) b'.stakes := by
  intro wallet record' stored'
  have passes := step.sequence_le
  cases step.depositChange stored' with
  | made deposit positive now => exact now.trans_le passes
  | left stored empty start => exact start.trans_le ((dated _ _ stored).trans passes)
  | kept stored amount start => exact start.trans_le ((dated _ _ stored).trans passes)

end ProtectionPool
