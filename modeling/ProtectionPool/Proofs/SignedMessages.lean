/-
Module: ProtectionPool.Proofs.SignedMessages
Purpose: Distinct approvals are signed as distinct byte strings, and distinct claims are
  named by distinct ones.  An approval is the concatenation of nine encoded values; a
  claim is an encoded wallet followed by the raw hash of its transaction.
Trusted boundary: none
Main exports: RangedApproval, approvalFields, payload_eq,
  signed_messages_unambiguous
-/
import ProtectionPool.Library.XdrValues
import ProtectionPool.Proofs.Revocation

namespace ProtectionPool

open Checked

variable {D : Type}

/-- The parameters of an approval within the widths they are signed at. -/
structure RangedApproval extends SignedApproval where
  entitlementFits : InI128 entitlement
  tierFits : tier < 2 ^ 32
  hackTimestampFits : hackTimestamp < 2 ^ 64
  deadlineFits : deadline < 2 ^ 64

/-- The bytes the oracle signs for an approval. -/
def SignedApproval.payload (host : Host D) (approval : SignedApproval) : List UInt8 :=
  buildApprovalPayload host approval.wallet approval.txHash approval.entitlement approval.tier
    approval.hackTimestamp approval.deadline

/-- The values the bytes are the concatenation of. -/
def approvalFields (host : Host D) (approval : SignedApproval) : List ScVal :=
  [.symbol approvalDomain, .address host.contract, .bytes host.networkId.toBytes,
    .address approval.wallet, .bytes approval.txHash.toBytes, .i128 approval.entitlement,
    .u32 approval.tier, .u64 approval.hackTimestamp, .u64 approval.deadline]

variable {host host' : Host D} {approval : SignedApproval}

theorem payload_eq :
    approval.payload host = (approvalFields host approval).flatMap ScVal.toXdr := by
  simp [SignedApproval.payload, buildApprovalPayload, approvalFields]

/-- Every value of an approval is one its type holds. -/
theorem approvalFields_inRange (ranged : RangedApproval) :
    ∀ value ∈ approvalFields host ranged.toSignedApproval, value.InRange := by
  have domain : ScVal.InRange (.symbol approvalDomain) := by
    change approvalDomain.length < 2 ^ (8 * 4)
    decide
  have bytes : ∀ b : BytesN 32, ScVal.InRange (.bytes b.toBytes) := by
    intro b
    simp [ScVal.InRange]
  simp only [approvalFields, List.forall_mem_cons]
  exact ⟨domain, trivial, bytes _, trivial, bytes _, ranged.entitlementFits, ranged.tierFits,
    ranged.hackTimestampFits, ranged.deadlineFits, fun _ none => absurd none List.not_mem_nil⟩

/-- The values determine the contract, the network and the approval. -/
theorem approvalFields_inj {other : SignedApproval}
    (same : approvalFields host approval = approvalFields host' other) :
    host.contract = host'.contract ∧ host.networkId = host'.networkId ∧ approval = other := by
  obtain ⟨wallet, txHash, entitlement, tier, hackTimestamp, deadline⟩ := approval
  obtain ⟨wallet', txHash', entitlement', tier', hackTimestamp', deadline'⟩ := other
  simp only [approvalFields, List.cons.injEq, ScVal.address.injEq, ScVal.bytes.injEq,
    ScVal.i128.injEq, ScVal.u32.injEq, ScVal.u64.injEq] at same
  obtain ⟨-, contract, network, rfl, hash, rfl, rfl, rfl, rfl, -⟩ := same
  obtain rfl := BytesN.toBytes_injective hash
  exact ⟨contract, BytesN.toBytes_injective network, rfl⟩

/-- Two approvals are signed as the same bytes only if contract, network and all their
parameters are the same, and two claims are named by the same bytes only if wallet and
transaction are. -/
theorem signed_messages_unambiguous :
    (∀ (host host' : Host D) (approval other : RangedApproval),
      approval.payload host = other.payload host' ↔
        host.contract = host'.contract ∧ host.networkId = host'.networkId ∧ approval = other) ∧
      ∀ (wallet other : Address) (txHash otherHash : BytesN 32),
        claimIdBytes wallet txHash = claimIdBytes other otherHash ↔
          wallet = other ∧ txHash = otherHash := by
  constructor
  · intro host host' approval other
    constructor
    · intro same
      rw [payload_eq, payload_eq] at same
      have fields := ScVal.toXdr_delimiting.flatMap_inj (fun value _ => value.toXdr_ne_nil)
        (approvalFields_inRange approval) (approvalFields_inRange other) same
      obtain ⟨contract, network, terms⟩ := approvalFields_inj fields
      refine ⟨contract, network, ?_⟩
      cases approval
      cases other
      congr
    · rintro ⟨contract, network, rfl⟩
      simp only [SignedApproval.payload, buildApprovalPayload, contract, network]
  · intro wallet other txHash otherHash
    constructor
    · intro same
      obtain ⟨wallets, hashes⟩ := ScVal.toXdr_delimiting (.address wallet) trivial (.address other)
        trivial txHash.toBytes otherHash.toBytes same
      exact ⟨ScVal.address.inj wallets, BytesN.toBytes_injective hashes⟩
    · rintro ⟨rfl, rfl⟩
      rfl

end ProtectionPool
