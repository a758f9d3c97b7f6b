/-
Module: ProtectionPool.Proofs.QueueSlots
Purpose: The queue slot of a deposit and the queued claim it stands for.  Slots and
  queued claims lead to each other in every run in which nobody deposits anew while
  the old deposit's slot is taken and no override reaches the queued claim of
  another wallet.
Trusted boundary: none
Main exports: slotOf, queueOwner, SlotsMatch, keepsSlots, queue_slots_match
-/
import ProtectionPool.Library.Matching
import ProtectionPool.Books.Registration
import ProtectionPool.Proofs.WellKept

namespace ProtectionPool

variable {D : Type}

/-! ### Slots and owners -/

/-- The queued claim a wallet's deposit names. -/
def slotOf (stakes : Store Address (StakeRecord D)) (wallet : Address) : Option D :=
  (stakes.get wallet).bind fun record => record.reservedClaimId

/-- The wallet a claim waits in the queue for. -/
def Claim.queueOwner (claim : Claim) : Option Address :=
  if claim.status = .reserved then some claim.wallet else none

variable [DecidableEq D]

/-- The wallet the claim stored under an identifier waits in the queue for. -/
def queueOwner (claims : Store D Claim) (claimId : D) : Option Address :=
  (claims.get claimId).bind Claim.queueOwner

/-- A deposit names a claim exactly when that claim waits in the queue for its
wallet. -/
def SlotsMatch (r : Register D) : Prop := Matching.Inverse (slotOf r.stakes) (queueOwner r.claims)

/-- The condition under which a write keeps the slots: a new deposit replaces no taken
slot, and an override that is carried out reaches no queued claim of another
wallet. -/
def Register.KeepsSlots (host : Host D) (r : Register D) : Action D → Prop
  | .invoke _ (.stake staker _ _) => slotOf r.stakes staker = none
  | .invoke _ (.approveOverride caller wallet txHash entitlement tier) =>
      r.ready (r.request host caller wallet txHash entitlement tier) = true →
        ∀ owner ∈ queueOwner r.claims (computeClaimId host wallet txHash),
          owner = (r.request host caller wallet txHash entitlement tier).wallet
  | _ => True

/-- The steps that keep the slots. -/
def keepsSlots (host : Host D) : System.Guard (State D) (Action D) (Output D) :=
  fun _ s action => s.register.KeepsSlots host action

instance (host : Host D) (r : Register D) (action : Action D) :
    Decidable (r.KeepsSlots host action) := by
  induction action using Action.casesOn with
  | invoke _ call =>
      induction call using Call.casesOn with
      | stake => exact inferInstanceAs (Decidable (slotOf _ _ = none))
      | approveOverride => exact inferInstanceAs (Decidable (_ → ∀ owner ∈ queueOwner _ _, _))
      | _ => exact inferInstanceAs (Decidable True)
  | _ => exact inferInstanceAs (Decidable True)

instance (host : Host D) (log : Log D) (s : State D) (action : Action D) :
    Decidable (keepsSlots host log s action) :=
  inferInstanceAs (Decidable (Register.KeepsSlots _ _ _))

variable {host : Host D} {r r' : Register D} {action : Action D} {output : Output D}
  {stakes : Store Address (StakeRecord D)} {claims : Store D Claim} {wallet : Address}
  {record record' : StakeRecord D} {claimId : D} {claim claim' : Claim}

/-! ### One entry at a time -/

omit [DecidableEq D] in
theorem slotOf_of_get (stored : stakes.get wallet = some record) :
    slotOf stakes wallet = record.reservedClaimId := by
  rw [slotOf, stored, Option.bind_some]

omit [DecidableEq D] in
/-- Writing a record writes its wallet's slot. -/
theorem slotOf_set :
    slotOf (stakes.set wallet record) =
      Function.update (slotOf stakes) wallet record.reservedClaimId := by
  funext other
  rcases eq_or_ne other wallet with rfl | apart
  · simp [slotOf]
  · simp [slotOf, apart]

omit [DecidableEq D] in
/-- A record that keeps its slot leaves the slots alone. -/
theorem slotOf_kept (stored : stakes.get wallet = some record)
    (same : record'.reservedClaimId = record.reservedClaimId) :
    slotOf (stakes.set wallet record') = slotOf stakes := by
  rw [slotOf_set, same, ← slotOf_of_get stored, Function.update_eq_self]

theorem queueOwner_of_get (listed : claims.get claimId = some claim) :
    queueOwner claims claimId = claim.queueOwner := by
  rw [queueOwner, listed, Option.bind_some]

/-- Writing a claim writes whom its identifier waits for. -/
theorem queueOwner_set :
    queueOwner (claims.set claimId claim) =
      Function.update (queueOwner claims) claimId claim.queueOwner := by
  funext other
  rcases eq_or_ne other claimId with rfl | apart
  · simp [queueOwner]
  · simp [queueOwner, apart]

/-- A claim out of the queue may be replaced by one out of the queue. -/
theorem queueOwner_kept (free : queueOwner claims claimId = none)
    (out : claim'.status ≠ .reserved) :
    queueOwner (claims.set claimId claim') = queueOwner claims := by
  have outside : claim'.queueOwner = none := if_neg out
  rw [queueOwner_set, outside, ← free, Function.update_eq_self]

theorem queueOwner_of_status (listed : claims.get claimId = some claim)
    (out : claim.status ≠ .reserved) : queueOwner claims claimId = none := by
  rw [queueOwner_of_get listed]
  exact if_neg out

theorem queueOwner_of_reserved (listed : claims.get claimId = some claim)
    (reserved : claim.status = .reserved) : queueOwner claims claimId = some claim.wallet := by
  rw [queueOwner_of_get listed]
  exact if_pos reserved

theorem queueOwner_of_absent (absent : claims.get claimId = none) :
    queueOwner claims claimId = none := by
  rw [queueOwner, absent, Option.bind_none]

/-- Restarting a claim's clock leaves it in the queue or out of it. -/
theorem queueOwner_restarted (listed : claims.get claimId = some claim) {now : Nat} :
    queueOwner (claims.set claimId (claim.restarted now)) = queueOwner claims := by
  have same : (claim.restarted now).queueOwner = claim.queueOwner := by
    unfold Claim.restarted
    split <;> rfl
  rw [queueOwner_set, same, ← queueOwner_of_get listed, Function.update_eq_self]

/-! ### The writes -/

/-- A write that leaves the slots and the owners alone keeps them matched. -/
theorem SlotsMatch.untouched (slots : SlotsMatch r) (sameSlots : slotOf stakes = slotOf r.stakes)
    (sameOwners : queueOwner claims = queueOwner r.claims) :
    Matching.Inverse (slotOf stakes) (queueOwner claims) := by
  rw [sameSlots, sameOwners]
  exact slots

/-- A claim out of the queue is replaced by one out of the queue. -/
theorem SlotsMatch.replace (slots : SlotsMatch r) (sameSlots : slotOf stakes = slotOf r.stakes)
    (listed : r.claims.get claimId = some claim) (before : claim.status ≠ .reserved)
    (after : claim'.status ≠ .reserved) :
    Matching.Inverse (slotOf stakes) (queueOwner (r.claims.set claimId claim')) :=
  slots.untouched sameSlots (queueOwner_kept (queueOwner_of_status listed before) after)

/-- A queued claim that leaves the queue takes its slot along. -/
theorem SlotsMatch.leave (slots : SlotsMatch r) (listed : r.claims.get claimId = some claim)
    (reserved : claim.status = .reserved) (cleared : record.reservedClaimId = none)
    (out : claim'.status ≠ .reserved) :
    Matching.Inverse (slotOf (r.stakes.set claim.wallet record))
      (queueOwner (r.claims.set claimId claim')) := by
  have outside : claim'.queueOwner = none := if_neg out
  rw [slotOf_set, queueOwner_set, cleared, outside]
  exact slots.unlink (queueOwner_of_reserved listed reserved)

/-- A write keeps the slots exactly when it meets the condition. -/
theorem RegisterStep.slotsMatch_iff (step : RegisterStep host action output r r')
    (used : Store.All (fun _ claim => claim.status ≠ .unused) r.claims) (slots : SlotsMatch r) :
    SlotsMatch r' ↔ r.KeepsSlots host action := by
  have absent : ∀ {claimId}, (∀ claim, r.claims.get claimId = some claim →
      claim.status = .unused) → queueOwner r.claims claimId = none := by
    intro claimId unused
    cases listed : r.claims.get claimId with
    | none => exact queueOwner_of_absent listed
    | some claim => exact absurd (unused claim listed) (used _ _ listed)
  cases step with
  | staked =>
      change Matching.Inverse (slotOf (r.stakes.set _ _)) (queueOwner r.claims) ↔ _
      rw [slotOf_set]
      exact slots.clear_left_iff
  | overridePending approval unready =>
      apply iff_of_true slots
      intro ready
      rw [← approval.requested, unready] at ready
      cases ready
  | overrideExecuted approval ready _ stored =>
      simp only [Register.KeepsSlots, ← approval.requested, ready, forall_const]
      change Matching.Inverse (slotOf (r.stakes.set _ _)) (queueOwner (r.claims.set _ _)) ↔ _
      rw [slotOf_set, queueOwner_set, ← slotOf_of_get stored]
      exact slots.clear_right_iff
  | queued submission =>
      apply iff_of_true _ trivial
      change Matching.Inverse (slotOf (r.stakes.set _ _)) (queueOwner (r.claims.set _ _))
      rw [slotOf_set, queueOwner_set]
      exact slots.link ((slotOf_of_get submission.stored).trans submission.unqueued)
        (absent submission.unused)
  | admitted submission admission =>
      apply iff_of_true _ trivial
      apply slots.untouched
      · exact slotOf_kept submission.stored submission.unqueued.symm
      · exact queueOwner_kept (absent submission.unused)
          admission.outOfQueue
  | released _ listed reserved _ _ admission =>
      apply iff_of_true _ trivial
      exact slots.leave listed reserved rfl admission.outOfQueue
  | queueExpired _ listed reserved =>
      apply iff_of_true _ trivial
      exact slots.leave listed reserved rfl (by simp)
  | restarted listed stored =>
      apply iff_of_true _ trivial
      exact slots.untouched (slotOf_kept stored rfl) (queueOwner_restarted listed)
  | unlocked _ listed pending =>
      apply iff_of_true _ trivial
      exact slots.replace rfl listed (by simp [pending]) (by simp)
  | streamed _ listed active =>
      apply iff_of_true _ trivial
      refine slots.replace rfl listed (by simp [active]) ?_
      simp only [Claim.paid]
      split_ifs
      · simp
      · simp [active]
  | approved _ listed current _ stored | approvalExpired listed current stored
  | staleExpired listed current _ stored | reversed listed current stored =>
      apply iff_of_true _ trivial
      exact slots.replace (slotOf_kept stored rfl) listed (by simp [current]) (by rintro ⟨⟩)
  | droppedPending listed pending stored =>
      apply iff_of_true _ trivial
      exact slots.replace (slotOf_kept stored rfl) listed
        (ClaimStatus.ne_of_isPending pending rfl) (by simp)
  | beneficiarySet _ stored | withdrawn _ stored | emergencyExited stored | suspended stored
  | unsuspended stored =>
      exact iff_of_true (slots.untouched (slotOf_kept stored rfl) rfl) trivial
  | funds fundsOnly =>
      cases action, fundsOnly using Action.fundsCases <;> exact iff_of_true slots trivial
  | clock | oracleSet | pubkeySet | identitySet | coSignerSet | adminTransferred | paused
  | unpaused | overrideCancelled | revoked =>
      exact iff_of_true slots trivial

/-! ### Runs -/

/-- A wallet has at most one claim in the queue. -/
def QueuedOnce (r : Register D) : Prop :=
  ∀ claimId other claim claim', r.claims.get claimId = some claim →
    r.claims.get other = some claim' → claim.status = .reserved → claim'.status = .reserved →
      claim.wallet = claim'.wallet → claimId = other

theorem SlotsMatch.queuedOnce (slots : SlotsMatch r) : QueuedOnce r := by
  intro claimId other claim claim' listed listed' reserved reserved' same
  apply slots.unique (queueOwner_of_reserved listed reserved)
  rw [same]
  exact queueOwner_of_reserved listed' reserved'

/-- The stored claims of a run are in use. -/
theorem claims_used_of_run {guard : System.Guard (State D) (Action D) (Output D)} {log : Log D}
    {s : State D} (run : (poolSystem host).Run guard log s) :
    Store.All (fun _ claim => claim.status ≠ .unused) s.register.claims :=
  (wellKept_of_run run).claims.imp fun _ _ kept => kept.used

/-- In every run that keeps the slots, slots and queued claims lead to each other and
no wallet has two queued claims.  A further step keeps this exactly when it meets the
condition. -/
theorem queue_slots_match (host : Host D) {log : Log D} {s : State D}
    (run : (poolSystem host).Run (keepsSlots host) log s) :
    (SlotsMatch s.register ∧ QueuedOnce s.register) ∧
      ∀ {action output s'}, (poolSystem host).step s action = .ok (output, s') →
        (SlotsMatch s'.register ↔ keepsSlots host log s action) := by
  have slots : SlotsMatch s.register := by
    apply run.invariant (P := fun _ s => SlotsMatch s.register)
    · intro s deployed
      have new := deployed_register deployed
      rw [SlotsMatch, new.noStakes, new.noClaims]
      intro wallet claimId
      simp [slotOf, queueOwner]
    · intro log s action output s' run slots keeps stepped
      exact ((step_registers stepped).slotsMatch_iff (claims_used_of_run run) slots).mpr keeps
  refine ⟨⟨slots, slots.queuedOnce⟩, ?_⟩
  intro action output s' stepped
  exact (step_registers stepped).slotsMatch_iff (claims_used_of_run run) slots

/-- In such a run a claim is queued, and its slot is taken. -/
theorem queue_slots_match_sample :
    ∃ log s, (poolSystem sampleHost).Run (keepsSlots sampleHost) log s ∧
      slotOf s.stakes (party 11) = some (computeClaimId sampleHost (party 11) 0) ∧
      SlotsMatch s.register := by
  obtain ⟨log, s, run, ends⟩ := System.exists_run_of_replay (poolSystem sampleHost)
    (keepsSlots sampleHost) samplePool_deployed sampleQueue
    (fun _ s => slotOf s.stakes (party 11) = some (computeClaimId sampleHost (party 11) 0))
    (by decide +kernel)
  exact ⟨log, s, run, ends, (queue_slots_match sampleHost run).1.1⟩

/-- The identifiers of the two claims below differ, and both wait for one wallet. -/
def QueuedTwice (s : State Nat) : Prop :=
  computeClaimId sampleHost (party 11) 0 ≠ computeClaimId sampleHost (party 11) 1 ∧
    queueOwner s.claims (computeClaimId sampleHost (party 11) 0) = some (party 11) ∧
    queueOwner s.claims (computeClaimId sampleHost (party 11) 1) = some (party 11)

instance (s : State Nat) : Decidable (QueuedTwice s) := inferInstanceAs (Decidable (_ ∧ _ ∧ _))

/-- A wallet whose claim is queued withdraws and deposits anew: the new record has no
slot, the claim is still queued, and a second one is queued beside it. -/
theorem restake_frees_taken_slot :
    ∃ log s, (poolSystem sampleHost).Run System.anyStep log s ∧ QueuedTwice s ∧
      ¬ SlotsMatch s.register := by
  obtain ⟨log, s, run, ends⟩ := System.exists_run_of_replay (poolSystem sampleHost)
    System.anyStep samplePool_deployed
    [callBy 11 (.stake (party 11) 2000 (party 21)),
      callBy 12 (.stake (party 12) 100000 (party 22)), afterDays 90,
      callBy 1 (.submitClaim (party 1) (party 11) 0 30000 1 (1000000 + secondsPerDay * 90) 0 0),
      callBy 11 (.withdraw (party 11) (party 21)),
      callBy 11 (.stake (party 11) 2000 (party 21)),
      callBy 1 (.submitClaim (party 1) (party 11) 1 30000 1 (1000000 + secondsPerDay * 90) 0 0)]
    (fun _ s => QueuedTwice s) (by decide +kernel)
  have twice : QueuedTwice s := ends
  refine ⟨log, s, run, twice, ?_⟩
  intro slots
  exact twice.1 (slots.unique twice.2.1 twice.2.2)

end ProtectionPool
