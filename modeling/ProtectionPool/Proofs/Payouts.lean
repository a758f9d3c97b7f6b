/-
Module: ProtectionPool.Proofs.Payouts
Purpose: What was paid under a claim identifier in the whole run never exceeds
  the largest entitlement the identifier carried, as long as no override drops
  the payments of the claim it replaces.  An override keeps them only when that
  claim is still active; one that was paid in part and has ended starts from
  nothing again.
Trusted boundary: none
Main exports: paid, largestEntitlement, BookEvent.KeepsPayments, payouts_bounded
-/
import ProtectionPool.Proofs.History

namespace ProtectionPool

open Checked

variable {D : Type} [DecidableEq D]

/-- What was paid under an identifier so far. -/
def paid : Journal D → D → Int
  | [], _ => 0
  | (_, event) :: past, claimId => paid past claimId + event.payout claimId

/-- The entitlement an identifier carries in the books. -/
def Books.entitlement (b : Books D) (claimId : D) : Int :=
  Store.share Claim.entitlement (b.claims.get claimId)

/-- The largest entitlement an identifier carried so far. -/
def largestEntitlement : Journal D → Books D → D → Int
  | [], b, claimId => b.entitlement claimId
  | (before, _) :: past, b, claimId =>
      max (b.entitlement claimId) (largestEntitlement past before claimId)

/-- What the record under an identifier says was paid. -/
def Books.streamed (b : Books D) (claimId : D) : Int :=
  Store.share Claim.streamed (b.claims.get claimId)

/-- The condition under which an entry keeps the record of the payments: an
override replaces no claim that was paid and is not active any more. -/
def BookEvent.KeepsPayments (b : Books D) : BookEvent D → Prop
  | .overridden _ claimId _ =>
      ∀ claim ∈ b.claims.get claimId, claim.status = .active ∨ claim.streamed = 0
  | _ => True

instance (b : Books D) (event : BookEvent D) : Decidable (event.KeepsPayments b) := by
  induction event using BookEvent.casesOn with
  | overridden => exact inferInstanceAs (Decidable (∀ claim ∈ b.claims.get _, _))
  | _ => exact inferInstanceAs (Decidable True)

variable {idOf : Address → BytesN 32 → D} {event : BookEvent D} {b b' : Books D}
  {past : Journal D} {claimId : D}

/-! ### The record of the payments -/

/-- An override that keeps the payments carries over all of them. -/
theorem carriedStreamed_eq (keeps : ∀ claim ∈ b.claims.get claimId,
      claim.status = .active ∨ claim.streamed = 0) :
    carriedStreamed (b.claims.get claimId) = b.streamed claimId := by
  unfold Books.streamed
  cases listed : b.claims.get claimId with
  | none => rfl
  | some claim =>
      rcases keeps claim listed with active | unpaid
      · simp only [carriedStreamed, active, if_true, Store.share_some]
      · simp only [carriedStreamed, unpaid, ite_self, Store.share_some]

/-- An entry that keeps the payments adds what it pays to the record. -/
theorem BookStep.streamed_eq (step : BookStep idOf event b b') (kept : b.WellKept)
    (keeps : event.KeepsPayments b) (claimId : D) :
    b'.streamed claimId = b.streamed claimId + event.payout claimId := by
  cases step with
  | @streamed _ id claim amount _ _ _ listed =>
      simp only [Books.streamed, BookEvent.payout]
      by_cases own : id = claimId
      · subst own
        rw [Store.get_set_self, listed, if_pos rfl]
        rfl
      · rw [Store.get_set_ne _ _ (Ne.symm own), if_neg own, add_zero]
  | queued _ _ _ unused | admitted _ _ _ unused =>
      simp only [Books.streamed, BookEvent.payout, Books.enterClaim, add_zero]
      apply Store.share_get_set
      rw [kept.absent unused]
      rfl
  | released listed reserved =>
      simp only [Books.streamed, BookEvent.payout, Books.enterClaim, add_zero]
      apply Store.share_get_set
      rw [listed, Store.share_some, (kept.claims _ _ listed).unpaid (.inl reserved)]
      rfl
  | queueExpired listed | unlocked listed | approved listed | approvalExpired listed
  | staleExpired listed | droppedPending listed | reversed listed | restarted _ listed =>
      simp only [Books.streamed, BookEvent.payout, add_zero]
      apply Store.share_get_set
      rw [listed]
      rfl
  | overridden =>
      simp only [BookEvent.payout, add_zero]
      apply Store.share_get_set
      exact carriedStreamed_eq keeps
  | staked | exited | redeemed | deployed | kept | treasury | clock | amended =>
      simp only [Books.streamed, BookEvent.payout, add_zero]

/-- A payout stays within the entitlement of the claim it is made under. -/
theorem BookStep.payout_le (step : BookStep idOf event b b') (kept : b.WellKept) (claimId : D) :
    event.payout claimId = 0 ∨
      b.streamed claimId + event.payout claimId ≤ b.entitlement claimId := by
  cases step with
  | @streamed _ id claim amount _ _ _ listed active _ _ vested =>
      simp only [BookEvent.payout]
      by_cases own : id = claimId
      · right
        subst own
        have claimKept := kept.claims _ _ listed
        simp only [Books.streamed, Books.entitlement, listed, Store.share_some, if_true]
        exact vested claimKept.positive.le (claimKept.schedule active)
      · exact .inl (if_neg own)
  | _ => exact .inl rfl

theorem entitlement_le_largest (past : Journal D) (b : Books D) (claimId : D) :
    b.entitlement claimId ≤ largestEntitlement past b claimId := by
  cases past with
  | nil => exact le_refl _
  | cons => exact le_max_left _ _

/-! ### Runs -/

/-- The steps that keep the record of the payments. -/
def keepsPayments : EntryRule D := fun _ b event => event.KeepsPayments b

instance (past : Journal D) (b : Books D) (event : BookEvent D) :
    Decidable (keepsPayments past b event) :=
  inferInstanceAs (Decidable (event.KeepsPayments b))

/-- The payments under an identifier: recorded, and within its entitlement. -/
structure PaymentsSound (past : Journal D) (b : Books D) : Prop where
  recorded : ∀ claimId, paid past claimId = b.streamed claimId
  bounded : ∀ claimId, paid past claimId ≤ largestEntitlement past b claimId

theorem PaymentsSound.step (sound : PaymentsSound past b) (step : BookStep idOf event b b')
    (kept : b.WellKept) (keeps : event.KeepsPayments b) :
    PaymentsSound ((b, event) :: past) b' := by
  constructor
  · intro claimId
    rw [paid, sound.recorded claimId, step.streamed_eq kept keeps claimId]
  · intro claimId
    have grows : largestEntitlement past b claimId ≤
        largestEntitlement ((b, event) :: past) b' claimId := le_max_right _ _
    rw [paid]
    rcases step.payout_le kept claimId with none | within
    · rw [none, add_zero]
      exact (sound.bounded claimId).trans grows
    · rw [sound.recorded claimId]
      exact (within.trans (entitlement_le_largest past b claimId)).trans grows

/-- In every run in which no override replaces a claim that was paid and is not
active any more, the payouts under each identifier stay within the largest
entitlement it carried. -/
theorem payouts_bounded (host : Host D)
    {log : List (Entry (State D) (Action D) (Output D))} {s : State D}
    (run : (poolSystem host).Run (keepsPayments.guard host) log s) (claimId : D) :
    paid (journal host log) claimId ≤
      largestEntitlement (journal host log) (s.books host) claimId := by
  have sound : PaymentsSound (journal host log) (s.books host) := by
    apply journal_invariant (P := PaymentsSound) _ _ run
    · intro b _ noClaims
      constructor <;> intro claimId
      · simp only [paid, Books.streamed, noClaims, Store.get_empty, Store.share_none]
      · simp only [paid, largestEntitlement, Books.entitlement, noClaims, Store.get_empty,
          Store.share_none, le_refl]
    · intro past b event b' step kept sound keeps
      exact sound.step step kept keeps
  exact sound.bounded claimId

/-- Such runs pay a claim, override it and pay it again. -/
theorem payouts_bounded_sample :
    ∃ log s, (poolSystem sampleHost).Run (keepsPayments.guard sampleHost) log s ∧
      paid (journal sampleHost log) (computeClaimId sampleHost (party 11) 0) = 1000 ∧
      paid (journal sampleHost log) (computeClaimId sampleHost (party 11) 0) ≤
        largestEntitlement (journal sampleHost log) (s.books sampleHost)
          (computeClaimId sampleHost (party 11) 0) := by
  obtain ⟨log, s, run, ends⟩ := System.exists_run_of_replay (poolSystem sampleHost)
    (keepsPayments.guard sampleHost) samplePool_deployed
    (sampleOpening 1000 ++ [afterDays 30,
      callBy 11 (.claimStream (computeClaimId sampleHost (party 11) 0) (party 21))] ++
      overrideBoth 11 0 1000 1 ++ [afterDays 90,
      callBy 11 (.claimStream (computeClaimId sampleHost (party 11) 0) (party 21))])
    (fun log _ => paid (journal sampleHost log) (computeClaimId sampleHost (party 11) 0) = 1000)
    (by decide +kernel)
  exact ⟨log, s, run, ends, payouts_bounded sampleHost run _⟩

/-- The claim of the opening is paid 511 of its 1000, expires for inactivity and
is overridden again with the same terms: another 1000 are paid. -/
theorem override_after_expiry_pays_again :
    ∃ log s, (poolSystem sampleHost).Run System.anyStep log s ∧
      ¬ paid (journal sampleHost log) (computeClaimId sampleHost (party 11) 0) ≤
        largestEntitlement (journal sampleHost log) (s.books sampleHost)
          (computeClaimId sampleHost (party 11) 0) := by
  obtain ⟨log, s, run, ends⟩ := System.exists_run_of_replay (poolSystem sampleHost)
    System.anyStep samplePool_deployed
    (sampleOpening 1000 ++ [afterDays 30,
      callBy 11 (.claimStream (computeClaimId sampleHost (party 11) 0) (party 21)), afterDays 131,
      callBy 11 (.expireStaleClaim (computeClaimId sampleHost (party 11) 0))] ++
      overrideBoth 11 0 1000 1 ++ [afterDays 200,
      callBy 11 (.claimStream (computeClaimId sampleHost (party 11) 0) (party 21))])
    (fun log s => ¬ paid (journal sampleHost log) (computeClaimId sampleHost (party 11) 0) ≤
      largestEntitlement (journal sampleHost log) (s.books sampleHost)
        (computeClaimId sampleHost (party 11) 0))
    (by decide +kernel)
  exact ⟨log, s, run, ends⟩

end ProtectionPool
