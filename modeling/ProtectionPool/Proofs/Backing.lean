/-
Module: ProtectionPool.Proofs.Backing
Purpose: The XLM the pool holds or has deployed backs the stake aggregate, as
  long as payouts and reversals stay within the slack between the two.  Neither
  claim_stream nor cancel_claim looks at that slack: a payout is many times the
  principal its claim forfeited, and a reversal restores principal that a payout
  may already have taken out.
Trusted boundary: the vault's answers; a deposit may pull what the slack allows
Main exports: Backed, Books.slack, BookEvent.WithinSlack, withinSlack,
  principal_backed
-/
import ProtectionPool.Proofs.WellKept

namespace ProtectionPool

open Checked

variable {D : Type} [DecidableEq D]

/-- The principal is backed by the XLM held and the XLM deployed. -/
def Backed (host : Host D) (s : State D) : Prop :=
  s.totalStaked ≤ liquidBalance host s + s.totalDeployedXlm

instance (host : Host D) (s : State D) : Decidable (Backed host s) :=
  inferInstanceAs (Decidable (_ ≤ _))

/-- The XLM beyond the principal. -/
def Books.slack (b : Books D) : Int := b.funds - b.totalStaked

/-- The condition under which an entry keeps the principal backed: a payout that
leaves the pool and the stake a reversal restores are within the slack, and a
deposit pulls no more than was booked and the slack together. -/
def BookEvent.WithinSlack (b : Books D) : BookEvent D → Prop
  | .streamed _ _ amount leavesPool => leavesPool = true → amount ≤ b.slack
  | .cancelled _ claimId =>
      ∀ claim ∈ b.claims.get claimId, claim.status = .active → claim.stake ≤ b.slack
  | .deployed booked pulled => pulled ≤ booked + b.slack
  | _ => True

instance (b : Books D) (event : BookEvent D) : Decidable (event.WithinSlack b) := by
  induction event using BookEvent.casesOn with
  | streamed => exact inferInstanceAs (Decidable (_ = true → _))
  | cancelled => exact inferInstanceAs (Decidable (∀ claim ∈ b.claims.get _, _))
  | deployed => exact inferInstanceAs (Decidable (_ ≤ _))
  | _ => exact inferInstanceAs (Decidable True)

variable {idOf : Address → BytesN 32 → D} {event : BookEvent D} {b b' : Books D}

/-- A mark-down takes at least what the redemption lost out of the aggregate,
unless it is clamped, and then the aggregate is below any funds. -/
theorem markdown_backed {totalStaked funds loss liquid : Int}
    (kept : totalStaked - loss ≤ funds) (held : 0 ≤ liquid) (fits : i128Min ≤ funds - liquid) :
    saturatingSub totalStaked loss ≤ funds := by
  apply saturateI128_le_of_le
  · exact fits.trans (sub_le_self _ held)
  · exact kept

/-- One entry keeps the principal backed exactly when it is within the slack. -/
theorem BookStep.backed_iff (step : BookStep idOf event b b') (kept : b.WellKept)
    (backed : b.totalStaked ≤ b.funds) :
    b'.totalStaked ≤ b'.funds ↔ event.WithinSlack b := by
  cases step with
  | staked _ _ payment =>
      apply iff_of_true _ trivial
      simp only [payment.2]
      exact Int.add_le_add_right backed _
  | @exited _ _ record _ _ stored funded _ _ _ payment =>
      apply iff_of_true _ trivial
      rcases payment with ⟨-, rest⟩ | ⟨-, rest⟩ <;> simp only [rest]
      · exact Int.sub_le_sub_right backed _
      · exact (sub_le_self _ funded.le).trans backed
  | approved _ _ stored =>
      apply iff_of_true _ trivial
      exact (sub_le_self _ (kept.amounts _ _ stored)).trans backed
  | overridden _ stored _ funded =>
      apply iff_of_true _ trivial
      dsimp only
      split_ifs
      · exact backed
      · exact (sub_le_self _ funded.le).trans backed
  | @streamed _ _ _ amount _ _ leavesPool _ _ _ _ _ _ payment =>
      simp only [payment.2, BookEvent.WithinSlack, Books.slack]
      cases leavesPool with
      | false => simpa using backed
      | true =>
          simp only [if_true, forall_const]
          exact le_sub_comm
  | @droppedPending _ _ _ _ listed pending =>
      exact iff_of_true backed (forall_active_of_pending listed pending)
  | reversed listed active =>
      simp only [BookEvent.WithinSlack, Store.forall_mem_get listed, active, forall_const,
        Books.slack]
      exact le_sub_iff_add_le'.symm
  | redeemed _ retained afforded fits =>
      apply iff_of_true _ trivial
      have rest := (Int.sub_le_sub_right backed _).trans retained
      dsimp only
      split_ifs with lossy
      · exact markdown_backed rest (afforded kept.liquid) fits
      · have none := not_lt.mp lossy
        exact backed.trans ((le_sub_self_iff _).mpr none |>.trans retained)
  | deployed _ exchange =>
      simp only [exchange.2, BookEvent.WithinSlack, Books.slack]
      constructor <;> intro _ <;> omega
  | treasury _ surplus =>
      apply iff_of_true _ trivial
      have free : b.totalStaked ≤ b.totalStaked + b.totalAllocated :=
        le_add_of_nonneg_right kept.allocated_nonneg
      exact (le_min backed free).trans surplus
  | queued | admitted | released | queueExpired | unlocked | approvalExpired | staleExpired | kept
  | clock | amended | restarted =>
      exact iff_of_true backed trivial

/-! ### Runs -/

/-- The steps that keep the principal backed: those within the slack. -/
def withinSlack (host : Host D) : System.Guard (State D) (Action D) (Output D) :=
  fun _ s action => (bookEvent host s action).WithinSlack (s.books host)

instance (host : Host D) (log : List (Entry (State D) (Action D) (Output D))) (s : State D)
    (action : Action D) : Decidable (withinSlack host log s action) :=
  inferInstanceAs (Decidable (BookEvent.WithinSlack _ _))

/-- In every run whose payouts and reversals stay within the slack the principal
is backed.  A further step keeps it so exactly when it stays within the slack
too. -/
theorem principal_backed (host : Host D)
    {log : List (Entry (State D) (Action D) (Output D))} {s : State D}
    (run : (poolSystem host).Run (withinSlack host) log s) :
    Backed host s ∧
      ∀ {action output s'}, (poolSystem host).step s action = .ok (output, s') →
        (Backed host s' ↔ withinSlack host log s action) := by
  have backed : Backed host s := by
    apply run.invariant (P := fun _ s => Backed host s)
    · intro s deployed
      obtain ⟨-, -, staked, -, -, -, funds⟩ := deployed_books deployed
      rw [Backed, staked]
      exact funds
    · intro log s action output s' run backed within stepped
      exact ((step_refines stepped).backed_iff (wellKept_of_run run) backed).mpr within
  constructor
  · exact backed
  · intro action output s' stepped
    exact (step_refines stepped).backed_iff (wellKept_of_run run) backed

/-- Such runs pay: a donation of 10000 and the forfeited 2000 leave room for the
first payout. -/
theorem principal_backed_sample :
    ∃ log s, (poolSystem sampleHost).Run (withinSlack sampleHost) log s ∧
      liquidBalance sampleHost s = 106900 ∧ Backed sampleHost s := by
  obtain ⟨log, s, run, ends⟩ := System.exists_run_of_replay (poolSystem sampleHost)
    (withinSlack sampleHost) samplePool_deployed
    (sampleOpening 10000 ++ [.moveXlm sampleHost.contract 112000, afterDays 52,
      callBy 11 (.claimStream (computeClaimId sampleHost (party 11) 0) (party 21))])
    (fun _ s => liquidBalance sampleHost s = 106900) (by decide +kernel)
  exact ⟨log, s, run, ends, (principal_backed sampleHost run).1⟩

/-- The claim of the opening forfeits 2000 and is paid 5100: 96900 are left for
the 100000 of the other wallet. -/
theorem payout_exceeds_forfeited_principal :
    ∃ log s, (poolSystem sampleHost).Run System.anyStep log s ∧ ¬ Backed sampleHost s := by
  obtain ⟨log, s, run, ends⟩ := System.exists_run_of_replay (poolSystem sampleHost)
    System.anyStep samplePool_deployed
    (sampleOpening 10000 ++ [afterDays 52,
      callBy 11 (.claimStream (computeClaimId sampleHost (party 11) 0) (party 21))])
    (fun _ s => ¬ Backed sampleHost s) (by decide +kernel)
  exact ⟨log, s, run, ends⟩

end ProtectionPool
