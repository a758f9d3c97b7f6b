/-
Module: ProtectionPool.Proofs.Principal
Purpose: A deposit is paid out to its wallet or pays for a claim, never both, as
  long as no claim is put into effect after a deposit it was made on has left and
  no reversal restores a deposit that stands behind another claim.  The code
  releases a queued claim without a look at the deposit it was queued on.
Trusted boundary: none
Main exports: ties, exits, PaidUnder, ReversedBefore, PrincipalOrPayout,
  principal_or_payout
-/
import ProtectionPool.Proofs.History

namespace ProtectionPool

variable {D : Type} [DecidableEq D]

/-! ### What the journal tells about a claim and its deposits -/

/-- The claim an entry makes on the current deposit of a wallet: a submission,
its admission from the queue, or an override. -/
def BookEvent.tie : BookEvent D → Option (Address × D)
  | .submitted wallet claimId => some (wallet, claimId)
  | .released wallet claimId => some (wallet, claimId)
  | .overridden wallet claimId _ => some (wallet, claimId)
  | _ => none

/-- The claim an entry pays under, with its wallet. -/
def BookEvent.payee : BookEvent D → Option (Address × D)
  | .streamed wallet claimId _ _ => some (wallet, claimId)
  | _ => none

/-- The deposits of a wallet that a claim was made on: each was the current one
when the claim was submitted, admitted or overridden. -/
def ties : Journal D → Address → D → Finset Nat
  | [], _, _ => ∅
  | (_, event) :: past, wallet, claimId =>
      if event.tie = some (wallet, claimId) then
        insert (deposits past wallet) (ties past wallet claimId)
      else ties past wallet claimId

/-- The deposits of a wallet whose principal was paid out. -/
def exits : Journal D → Address → Finset Nat
  | [], _ => ∅
  | (_, event) :: past, wallet =>
      if event = .exited wallet then insert (deposits past wallet) (exits past wallet)
      else exits past wallet

/-- A payout was made under the claim. -/
def PaidUnder (past : Journal D) (wallet : Address) (claimId : D) : Prop :=
  ∃ entry ∈ past, entry.2.payee = some (wallet, claimId)

/-- The claim was reversed while it was in effect. -/
def ReversedBefore (past : Journal D) (wallet : Address) (claimId : D) : Prop :=
  ∃ entry ∈ past, entry.2.reversal entry.1 = some (wallet, claimId)

instance (past : Journal D) (wallet : Address) (claimId : D) :
    Decidable (PaidUnder past wallet claimId) :=
  inferInstanceAs (Decidable (∃ entry ∈ past, _))

instance (past : Journal D) (wallet : Address) (claimId : D) :
    Decidable (ReversedBefore past wallet claimId) :=
  inferInstanceAs (Decidable (∃ entry ∈ past, _))

/-- Principal or payout: no deposit was paid out that a claim was made on which
paid and was not reversed. -/
def PrincipalOrPayout (past : Journal D) : Prop :=
  ∀ wallet claimId, PaidUnder past wallet claimId → ¬ ReversedBefore past wallet claimId →
    Disjoint (ties past wallet claimId) (exits past wallet)

/-- The condition under which an entry keeps principal and payout apart: a claim
is put into effect only when no deposit it was made on has left, and a claim is
reversed only when the current deposit stands behind no other. -/
def BookEvent.KeepsPrincipal (past : Journal D) (b : Books D) : BookEvent D → Prop
  | .approved wallet claimId => Disjoint (ties past wallet claimId) (exits past wallet)
  | .overridden wallet claimId _ =>
      ReversedBefore past wallet claimId ∨
        Disjoint (ties past wallet claimId) (exits past wallet)
  | .cancelled wallet claimId =>
      (BookEvent.cancelled wallet claimId).reversal b = some (wallet, claimId) →
        SoleHolder past wallet claimId
  | _ => True

instance (past : Journal D) (b : Books D) (event : BookEvent D) :
    Decidable (event.KeepsPrincipal past b) := by
  induction event using BookEvent.casesOn with
  | approved => exact inferInstanceAs (Decidable (Disjoint _ _))
  | overridden => exact inferInstanceAs (Decidable (ReversedBefore _ _ _ ∨ Disjoint _ _))
  | cancelled => exact inferInstanceAs (Decidable (_ → SoleHolder _ _ _))
  | _ => exact inferInstanceAs (Decidable True)

variable {idOf : Address → BytesN 32 → D} {event : BookEvent D} {b b' : Books D}
  {past : Journal D} {wallet : Address} {m n : Nat} {claimId : D}

theorem mem_ties_cons :
    n ∈ ties ((b, event) :: past) wallet claimId ↔
      (event.tie = some (wallet, claimId) ∧ deposits past wallet = n) ∨
        n ∈ ties past wallet claimId := by
  rw [ties]
  split_ifs with tied
  · simp [tied, eq_comm]
  · simp [tied]

theorem mem_exits_cons :
    n ∈ exits ((b, event) :: past) wallet ↔
      (event = .exited wallet ∧ deposits past wallet = n) ∨ n ∈ exits past wallet := by
  rw [exits]
  split_ifs with exit
  · simp [exit, eq_comm]
  · simp [exit]

theorem unreversed_of_cons
    (unreversed : ¬ ReversedBefore ((b, event) :: past) wallet claimId) :
    ¬ ReversedBefore past wallet claimId ∧ event.reversal b ≠ some (wallet, claimId) := by
  constructor
  · rintro ⟨entry, made, reverses⟩
    exact unreversed ⟨entry, List.mem_cons_of_mem _ made, reverses⟩
  · intro reverses
    exact unreversed ⟨_, List.mem_cons_self, reverses⟩

/-- Claims are made on deposits that were made. -/
theorem le_deposits_of_mem_ties (tied : n ∈ ties past wallet claimId) :
    n ≤ deposits past wallet := by
  induction past with
  | nil => cases tied
  | cons entry past inductionHypothesis =>
      obtain ⟨b, event⟩ := entry
      rw [deposits]
      rcases mem_ties_cons.mp tied with ⟨-, rfl⟩ | before
      · exact Nat.le_add_right _ _
      · exact (inductionHypothesis before).trans (Nat.le_add_right _ _)

/-- Deposits that left were made. -/
theorem le_deposits_of_mem_exits (gone : n ∈ exits past wallet) : n ≤ deposits past wallet := by
  induction past with
  | nil => cases gone
  | cons entry past inductionHypothesis =>
      obtain ⟨b, event⟩ := entry
      rw [deposits]
      rcases mem_exits_cons.mp gone with ⟨-, rfl⟩ | before
      · exact Nat.le_add_right _ _
      · exact (inductionHypothesis before).trans (Nat.le_add_right _ _)

/-- An entry that keeps principal and payout apart puts a claim into effect only
when no deposit it was made on has left. -/
theorem BookEvent.KeepsPrincipal.disjoint (keeps : event.KeepsPrincipal past b)
    (activates : event.activation = some (wallet, claimId))
    (unreversed : ¬ ReversedBefore past wallet claimId) :
    Disjoint (ties past wallet claimId) (exits past wallet) := by
  cases event with
  | approved =>
      cases activates
      exact keeps
  | overridden =>
      cases activates
      exact keeps.resolve_left unreversed
  | _ => cases activates

/-! ### The invariant -/

/-- What the journal says of the deposits and the claims made on them: a deposit
that stands is behind no claim, one that left has no amount, a claim in effect or
paid has a deposit behind it, and of the deposits such a claim was made on none
has left and the current one is behind it. -/
structure PrincipalTracked (past : Journal D) (b : Books D) : Prop where
  standing : ∀ wallet record, b.stakes.get wallet = some record → record.withdrawn = false →
    holders past wallet (deposits past wallet) = ∅
  emptied : ∀ wallet record, b.stakes.get wallet = some record →
    deposits past wallet ∈ exits past wallet → record.amount = 0
  inEffect : ∀ claimId claim, b.claims.get claimId = some claim → claim.status = .active →
    ∃ n, claimId ∈ holders past claim.wallet n
  paid : ∀ wallet claimId, PaidUnder past wallet claimId → ¬ ReversedBefore past wallet claimId →
    ∃ n, claimId ∈ holders past wallet n
  remaining : ∀ wallet claimId m n, ¬ ReversedBefore past wallet claimId →
    claimId ∈ holders past wallet m → n ∈ ties past wallet claimId → n ∉ exits past wallet
  behind : ∀ wallet claimId m, ¬ ReversedBefore past wallet claimId →
    claimId ∈ holders past wallet m → deposits past wallet ∈ ties past wallet claimId →
      claimId ∈ holders past wallet (deposits past wallet)

/-- A claim is paid when it is in effect. -/
theorem BookStep.active_of_payee (step : BookStep idOf event b b')
    (pays : event.payee = some (wallet, claimId)) :
    ∃ claim, b.claims.get claimId = some claim ∧ claim.status = .active ∧
      claim.wallet = wallet := by
  cases step with
  | streamed listed active =>
      cases pays
      exact ⟨_, listed, active, rfl⟩
  | _ => cases pays

/-- A submission or a release is made on a claim that no deposit stands behind,
and an override puts the claim into effect. -/
theorem BookStep.tie_cases (step : BookStep idOf event b b') (kept : b.WellKept)
    (ties : event.tie = some (wallet, claimId)) :
    (event.activation = some (wallet, claimId) ∧
        ∃ record, b.stakes.get wallet = some record ∧ 0 < record.amount) ∨
      (event.activation = none ∧ ¬ PastAdmission b.claims claimId) := by
  cases step with
  | queued _ _ _ unused | admitted _ _ _ unused =>
      cases ties
      refine .inr ⟨rfl, ?_⟩
      rintro ⟨old, listed, -⟩
      rw [kept.absent unused] at listed
      cases listed
  | released listed reserved =>
      cases ties
      refine .inr ⟨rfl, ?_⟩
      rintro ⟨old, found, unreserved, -⟩
      obtain rfl := Option.mem_unique listed found
      exact unreserved reserved
  | overridden _ stored _ funded =>
      cases ties
      exact .inl ⟨rfl, _, stored, funded⟩
  | _ => cases ties

namespace PrincipalTracked

/-- A deposit that stands after an entry has no claims: it is new, the claim it
stood behind is reversed, or it stood before. -/
theorem standing_step (tracked : PrincipalTracked past b) (step : BookStep idOf event b b')
    (keeps : event.KeepsPrincipal past b) {record' : StakeRecord D}
    (stored' : b'.stakes.get wallet = some record') (standing' : record'.withdrawn = false) :
    holders ((b, event) :: past) wallet (deposits ((b, event) :: past) wallet) = ∅ := by
  rw [deposits]
  apply Finset.eq_empty_of_forall_notMem
  intro claimId holds
  cases step.recordChange stored' with
  | deposited deposit =>
      subst deposit
      have fresh : (BookEvent.staked wallet : BookEvent D).deposit wallet = 1 := if_pos rfl
      rcases mem_holders_cons.mp holds with ⟨activates, -⟩ | ⟨held, -⟩
      · cases activates
      · rw [fresh, holders_eq_empty (Nat.lt_succ_self _)] at held
        exact absurd held (Finset.notMem_empty _)
  | paidOut _ withdrawn | forfeited _ _ withdrawn =>
      rw [withdrawn] at standing'
      cases standing'
  | restored reverses =>
      rw [BookEvent.deposit_of_reversal reverses, add_zero] at holds
      obtain rfl := BookEvent.cancelled_of_reversal reverses
      rcases mem_holders_cons.mp holds with ⟨activates, -⟩ | ⟨held, other⟩
      · cases activates
      · obtain rfl := keeps reverses claimId held
        exact other reverses
  | unchanged stored mark _ undeposited _ inactive =>
      rw [BookEvent.deposit_eq_zero undeposited, add_zero] at holds
      rcases mem_holders_cons.mp holds with ⟨activates, -⟩ | ⟨held, -⟩
      · exact inactive claimId activates
      · rw [tracked.standing wallet _ stored (mark ▸ standing')] at held
        exact absurd held (Finset.notMem_empty _)

/-- The record of a deposit that left is empty until the next deposit. -/
theorem emptied_step (tracked : PrincipalTracked past b) (step : BookStep idOf event b b')
    {record' : StakeRecord D} (stored' : b'.stakes.get wallet = some record')
    (gone : deposits ((b, event) :: past) wallet ∈ exits ((b, event) :: past) wallet) :
    record'.amount = 0 := by
  rw [deposits] at gone
  cases step.recordChange stored' with
  | deposited deposit =>
      subst deposit
      have fresh : (BookEvent.staked wallet : BookEvent D).deposit wallet = 1 := if_pos rfl
      rcases mem_exits_cons.mp gone with ⟨exit, -⟩ | before
      · cases exit
      · rw [fresh] at before
        exact absurd (le_deposits_of_mem_exits before) (Nat.not_succ_le_self _)
  | paidOut _ _ empty => exact empty
  | forfeited activates stored _ amount =>
      rw [BookEvent.deposit_of_activation activates, add_zero] at gone
      rcases mem_exits_cons.mp gone with ⟨rfl, -⟩ | before
      · cases activates
      · exact amount.trans (tracked.emptied wallet _ stored before)
  | restored reverses stored _ amount =>
      rw [BookEvent.deposit_of_reversal reverses, add_zero] at gone
      rcases mem_exits_cons.mp gone with ⟨rfl, -⟩ | before
      · cases reverses
      · exact amount.trans (tracked.emptied wallet _ stored before)
  | unchanged stored _ amount undeposited unpaid =>
      rw [BookEvent.deposit_eq_zero undeposited, add_zero] at gone
      rcases mem_exits_cons.mp gone with ⟨exit, -⟩ | before
      · exact absurd exit unpaid
      · exact amount.trans (tracked.emptied wallet _ stored before)

theorem inEffect_step (tracked : PrincipalTracked past b) (kept : b.WellKept)
    (step : BookStep idOf event b b') {claim' : Claim}
    (listed' : b'.claims.get claimId = some claim') (active' : claim'.status = .active) :
    ∃ n, claimId ∈ holders ((b, event) :: past) claim'.wallet n := by
  cases step.claimChange kept listed' with
  | overridden activates | approved activates =>
      obtain rfl := activates
      exact ⟨_, mem_holders_cons.mpr (.inl ⟨rfl, rfl⟩)⟩
  | submitted _ _ inactive => exact absurd active' inactive
  | kept listed own _ _ active =>
      obtain ⟨before, stays⟩ := active active'
      obtain ⟨n, held⟩ := tracked.inEffect claimId _ listed before
      rw [own] at held
      exact ⟨n, mem_holders_cons.mpr (.inr ⟨held, stays⟩)⟩

theorem paid_step (tracked : PrincipalTracked past b) (step : BookStep idOf event b b')
    (paid : PaidUnder ((b, event) :: past) wallet claimId)
    (unreversed : ¬ ReversedBefore ((b, event) :: past) wallet claimId) :
    ∃ n, claimId ∈ holders ((b, event) :: past) wallet n := by
  obtain ⟨unreversed, stays⟩ := unreversed_of_cons unreversed
  have held : ∃ n, claimId ∈ holders past wallet n := by
    rcases List.or_exists_of_exists_mem_cons paid with pays | before
    · obtain ⟨claim, listed, active, rfl⟩ := step.active_of_payee pays
      exact tracked.inEffect claimId claim listed active
    · exact tracked.paid wallet claimId before unreversed
  obtain ⟨n, held⟩ := held
  exact ⟨n, mem_holders_cons.mpr (.inr ⟨held, stays⟩)⟩

/-- The deposits that a claim put into effect was made on had not left before the
entry. -/
theorem remaining_before (tracked : PrincipalTracked past b) (admitted : HoldersAdmitted past b)
    (kept : b.WellKept) (step : BookStep idOf event b b') (keeps : event.KeepsPrincipal past b)
    (unreversed : ¬ ReversedBefore past wallet claimId)
    (holds : claimId ∈ holders ((b, event) :: past) wallet m)
    (tied : n ∈ ties ((b, event) :: past) wallet claimId) : n ∉ exits past wallet := by
  rcases mem_ties_cons.mp tied with ⟨ties, rfl⟩ | before
  · rcases step.tie_cases kept ties with ⟨-, record, stored, funded⟩ | ⟨inactive, fresh⟩
    · intro gone
      exact funded.ne' (tracked.emptied wallet record stored gone)
    · rcases mem_holders_cons.mp holds with ⟨activates, -⟩ | ⟨held, -⟩
      · rw [inactive] at activates
        cases activates
      · exact absurd (admitted wallet m claimId held) fresh
  · rcases mem_holders_cons.mp holds with ⟨activates, -⟩ | ⟨held, -⟩
    · exact Finset.disjoint_left.mp (keeps.disjoint activates unreversed) before
    · exact tracked.remaining wallet claimId m n unreversed held before

theorem remaining_step (tracked : PrincipalTracked past b) (admitted : HoldersAdmitted past b)
    (kept : b.WellKept) (step : BookStep idOf event b b') (keeps : event.KeepsPrincipal past b)
    (unreversed : ¬ ReversedBefore ((b, event) :: past) wallet claimId)
    (holds : claimId ∈ holders ((b, event) :: past) wallet m)
    (tied : n ∈ ties ((b, event) :: past) wallet claimId) :
    n ∉ exits ((b, event) :: past) wallet := by
  have before := (unreversed_of_cons unreversed).1
  intro gone
  rcases mem_exits_cons.mp gone with ⟨rfl, rfl⟩ | left
  · -- the deposit that leaves stands, so it is behind no claim
    rcases mem_holders_cons.mp holds with ⟨activates, -⟩ | ⟨held, -⟩
    · cases activates
    · rcases mem_ties_cons.mp tied with ⟨ties, -⟩ | tied
      · cases ties
      · have behind := tracked.behind wallet claimId m before held tied
        cases step with
        | exited stored _ standing =>
            rw [tracked.standing wallet _ stored standing] at behind
            exact absurd behind (Finset.notMem_empty _)
  · exact tracked.remaining_before admitted kept step keeps before holds tied left

theorem behind_step (tracked : PrincipalTracked past b) (admitted : HoldersAdmitted past b)
    (kept : b.WellKept) (step : BookStep idOf event b b')
    (unreversed : ¬ ReversedBefore ((b, event) :: past) wallet claimId)
    (holds : claimId ∈ holders ((b, event) :: past) wallet m)
    (tied : deposits ((b, event) :: past) wallet ∈ ties ((b, event) :: past) wallet claimId) :
    claimId ∈ holders ((b, event) :: past) wallet (deposits ((b, event) :: past) wallet) := by
  obtain ⟨unreversed, stays⟩ := unreversed_of_cons unreversed
  have earlier : deposits past wallet ≤ deposits ((b, event) :: past) wallet :=
    Nat.le_add_right _ _
  rcases mem_ties_cons.mp tied with ⟨ties, current⟩ | before
  · rcases step.tie_cases kept ties with ⟨activates, -⟩ | ⟨inactive, fresh⟩
    · exact mem_holders_cons.mpr (.inl ⟨activates, current⟩)
    · rcases mem_holders_cons.mp holds with ⟨activates, -⟩ | ⟨held, -⟩
      · rw [inactive] at activates
        cases activates
      · exact absurd (admitted wallet m claimId held) fresh
  · have current : deposits past wallet = deposits ((b, event) :: past) wallet :=
      le_antisymm earlier (le_deposits_of_mem_ties before)
    rw [← current] at before ⊢
    rcases mem_holders_cons.mp holds with ⟨activates, -⟩ | ⟨held, -⟩
    · exact mem_holders_cons.mpr (.inl ⟨activates, rfl⟩)
    · have behind := tracked.behind wallet claimId m unreversed held before
      exact mem_holders_cons.mpr (.inr ⟨behind, stays⟩)

theorem step (tracked : PrincipalTracked past b) (admitted : HoldersAdmitted past b)
    (kept : b.WellKept) (step : BookStep idOf event b b')
    (keeps : event.KeepsPrincipal past b) : PrincipalTracked ((b, event) :: past) b' where
  standing _ _ stored standing := tracked.standing_step step keeps stored standing
  emptied _ _ stored gone := tracked.emptied_step step stored gone
  inEffect _ _ listed active := tracked.inEffect_step kept step listed active
  paid _ _ paid unreversed := tracked.paid_step step paid unreversed
  remaining _ _ _ _ unreversed holds tied :=
    tracked.remaining_step admitted kept step keeps unreversed holds tied
  behind _ _ _ unreversed holds tied :=
    tracked.behind_step admitted kept step unreversed holds tied

theorem initially (noStakes : b.stakes = Store.empty) (noClaims : b.claims = Store.empty) :
    PrincipalTracked [] b where
  standing := by
    intro wallet record stored
    rw [noStakes, Store.get_empty] at stored
    cases stored
  emptied := by
    intro wallet record stored
    rw [noStakes, Store.get_empty] at stored
    cases stored
  inEffect := by
    intro claimId claim listed
    rw [noClaims, Store.get_empty] at listed
    cases listed
  paid := by
    rintro wallet claimId ⟨entry, made, -⟩
    cases made
  remaining := by
    intro wallet claimId m n unreversed holds
    cases holds
  behind := by
    intro wallet claimId m unreversed holds
    cases holds

theorem principalOrPayout (tracked : PrincipalTracked past b) : PrincipalOrPayout past := by
  intro wallet claimId paid unreversed
  obtain ⟨m, held⟩ := tracked.paid wallet claimId paid unreversed
  apply Finset.disjoint_left.mpr
  intro n tied
  exact tracked.remaining wallet claimId m n unreversed held tied

end PrincipalTracked

/-! ### Runs -/

/-- The steps that keep principal and payout apart. -/
def keepsPrincipal : EntryRule D := fun past b event => event.KeepsPrincipal past b

instance (past : Journal D) (b : Books D) (event : BookEvent D) :
    Decidable (keepsPrincipal past b event) :=
  inferInstanceAs (Decidable (event.KeepsPrincipal past b))

/-- In every run in which claims are put into effect only while every deposit they
were made on remains, and reversed only when the current deposit stands behind no
other claim, a deposit is paid out or pays for a claim, never both. -/
theorem principal_or_payout (host : Host D)
    {log : List (Entry (State D) (Action D) (Output D))} {s : State D}
    (run : (poolSystem host).Run (keepsPrincipal.guard host) log s) :
    PrincipalOrPayout (journal host log) := by
  have invariant : HoldersAdmitted (journal host log) (s.books host) ∧
      PrincipalTracked (journal host log) (s.books host) := by
    apply journal_invariant (P := fun past b => HoldersAdmitted past b ∧ PrincipalTracked past b)
      _ _ run
    · intro b noStakes noClaims
      exact ⟨nofun, .initially noStakes noClaims⟩
    · rintro past b event b' step kept ⟨admitted, tracked⟩ keeps
      exact ⟨admitted.step step kept, tracked.step admitted kept step keeps⟩
  exact invariant.2.principalOrPayout

/-- The claim of the sample queue is released, approved and paid in such a run,
and the deposit of another wallet leaves in it. -/
theorem principal_or_payout_sample :
    ∃ log s, (poolSystem sampleHost).Run (keepsPrincipal.guard sampleHost) log s ∧
      PaidUnder (journal sampleHost log) (party 11) (computeClaimId sampleHost (party 11) 0) ∧
      exits (journal sampleHost log) (party 13) = {1} ∧
      PrincipalOrPayout (journal sampleHost log) := by
  obtain ⟨log, s, run, ends⟩ := System.exists_run_of_replay (poolSystem sampleHost)
    (keepsPrincipal.guard sampleHost) samplePool_deployed
    (sampleQueue ++ [callBy 11 (.tryReleaseQueuedClaim (computeClaimId sampleHost (party 11) 0)),
      callBy 11 (.approveClaim (computeClaimId sampleHost (party 11) 0)), afterDays 142,
      callBy 11 (.claimStream (computeClaimId sampleHost (party 11) 0) (party 21)),
      callBy 13 (.withdraw (party 13) (party 23))])
    (fun log _ => PaidUnder (journal sampleHost log) (party 11)
        (computeClaimId sampleHost (party 11) 0) ∧
      exits (journal sampleHost log) (party 13) = {1}) (by decide +kernel)
  obtain ⟨paid, left⟩ := ends
  exact ⟨log, s, run, paid, left, principal_or_payout sampleHost run⟩

/-- The wallet of the sample queue withdraws before the release: its claim is
admitted, approved and paid all the same. -/
theorem payout_after_withdrawal :
    ∃ log s, (poolSystem sampleHost).Run System.anyStep log s ∧
      ¬ PrincipalOrPayout (journal sampleHost log) := by
  obtain ⟨log, s, run, ends⟩ := System.exists_run_of_replay (poolSystem sampleHost)
    System.anyStep samplePool_deployed
    (sampleQueue ++ [callBy 11 (.withdraw (party 11) (party 21)),
      callBy 11 (.tryReleaseQueuedClaim (computeClaimId sampleHost (party 11) 0)),
      callBy 11 (.approveClaim (computeClaimId sampleHost (party 11) 0)), afterDays 142,
      callBy 11 (.claimStream (computeClaimId sampleHost (party 11) 0) (party 21))])
    (fun log _ =>
      PaidUnder (journal sampleHost log) (party 11) (computeClaimId sampleHost (party 11) 0) ∧
      ¬ ReversedBefore (journal sampleHost log) (party 11)
        (computeClaimId sampleHost (party 11) 0) ∧
      ¬ Disjoint (ties (journal sampleHost log) (party 11) (computeClaimId sampleHost (party 11) 0))
        (exits (journal sampleHost log) (party 11))) (by decide +kernel)
  obtain ⟨paid, unreversed, both⟩ := ends
  exact ⟨log, s, run, fun apart => both (apart (party 11) _ paid unreversed)⟩

end ProtectionPool
