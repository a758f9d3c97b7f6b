/-
Module: ProtectionPool.Proofs.History
Purpose: The journal of a run, the entries made in the books with the books each
  was made in, and what it tells about the past: how often a wallet deposited,
  which claims each deposit was forfeited to, what was paid.  Properties of
  journals are proved entry by entry.
Trusted boundary: none
Main exports: Journal, journal, EntryRule, journal_invariant, deposits, holders,
  SoleHolder, RecordChange, PastAdmission
-/
import ProtectionPool.Proofs.WellKept

namespace ProtectionPool

variable {D : Type}

/-- The entries of a run, each with the books it was made in, newest first. -/
abbrev Journal (D : Type) := List (Books D × BookEvent D)

variable [DecidableEq D]

/-- The journal of a log. -/
def journal (host : Host D) (log : List (Entry (State D) (Action D) (Output D))) : Journal D :=
  log.map fun e => (e.pre.books host, bookEvent host e.pre e.action)

/-- A restriction on the entries of a journal. -/
abbrev EntryRule (D : Type) := Journal D → Books D → BookEvent D → Prop

/-- The steps whose entries meet a rule. -/
def EntryRule.guard (rule : EntryRule D) (host : Host D) :
    System.Guard (State D) (Action D) (Output D) :=
  fun log s action => rule (journal host log) (s.books host) (bookEvent host s action)

instance (rule : EntryRule D) [∀ past b event, Decidable (rule past b event)] (host : Host D)
    (log : List (Entry (State D) (Action D) (Output D))) (s : State D) (action : Action D) :
    Decidable (rule.guard host log s action) :=
  inferInstanceAs (Decidable (rule _ _ _))

/-- What holds of the empty books and is kept by every entry that meets a rule
holds along every run that does. -/
theorem journal_invariant {host : Host D} {rule : EntryRule D}
    {P : Journal D → Books D → Prop}
    (initially : ∀ b : Books D, b.stakes = Store.empty → b.claims = Store.empty → P [] b)
    (kept : ∀ past b event b', BookStep (computeClaimId host) event b b' → b.WellKept →
      P past b → rule past b event → P ((b, event) :: past) b')
    {log : List (Entry (State D) (Action D) (Output D))} {s : State D}
    (run : (poolSystem host).Run (rule.guard host) log s) :
    P (journal host log) (s.books host) := by
  apply run.invariant (P := fun log s => P (journal host log) (s.books host))
  · intro s deployed
    obtain ⟨noStakes, noClaims, -⟩ := deployed_books deployed
    exact initially _ noStakes noClaims
  · intro log s action output s' run invariant met stepped
    exact kept _ _ _ _ (step_refines stepped) (wellKept_of_run run) invariant met

/-! ### Deposits and the claims they were forfeited to -/

/-- The deposit an entry makes for a wallet. -/
def BookEvent.deposit (wallet : Address) : BookEvent D → Nat
  | .staked staker => if staker = wallet then 1 else 0
  | _ => 0

/-- The claim an entry puts into effect, with its wallet. -/
def BookEvent.activation : BookEvent D → Option (Address × D)
  | .approved wallet claimId => some (wallet, claimId)
  | .overridden wallet claimId _ => some (wallet, claimId)
  | _ => none

/-- The claim an entry reverses, with its wallet: a cancellation of a claim in
effect. -/
def BookEvent.reversal (b : Books D) : BookEvent D → Option (Address × D)
  | .cancelled wallet claimId =>
      if (b.claims.get claimId).any (fun claim => claim.status = .active) then
        some (wallet, claimId)
      else none
  | _ => none

/-- What an entry pays under an identifier. -/
def BookEvent.payout (claimId : D) : BookEvent D → Int
  | .streamed _ id amount _ => if id = claimId then amount else 0
  | _ => 0

/-- How many deposits a wallet made.  The last of them is its current one. -/
def deposits : Journal D → Address → Nat
  | [], _ => 0
  | (_, event) :: past, wallet => deposits past wallet + event.deposit wallet

/-- The claims a wallet's n-th deposit stands behind: those put into effect while
it was the current one and not reversed since. -/
def holders : Journal D → Address → Nat → Finset D
  | [], _, _ => ∅
  | (b, event) :: past, wallet, n =>
      let kept :=
        match event.reversal b with
        | some (owner, claimId) =>
            if owner = wallet then (holders past wallet n).erase claimId
            else holders past wallet n
        | none => holders past wallet n
      match event.activation with
      | some (owner, claimId) =>
          if owner = wallet ∧ deposits past wallet = n then insert claimId kept else kept
      | none => kept

/-- The current deposit of a wallet stands behind no claim but one. -/
def SoleHolder (past : Journal D) (wallet : Address) (claimId : D) : Prop :=
  ∀ otherId ∈ holders past wallet (deposits past wallet), otherId = claimId

instance (past : Journal D) (wallet : Address) (claimId : D) :
    Decidable (SoleHolder past wallet claimId) :=
  inferInstanceAs (Decidable (∀ otherId ∈ holders past wallet (deposits past wallet), _))

variable {idOf : Address → BytesN 32 → D} {event : BookEvent D} {b b' : Books D}
  {past : Journal D} {wallet : Address} {n : Nat} {claimId : D}

/-- Claims are reversed by cancellations. -/
theorem BookEvent.cancelled_of_reversal (reverses : event.reversal b = some (wallet, claimId)) :
    event = .cancelled wallet claimId := by
  cases event with
  | cancelled =>
      simp only [BookEvent.reversal] at reverses
      split_ifs at reverses
      cases reverses
      rfl
  | _ => cases reverses

/-- An entry that reverses a claim makes no deposit. -/
theorem BookEvent.deposit_of_reversal {reversed : Address × D}
    (reverses : event.reversal b = some reversed) : event.deposit wallet = 0 := by
  obtain rfl := BookEvent.cancelled_of_reversal reverses
  rfl

omit [DecidableEq D] in
/-- An entry that puts a claim into effect makes no deposit. -/
theorem BookEvent.deposit_of_activation {activated : Address × D}
    (activates : event.activation = some activated) : event.deposit wallet = 0 := by
  cases event <;> first | rfl | cases activates

omit [DecidableEq D] in
/-- Only a stake of the wallet is a deposit of it. -/
theorem BookEvent.deposit_eq_zero (undeposited : event ≠ .staked wallet) :
    event.deposit wallet = 0 := by
  cases event with
  | staked staker =>
      apply if_neg
      rintro rfl
      exact undeposited rfl
  | _ => rfl

/-- A cancellation of a claim in effect reverses it. -/
theorem BookEvent.reversal_of_active {claim : Claim} (listed : b.claims.get claimId = some claim)
    (active : claim.status = .active) :
    (BookEvent.cancelled wallet claimId).reversal b = some (wallet, claimId) := by
  simp [BookEvent.reversal, listed, active]

/-- A cancellation of a pending claim reverses nothing. -/
theorem BookEvent.reversal_of_pending {claim : Claim} (listed : b.claims.get claimId = some claim)
    (pending : claim.status.isPending = true) :
    (BookEvent.cancelled wallet claimId).reversal b = none := by
  have inactive : claim.status ≠ .active := ClaimStatus.ne_of_isPending pending rfl
  simp [BookEvent.reversal, listed, inactive]

/-- A claim has a deposit behind it when the entry puts it into effect under the
deposit, or it had it before and the entry does not reverse it. -/
theorem mem_holders_cons :
    claimId ∈ holders ((b, event) :: past) wallet n ↔
      (event.activation = some (wallet, claimId) ∧ deposits past wallet = n) ∨
        (claimId ∈ holders past wallet n ∧ event.reversal b ≠ some (wallet, claimId)) := by
  simp only [holders]
  cases reverses : event.reversal b with
  | some reversed =>
      obtain ⟨owner, reversedId⟩ := reversed
      obtain rfl := BookEvent.cancelled_of_reversal reverses
      by_cases own : owner = wallet
      · subst own
        have apart : some (owner, reversedId) ≠ some (owner, claimId) ↔ claimId ≠ reversedId := by
          simp [eq_comm]
        simp only [BookEvent.activation, if_true, Finset.mem_erase, apart, reduceCtorEq, false_and,
          false_or, and_comm]
      · simp [BookEvent.activation, own]
  | none =>
      cases activates : event.activation with
      | none => simp
      | some activated =>
          obtain ⟨owner, activatedId⟩ := activated
          by_cases current : owner = wallet ∧ deposits past wallet = n
          · obtain ⟨rfl, rfl⟩ := current
            simp [eq_comm]
          · simp only [current, if_false, ne_eq, reduceCtorEq, not_false_eq_true, and_true]
            constructor
            · exact .inr
            · rintro (⟨same, reached⟩ | held)
              · cases same
                exact absurd ⟨rfl, reached⟩ current
              · exact held

/-- A deposit that was not made yet has no claims. -/
theorem holders_eq_empty (later : deposits past wallet < n) : holders past wallet n = ∅ := by
  induction past with
  | nil => rfl
  | cons entry past inductionHypothesis =>
      obtain ⟨b, event⟩ := entry
      rw [deposits] at later
      have before : deposits past wallet < n := by omega
      apply Finset.eq_empty_of_forall_notMem
      intro claimId holds
      rcases mem_holders_cons.mp holds with ⟨-, current⟩ | ⟨held, -⟩
      · exact before.ne current
      · rw [inductionHypothesis before] at held
        exact absurd held (Finset.notMem_empty _)

/-! ### What an entry does to a record -/

/-- How an entry leaves the record of a wallet: as a new deposit, paid out,
forfeited to a claim, restored by a reversal, or with its amount and its mark as
they were. -/
inductive RecordChange (b : Books D) (event : BookEvent D) (wallet : Address)
    (record' : StakeRecord D) : Prop where
  | deposited (deposit : event = .staked wallet) (standing : record'.withdrawn = false)
  | paidOut (exit : event = .exited wallet) (withdrawn : record'.withdrawn = true)
      (empty : record'.amount = 0)
  | forfeited {record : StakeRecord D} {claimId : D}
      (activates : event.activation = some (wallet, claimId))
      (stored : b.stakes.get wallet = some record) (withdrawn : record'.withdrawn = true)
      (amount : record'.amount = record.amount)
  | restored {record : StakeRecord D} {claimId : D}
      (reverses : event.reversal b = some (wallet, claimId))
      (stored : b.stakes.get wallet = some record) (standing : record'.withdrawn = false)
      (amount : record'.amount = record.amount)
  | unchanged {record : StakeRecord D}
      (stored : b.stakes.get wallet = some record)
      (mark : record'.withdrawn = record.withdrawn) (amount : record'.amount = record.amount)
      (undeposited : event ≠ .staked wallet) (unpaid : event ≠ .exited wallet)
      (inactive : ∀ claimId, event.activation ≠ some (wallet, claimId))
      (unreversed : ∀ claimId, event.reversal b ≠ some (wallet, claimId))

/-- Every entry changes a record in one of these ways. -/
theorem BookStep.recordChange (step : BookStep idOf event b b') {record' : StakeRecord D}
    (stored' : b'.stakes.get wallet = some record') : RecordChange b event wallet record' := by
  cases step with
  | staked =>
      rcases Store.get_set_eq_some.mp stored' with ⟨rfl, rfl⟩ | ⟨other, before⟩
      · exact .deposited rfl rfl
      · refine .unchanged before rfl rfl ?_ nofun nofun nofun
        rintro ⟨⟩
        exact other rfl
  | exited =>
      rcases Store.get_set_eq_some.mp stored' with ⟨rfl, rfl⟩ | ⟨other, before⟩
      · exact .paidOut rfl rfl rfl
      · refine .unchanged before rfl rfl nofun ?_ nofun nofun
        rintro ⟨⟩
        exact other rfl
  | approved _ _ found | overridden _ found =>
      rcases Store.get_set_eq_some.mp stored' with ⟨rfl, rfl⟩ | ⟨other, before⟩
      · exact .forfeited rfl found rfl rfl
      · refine .unchanged before rfl rfl nofun nofun ?_ nofun
        rintro _ ⟨⟩
        exact other rfl
  | reversed listed active found =>
      rcases Store.get_set_eq_some.mp stored' with ⟨rfl, rfl⟩ | ⟨other, before⟩
      · exact .restored (BookEvent.reversal_of_active listed active) found rfl rfl
      · refine .unchanged before rfl rfl nofun nofun nofun ?_
        rw [BookEvent.reversal_of_active listed active]
        rintro _ ⟨⟩
        exact other rfl
  | @droppedPending _ droppedId claim _ listed pending found =>
      have unreversed : ∀ claimId,
          (BookEvent.cancelled claim.wallet droppedId).reversal b ≠ some (wallet, claimId) := by
        rw [BookEvent.reversal_of_pending listed pending]
        exact nofun
      rcases Store.get_set_eq_some.mp stored' with ⟨rfl, rfl⟩ | ⟨-, before⟩
      · exact .unchanged found rfl rfl nofun nofun nofun unreversed
      · exact .unchanged before rfl rfl nofun nofun nofun unreversed
  | queued _ found | admitted _ found | amended found | restarted found =>
      rcases Store.get_set_eq_some.mp stored' with ⟨rfl, rfl⟩ | ⟨-, before⟩
      · exact .unchanged found rfl rfl nofun nofun nofun nofun
      · exact .unchanged before rfl rfl nofun nofun nofun nofun
  | released _ _ found | queueExpired _ _ found | approvalExpired _ _ found
  | staleExpired _ _ _ found =>
      rcases Store.get_set_eq_some.mp stored' with ⟨rfl, rfl⟩ | ⟨-, before⟩
      · exact .unchanged found rfl rfl nofun nofun nofun nofun
      · exact .unchanged before rfl rfl nofun nofun nofun nofun
  | unlocked | streamed | redeemed | deployed | kept | treasury | clock =>
      exact .unchanged stored' rfl rfl nofun nofun nofun nofun

/-! ### What an entry does to a claim -/

/-- How an entry leaves the claim listed under an identifier: put into effect by
an override, just submitted, approved, or as it was but for the entry's payout
and its status. -/
inductive ClaimChange (b : Books D) (event : BookEvent D) (claimId : D) (claim' : Claim) :
    Prop where
  | overridden {entitlement : Int}
      (override : event = .overridden claim'.wallet claimId entitlement)
      (streamed : claim'.streamed = carriedStreamed (b.claims.get claimId))
  | submitted (submission : event = .submitted claim'.wallet claimId)
      (absent : b.claims.get claimId = none) (inactive : claim'.status ≠ .active)
  | approved {claim : Claim} (approval : event = .approved claim'.wallet claimId)
      (listed : b.claims.get claimId = some claim) (awaiting : claim.status = .awaitingApproval)
      (streamed : claim'.streamed = claim.streamed)
  | kept {claim : Claim}
      (listed : b.claims.get claimId = some claim) (own : claim.wallet = claim'.wallet)
      (streamed : claim'.streamed = claim.streamed + event.payout claimId)
      (inactive : event.activation ≠ some (claim'.wallet, claimId))
      (active : claim'.status = .active →
        claim.status = .active ∧ event.reversal b ≠ some (claim'.wallet, claimId))

/-- A claim an entry does not touch. -/
theorem ClaimChange.untouched {claim : Claim} (listed : b.claims.get claimId = some claim)
    (unpaid : event.payout claimId = 0)
    (inactive : event.activation ≠ some (claim.wallet, claimId))
    (unreversed : event.reversal b ≠ some (claim.wallet, claimId)) :
    ClaimChange b event claimId claim := by
  apply ClaimChange.kept listed rfl _ inactive
  · intro active
    exact ⟨active, unreversed⟩
  · rw [unpaid, add_zero]

omit [DecidableEq D] in
/-- Entries on different claims are apart, whoever their wallets are. -/
theorem some_ne_of_claim {owner : Address} {otherId : D} (other : claimId ≠ otherId) :
    some (owner, otherId) ≠ some (wallet, claimId) := by
  rintro ⟨⟩
  exact other rfl

/-- Every entry changes a claim in one of these ways. -/
theorem BookStep.claimChange (step : BookStep idOf event b b') (kept : b.WellKept)
    {claim' : Claim} (listed' : b'.claims.get claimId = some claim') :
    ClaimChange b event claimId claim' := by
  cases step with
  | overridden =>
      rcases Store.get_set_eq_some.mp listed' with ⟨rfl, rfl⟩ | ⟨other, before⟩
      · exact .overridden rfl rfl
      · exact .untouched before rfl (some_ne_of_claim other) nofun
  | queued _ _ _ unused =>
      rcases Store.get_set_eq_some.mp listed' with ⟨rfl, rfl⟩ | ⟨-, before⟩
      · exact .submitted rfl (kept.absent unused) nofun
      · exact .untouched before rfl nofun nofun
  | admitted _ _ _ unused _ _ admission =>
      have inactive : _ ≠ ClaimStatus.active := ClaimStatus.ne_of_isPending admission.pending rfl
      rcases Store.get_set_eq_some.mp listed' with ⟨rfl, rfl⟩ | ⟨-, before⟩
      · exact .submitted rfl (kept.absent unused) inactive
      · exact .untouched before rfl nofun nofun
  | released listed reserved _ _ _ _ admission =>
      have inactive : _ ≠ ClaimStatus.active := ClaimStatus.ne_of_isPending admission.pending rfl
      rcases Store.get_set_eq_some.mp listed' with ⟨rfl, rfl⟩ | ⟨-, before⟩
      · refine .kept listed rfl ?_ nofun fun active => absurd active inactive
        rw [(kept.claims _ _ listed).unpaid (.inl reserved)]
        rfl
      · exact .untouched before rfl nofun nofun
  | approved listed awaiting =>
      rcases Store.get_set_eq_some.mp listed' with ⟨rfl, rfl⟩ | ⟨other, before⟩
      · exact .approved rfl listed awaiting rfl
      · exact .untouched before rfl (some_ne_of_claim other) nofun
  | queueExpired listed | unlocked listed | approvalExpired listed | staleExpired listed =>
      rcases Store.get_set_eq_some.mp listed' with ⟨rfl, rfl⟩ | ⟨-, before⟩
      · exact .kept listed rfl (add_zero _).symm nofun nofun
      · exact .untouched before rfl nofun nofun
  | droppedPending listed pending =>
      rcases Store.get_set_eq_some.mp listed' with ⟨rfl, rfl⟩ | ⟨-, before⟩
      · exact .kept listed rfl (add_zero _).symm nofun nofun
      · refine .untouched before rfl nofun ?_
        rw [BookEvent.reversal_of_pending listed pending]
        exact nofun
  | reversed listed active =>
      rcases Store.get_set_eq_some.mp listed' with ⟨rfl, rfl⟩ | ⟨other, before⟩
      · exact .kept listed rfl (add_zero _).symm nofun nofun
      · refine .untouched before rfl nofun ?_
        rw [BookEvent.reversal_of_active listed active]
        exact some_ne_of_claim other
  | streamed listed active =>
      rcases Store.get_set_eq_some.mp listed' with ⟨rfl, rfl⟩ | ⟨other, before⟩
      · refine .kept listed rfl ?_ nofun fun _ => ⟨active, nofun⟩
        rw [BookEvent.payout, if_pos rfl]
        rfl
      · exact .untouched before (if_neg (Ne.symm other)) nofun nofun
  | restarted _ listed =>
      rcases Store.get_set_eq_some.mp listed' with ⟨rfl, rfl⟩ | ⟨-, before⟩
      · exact .kept listed rfl (add_zero _).symm nofun fun active => ⟨active, nofun⟩
      · exact .untouched before rfl nofun nofun
  | staked | exited | redeemed | deployed | kept | treasury | clock | amended =>
      exact .untouched listed' rfl nofun nofun

/-! ### Claims past their admission -/

/-- An identifier whose claim is neither queued nor pending any more, so that it
can be put into effect again by an override only. -/
def PastAdmission (claims : Store D Claim) (claimId : D) : Prop :=
  ∃ claim, claims.get claimId = some claim ∧ claim.status ≠ .reserved ∧
    claim.status.isPending = false

/-- An identifier stays past admission when its claim is replaced by such a one. -/
theorem PastAdmission.set {claims : Store D Claim} (admitted : PastAdmission claims claimId)
    {otherId : D} {claim : Claim}
    (own : otherId = claimId → claim.status ≠ .reserved ∧ claim.status.isPending = false) :
    PastAdmission (claims.set otherId claim) claimId := by
  obtain ⟨old, listed, out⟩ := admitted
  by_cases same : claimId = otherId
  · exact ⟨claim, by rw [same, Store.get_set_self], own same.symm⟩
  · exact ⟨old, by rw [Store.get_set_ne _ _ same, listed], out⟩

/-- No entry admits an identifier a second time. -/
theorem BookStep.pastAdmission (step : BookStep idOf event b b') (kept : b.WellKept)
    (admitted : PastAdmission b.claims claimId) : PastAdmission b'.claims claimId := by
  have status : ∀ {claim}, b.claims.get claimId = some claim →
      claim.status ≠ .reserved ∧ claim.status.isPending = false := by
    intro claim listed
    obtain ⟨old, found, out⟩ := admitted
    obtain rfl := Option.mem_unique listed found
    exact out
  cases step with
  | queued _ _ _ unused | admitted _ _ _ unused =>
      apply admitted.set
      rintro rfl
      obtain ⟨old, listed, -⟩ := admitted
      rw [kept.absent unused] at listed
      cases listed
  | released listed reserved =>
      apply admitted.set
      rintro rfl
      exact absurd reserved (status listed).1
  | unlocked listed pending =>
      apply admitted.set
      rintro rfl
      have out := (status listed).2
      rw [pending] at out
      cases out
  | streamed _ active =>
      apply admitted.set
      intro _
      simp only [Claim.paid, active]
      split_ifs
      · exact ⟨by rintro ⟨⟩, rfl⟩
      · exact ⟨by rintro ⟨⟩, rfl⟩
  | queueExpired | approved | approvalExpired | staleExpired | droppedPending | reversed
  | overridden =>
      apply admitted.set
      intro _
      exact ⟨by rintro ⟨⟩, rfl⟩
  | restarted _ listed =>
      apply admitted.set
      rintro rfl
      have out := status listed
      exact out
  | staked | exited | redeemed | deployed | kept | treasury | clock | amended => exact admitted

/-- A claim put into effect is past its admission. -/
theorem BookStep.pastAdmission_of_activation (step : BookStep idOf event b b')
    (activates : event.activation = some (wallet, claimId)) :
    PastAdmission b'.claims claimId := by
  cases step with
  | approved | overridden =>
      cases activates
      exact ⟨_, Store.get_set_self _ _ _, nofun, rfl⟩
  | _ => cases activates

/-- The claims the deposits stand behind are past their admission. -/
def HoldersAdmitted (past : Journal D) (b : Books D) : Prop :=
  ∀ wallet n claimId, claimId ∈ holders past wallet n → PastAdmission b.claims claimId

theorem HoldersAdmitted.step (admitted : HoldersAdmitted past b)
    (step : BookStep idOf event b b') (kept : b.WellKept) :
    HoldersAdmitted ((b, event) :: past) b' := by
  intro wallet n claimId holds
  rcases mem_holders_cons.mp holds with ⟨activates, -⟩ | ⟨held, -⟩
  · exact step.pastAdmission_of_activation activates
  · exact step.pastAdmission kept (admitted wallet n claimId held)

end ProtectionPool
