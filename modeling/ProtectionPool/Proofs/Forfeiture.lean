/-
Module: ProtectionPool.Proofs.Forfeiture
Purpose: A deposit is forfeited at most once, to one claim, as long as a claim is
  put into effect only where no other stored claim of the wallet has taken the
  deposit and an override carries over what its claim was paid.  The code takes a
  record that is marked withdrawn for one forfeited to the claim at hand, whichever
  claim it was forfeited to.
Trusted boundary: none
Main exports: decrements, fundedPayouts, ForfeitsOnce, ForfeitedOnce,
  deposit_forfeited_once
-/
import ProtectionPool.Proofs.Holders
import ProtectionPool.Proofs.Payouts

namespace ProtectionPool

open Checked

variable {D : Type}

/-! ### What the journal tells about a deposit -/

/-- Whether an entry takes principal of a wallet out of the stake aggregate. -/
def BookEvent.forfeits (b : Books D) (wallet : Address) : BookEvent D → Nat
  | .exited owner => if owner = wallet then 1 else 0
  | .approved owner _ =>
      if owner = wallet ∧ (b.stakes.get owner).any (fun record => 0 < record.amount) then 1 else 0
  | .overridden owner _ _ =>
      if owner = wallet ∧ (b.stakes.get owner).any (fun record => !record.withdrawn) then 1 else 0
  | _ => 0

variable [DecidableEq D]

/-- Whether an entry reverses a claim of a wallet. -/
def BookEvent.reverses (b : Books D) (wallet : Address) (event : BookEvent D) : Bool :=
  (event.reversal b).any fun reversed => reversed.1 = wallet

/-- How often the stake aggregate was decremented for a wallet's n-th deposit
since a claim of the wallet was last reversed. -/
def decrements : Journal D → Address → Nat → Nat
  | [], _, _ => 0
  | (b, event) :: past, wallet, n =>
      if deposits past wallet = n then
        (if event.reverses b wallet then 0 else decrements past wallet n) +
          event.forfeits b wallet
      else decrements past wallet n

/-- The deposit a wallet's claim was last put into effect under, unless it was
reversed since. -/
def backing : Journal D → Address → D → Option Nat
  | [], _, _ => none
  | (b, event) :: past, wallet, claimId =>
      if event.activation = some (wallet, claimId) then some (deposits past wallet)
      else if event.reversal b = some (wallet, claimId) then none
      else backing past wallet claimId

/-- What an entry pays under a claim that a wallet's n-th deposit backs. -/
def BookEvent.fundedPayout (past : Journal D) (wallet : Address) (n : Nat) : BookEvent D → Int
  | .streamed owner claimId amount _ =>
      if owner = wallet ∧ backing past wallet claimId = some n then amount else 0
  | _ => 0

/-- Whether an entry reverses a claim that a wallet's n-th deposit stands behind. -/
def BookEvent.releases (past : Journal D) (b : Books D) (wallet : Address) (n : Nat)
    (event : BookEvent D) : Bool :=
  (event.reversal b).any fun reversed =>
    reversed.1 = wallet ∧ reversed.2 ∈ holders past wallet n

/-- What a wallet's n-th deposit paid for, under claims not reversed since. -/
def fundedPayouts : Journal D → Address → Nat → Int
  | [], _, _ => 0
  | (b, event) :: past, wallet, n =>
      (if event.releases past b wallet n then 0 else fundedPayouts past wallet n) +
        event.fundedPayout past wallet n

/-- No stored claim of a wallet but one took the wallet's deposit. -/
def Books.TakenByNoOther (b : Books D) (wallet : Address) (claimId : D) : Prop :=
  ∀ record ∈ b.stakes.get wallet,
    Store.All (fun otherId other => other.wallet = wallet → otherId ≠ claimId →
      ¬ other.TookSince record) b.claims

/-- An override of an identifier carries over what its claim was paid on the deposit: the
claim is the wallet's own, and if it took the deposit it is in effect still or unpaid. -/
def Books.CarriesPayments (b : Books D) (wallet : Address) (claimId : D) : Prop :=
  ∀ claim ∈ b.claims.get claimId, claim.wallet = wallet ∧
    ∀ record ∈ b.stakes.get wallet, claim.TookSince record →
      claim.status = .active ∨ claim.streamed = 0

/-- The condition under which an entry forfeits no deposit a second time. -/
def BookEvent.ForfeitsOnce (b : Books D) : BookEvent D → Prop
  | .approved wallet claimId => b.TakenByNoOther wallet claimId
  | .overridden wallet claimId _ =>
      b.TakenByNoOther wallet claimId ∧ b.CarriesPayments wallet claimId
  | _ => True

instance (b : Books D) (wallet : Address) (claimId : D) :
    Decidable (b.TakenByNoOther wallet claimId) :=
  inferInstanceAs (Decidable (∀ record ∈ b.stakes.get wallet, _))

instance (b : Books D) (wallet : Address) (claimId : D) :
    Decidable (b.CarriesPayments wallet claimId) :=
  inferInstanceAs (Decidable (∀ claim ∈ b.claims.get claimId, _ ∧
    ∀ record ∈ b.stakes.get wallet, _))

instance (b : Books D) (event : BookEvent D) : Decidable (event.ForfeitsOnce b) := by
  induction event using BookEvent.casesOn with
  | approved => exact inferInstanceAs (Decidable (Books.TakenByNoOther _ _ _))
  | overridden => exact inferInstanceAs (Decidable (Books.TakenByNoOther _ _ _ ∧ _))
  | _ => exact inferInstanceAs (Decidable True)

/-- What a journal says of the deposits forfeited so far. -/
structure ForfeitedOnce (past : Journal D) (b : Books D) : Prop where
  oneClaim : ∀ wallet n, (holders past wallet n).card ≤ 1
  oneDecrement : ∀ wallet n, decrements past wallet n ≤ 1
  payouts : ∀ wallet n, fundedPayouts past wallet n = 0 ∨
    ∃ claimId ∈ holders past wallet n,
      fundedPayouts past wallet n ≤ largestEntitlement past b claimId

variable {idOf : Address → BytesN 32 → D} {event : BookEvent D} {b b' : Books D}
  {past : Journal D} {wallet : Address} {n : Nat} {claimId : D}

/-! ### The claims behind a deposit -/

/-- Every deposit stands behind at most one claim. -/
def OneHolder (past : Journal D) : Prop :=
  ∀ wallet n claimId otherId, claimId ∈ holders past wallet n → otherId ∈ holders past wallet n →
    claimId = otherId

/-- The current deposit stands behind no claim but the one an entry puts into effect. -/
def ActivatesSole (past : Journal D) (event : BookEvent D) : Prop :=
  ∀ wallet claimId, event.activation = some (wallet, claimId) → SoleHolder past wallet claimId

theorem OneHolder.step (one : OneHolder past) (sole : ActivatesSole past event) :
    OneHolder ((b, event) :: past) := by
  intro wallet n claimId otherId holds otherHolds
  rcases mem_holders_cons.mp holds with ⟨activates, current⟩ | ⟨held, -⟩
  · rcases mem_holders_cons.mp otherHolds with ⟨otherActivates, -⟩ | ⟨otherHeld, -⟩
    · rw [activates] at otherActivates
      cases otherActivates
      rfl
    · subst current
      exact (sole _ _ activates otherId otherHeld).symm
  · rcases mem_holders_cons.mp otherHolds with ⟨activates, current⟩ | ⟨otherHeld, -⟩
    · subst current
      exact sole _ _ activates claimId held
    · exact one wallet n claimId otherId held otherHeld

/-- A claim behind the current deposit is stored as one that took it, so where no other took
it the deposit stands behind no other. -/
theorem HoldersStored.sole (stored : HoldersStored past b) {record : StakeRecord D}
    (found : b.stakes.get wallet = some record) (untaken : b.TakenByNoOther wallet claimId) :
    SoleHolder past wallet claimId := by
  intro otherId held
  obtain ⟨other, listed, own, took⟩ := stored.taken found held
  by_contra apart
  exact untaken record found otherId other listed own apart took

/-- An entry that forfeits once finds the deposit behind no other claim. -/
theorem HoldersStored.activatesSole (stored : HoldersStored past b)
    (step : BookStep idOf event b b') (once : event.ForfeitsOnce b) : ActivatesSole past event := by
  intro wallet claimId activates
  cases step with
  | approved listed awaiting found =>
      cases activates
      exact stored.sole found once
  | overridden unfinished found =>
      cases activates
      exact stored.sole found once.1
  | _ => cases activates

/-- An entry that forfeits once puts a claim into effect under an identifier of the wallet's
own. -/
theorem BookEvent.ForfeitsOnce.own (once : event.ForfeitsOnce b)
    (step : BookStep idOf event b b') {owner : Address} {claim : Claim}
    (activates : event.activation = some (owner, claimId))
    (listed : b.claims.get claimId = some claim) : claim.wallet = owner := by
  cases step with
  | approved found =>
      cases activates
      obtain rfl := Option.mem_unique listed found
      rfl
  | overridden =>
      cases activates
      exact (once.2 claim listed).1
  | _ => cases activates

/-! ### The decrements for a deposit -/

/-- What the records say of the current deposits: one that stands was not taken
out of the aggregate, and one that was forfeited stands behind a claim. -/
structure DepositsTracked (past : Journal D) (b : Books D) : Prop where
  standing : ∀ wallet record, b.stakes.get wallet = some record → record.withdrawn = false →
    decrements past wallet (deposits past wallet) = 0
  forfeited : ∀ wallet record, b.stakes.get wallet = some record → record.withdrawn = true →
    0 < record.amount → (holders past wallet (deposits past wallet)).Nonempty
  later : ∀ wallet n, deposits past wallet < n → decrements past wallet n = 0
  once : ∀ wallet n, decrements past wallet n ≤ 1

omit [DecidableEq D] in
theorem BookEvent.forfeits_le_one : event.forfeits b wallet ≤ 1 := by
  cases event <;> simp only [BookEvent.forfeits] <;> first | split_ifs <;> decide | decide

omit [DecidableEq D] in
/-- Principal leaves the aggregate by an exit or when a claim is put into effect. -/
theorem BookEvent.forfeits_eq_zero (unpaid : event ≠ .exited wallet)
    (inactive : ∀ claimId, event.activation ≠ some (wallet, claimId)) :
    event.forfeits b wallet = 0 := by
  cases event with
  | exited owner =>
      apply if_neg
      rintro rfl
      exact unpaid rfl
  | approved owner claimId | overridden owner claimId =>
      apply if_neg
      rintro ⟨rfl, -⟩
      exact inactive claimId rfl
  | _ => rfl

/-- What an entry that forfeits once takes out of the aggregate was not taken out
before. -/
theorem DepositsTracked.not_taken (tracked : DepositsTracked past b)
    (admitted : HoldersAdmitted past b) (step : BookStep idOf event b b')
    (sole : ActivatesSole past event) (wallet : Address) :
    event.forfeits b wallet = 0 ∨ decrements past wallet (deposits past wallet) = 0 := by
  cases step with
  | @exited _ owner _ _ _ stored _ standing =>
      by_cases own : owner = wallet
      · subst own
        exact .inr (tracked.standing owner _ stored standing)
      · exact .inl (if_neg own)
  | @approved _ claimId claim record listed awaiting stored =>
      by_cases own : claim.wallet = wallet
      · subst own
        rcases Bool.eq_false_or_eq_true record.withdrawn with forfeited | standing
        · left
          rw [BookEvent.forfeits, stored, if_neg]
          rintro ⟨-, funded⟩
          -- the claim behind a forfeited deposit is past its admission, this one is not
          obtain ⟨otherId, held⟩ :=
            tracked.forfeited _ record stored forfeited (of_decide_eq_true funded)
          obtain rfl := sole _ _ rfl otherId held
          obtain ⟨other, found, -, past⟩ := admitted _ _ _ held
          obtain rfl := Option.mem_unique listed found
          rw [awaiting] at past
          cases past
        · exact .inr (tracked.standing _ record stored standing)
      · exact .inl (if_neg fun counted => own counted.1)
  | @overridden _ _ req record _ _ stored =>
      by_cases own : req.wallet = wallet
      · subst own
        rcases Bool.eq_false_or_eq_true record.withdrawn with forfeited | standing
        · left
          simp [BookEvent.forfeits, stored, forfeited]
        · exact .inr (tracked.standing _ record stored standing)
      · exact .inl (if_neg fun counted => own counted.1)
  | _ => exact .inl rfl

theorem DepositsTracked.step (tracked : DepositsTracked past b)
    (admitted : HoldersAdmitted past b) (step : BookStep idOf event b b')
    (sole : ActivatesSole past event) : DepositsTracked ((b, event) :: past) b' := by
  constructor
  · intro wallet record' stored' standing'
    rw [deposits, decrements]
    cases step.recordChange stored' with
    | deposited deposit =>
        subst deposit
        have fresh : (BookEvent.staked wallet : BookEvent D).deposit wallet = 1 := if_pos rfl
        rw [fresh, if_neg (by omega)]
        exact tracked.later wallet _ (by omega)
    | paidOut _ withdrawn | forfeited _ _ withdrawn =>
        rw [withdrawn] at standing'
        cases standing'
    | restored reverses =>
        have cleared : event.reverses b wallet = true := by simp [BookEvent.reverses, reverses]
        rw [BookEvent.deposit_of_reversal reverses, add_zero, if_pos rfl, if_pos cleared]
        obtain rfl := BookEvent.cancelled_of_reversal reverses
        rfl
    | unchanged stored mark _ undeposited unpaid inactive =>
        have none := tracked.standing wallet _ stored (mark ▸ standing')
        rw [BookEvent.deposit_eq_zero undeposited, add_zero, if_pos rfl, none, ite_self,
          BookEvent.forfeits_eq_zero unpaid inactive]
  · intro wallet record' stored' forfeited funded
    rw [deposits]
    cases step.recordChange stored' with
    | deposited _ standing | restored _ _ standing =>
        rw [standing] at forfeited
        cases forfeited
    | paidOut _ _ empty => exact absurd empty funded.ne'
    | @forfeited _ claimId activates =>
        rw [BookEvent.deposit_of_activation activates, add_zero]
        exact ⟨claimId, mem_holders_cons.mpr (.inl ⟨activates, rfl⟩)⟩
    | unchanged stored mark amount undeposited _ _ unreversed =>
        obtain ⟨claimId, held⟩ :=
          tracked.forfeited wallet _ stored (mark ▸ forfeited) (amount ▸ funded)
        rw [BookEvent.deposit_eq_zero undeposited, add_zero]
        exact ⟨claimId, mem_holders_cons.mpr (.inr ⟨held, unreversed claimId⟩)⟩
  · intro wallet n later
    rw [deposits] at later
    rw [decrements, if_neg (by omega)]
    exact tracked.later wallet n (by omega)
  · intro wallet n
    rw [decrements]
    split_ifs with current reversed
    · rw [zero_add]
      exact BookEvent.forfeits_le_one
    · subst current
      rcases tracked.not_taken admitted step sole wallet with none | fresh
      · rw [none, add_zero]
        exact tracked.once wallet _
      · rw [fresh, zero_add]
        exact BookEvent.forfeits_le_one
    · exact tracked.once wallet n

/-! ### The payouts a deposit funds -/

/-- What the books say of the payouts: a deposit that backs a claim stands behind
it, the claim's record covers what the deposit paid, a deposit that stands behind
no claim paid nothing, and one that does paid no more than the claim carried. -/
structure PayoutsTracked (past : Journal D) (b : Books D) : Prop where
  backed : ∀ wallet claimId n, backing past wallet claimId = some n →
    claimId ∈ holders past wallet n
  covered : ∀ claimId claim n, b.claims.get claimId = some claim →
    backing past claim.wallet claimId = some n →
      fundedPayouts past claim.wallet n ≤ claim.streamed
  idle : ∀ wallet n, holders past wallet n = ∅ → fundedPayouts past wallet n = 0
  bounded : ∀ wallet n, ∀ claimId ∈ holders past wallet n,
    fundedPayouts past wallet n ≤ largestEntitlement past b claimId

/-- Payouts are not negative. -/
theorem BookStep.payout_nonneg (step : BookStep idOf event b b') : 0 ≤ event.payout claimId := by
  cases step with
  | streamed _ _ _ positive =>
      simp only [BookEvent.payout]
      split_ifs
      · exact positive.le
      · exact le_refl 0
  | _ => exact le_refl 0

/-- What a deposit funds is paid under a claim it backs, by an entry that puts no
claim into effect and reverses none. -/
theorem BookEvent.fundedPayout_ne_zero (funds : event.fundedPayout past wallet n ≠ 0) :
    ∃ claimId amount leavesPool, event = .streamed wallet claimId amount leavesPool ∧
      backing past wallet claimId = some n ∧ event.fundedPayout past wallet n = amount := by
  cases event with
  | streamed owner claimId amount leavesPool =>
      simp only [BookEvent.fundedPayout] at funds ⊢
      by_cases own : owner = wallet ∧ backing past wallet claimId = some n
      · obtain ⟨rfl, backs⟩ := own
        exact ⟨claimId, amount, leavesPool, rfl, backs, if_pos ⟨rfl, backs⟩⟩
      · exact absurd (if_neg own) funds
  | _ => exact absurd rfl funds

theorem largestEntitlement_nonneg (kept : b.WellKept) (past : Journal D) (claimId : D) :
    0 ≤ largestEntitlement past b claimId := by
  refine le_trans ?_ (entitlement_le_largest past b claimId)
  unfold Books.entitlement
  cases listed : b.claims.get claimId with
  | none => exact le_refl 0
  | some claim => exact (kept.claims claimId claim listed).positive.le

/-- A claim just put into effect is backed by the current deposit. -/
theorem backing_of_activation (activates : event.activation = some (wallet, claimId))
    (backs : backing ((b, event) :: past) wallet claimId = some n) : deposits past wallet = n := by
  rw [backing, if_pos activates] at backs
  exact Option.some.inj backs

theorem PayoutsTracked.backed_step (tracked : PayoutsTracked past b)
    (backs : backing ((b, event) :: past) wallet claimId = some n) :
    claimId ∈ holders ((b, event) :: past) wallet n := by
  rw [backing] at backs
  apply mem_holders_cons.mpr
  split_ifs at backs with activates reverses
  · exact .inl ⟨activates, Option.some.inj backs⟩
  · exact .inr ⟨tracked.backed wallet claimId n backs, reverses⟩

/-- Under a claim that a deposit backs, an entry pays at least what the deposit
funds. -/
theorem PayoutsTracked.fundedPayout_le (tracked : PayoutsTracked past b) (one : OneHolder past)
    (step : BookStep idOf event b b') (holds : claimId ∈ holders past wallet n) :
    event.fundedPayout past wallet n ≤ event.payout claimId := by
  by_cases funds : event.fundedPayout past wallet n = 0
  · rw [funds]
    exact step.payout_nonneg
  · obtain ⟨otherId, amount, leavesPool, rfl, backs, pays⟩ :=
      BookEvent.fundedPayout_ne_zero funds
    obtain rfl := one wallet n claimId otherId holds (tracked.backed wallet otherId n backs)
    rw [pays, BookEvent.payout, if_pos rfl]

/-- The only claim an entry may put into effect has no payouts before it that its
deposit funded, unless the deposit stands behind it already. -/
theorem PayoutsTracked.idle_of_sole (tracked : PayoutsTracked past b)
    (sole : SoleHolder past wallet claimId)
    (fresh : claimId ∉ holders past wallet (deposits past wallet)) :
    fundedPayouts past wallet (deposits past wallet) = 0 := by
  apply tracked.idle
  apply Finset.eq_empty_of_forall_notMem
  intro otherId held
  obtain rfl := sole otherId held
  exact fresh held

/-- A claim behind the current deposit is backed by it. -/
theorem backing_of_holder (held : claimId ∈ holders past wallet (deposits past wallet)) :
    backing past wallet claimId = some (deposits past wallet) := by
  induction past with
  | nil => exact absurd held (Finset.notMem_empty _)
  | cons entry past inductionHypothesis =>
      obtain ⟨b, event⟩ := entry
      rw [backing]
      rcases mem_holders_cons.mp held with ⟨activates, current⟩ | ⟨before, unreversed⟩
      · rw [if_pos activates, current]
      · have undeposited : event.deposit wallet = 0 := by
          -- a deposit just made stands behind no claim
          by_contra made
          rw [deposits, holders_eq_empty (by omega)] at before
          exact absurd before (Finset.notMem_empty _)
        rw [deposits, undeposited, add_zero] at before ⊢
        rw [if_neg unreversed, inductionHypothesis before, ite_self]

/-- An override that forfeits once carries over what the deposit paid. -/
theorem PayoutsTracked.carried (tracked : PayoutsTracked past b) (stored : HoldersStored past b)
    (kept : b.WellKept) {entitlement : Int}
    (step : BookStep idOf (.overridden wallet claimId entitlement) b b')
    (once : BookEvent.ForfeitsOnce b (.overridden wallet claimId entitlement)) :
    fundedPayouts past wallet (deposits past wallet) ≤ carriedStreamed (b.claims.get claimId) := by
  have sole := stored.activatesSole step once wallet claimId rfl
  by_cases held : claimId ∈ holders past wallet (deposits past wallet)
  · obtain ⟨record, found⟩ : ∃ record, b.stakes.get wallet = some record := by
      cases step with
      | overridden _ found => exact ⟨_, found⟩
    obtain ⟨claim, listed, rfl, took⟩ := stored.taken found held
    rw [carriedStreamed_eq]
    · rw [Books.streamed, listed, Store.share_some]
      exact tracked.covered claimId claim _ listed (backing_of_holder held)
    · intro other same
      obtain rfl := Option.mem_unique listed same
      exact (once.2 _ listed).2 record found took
  · rw [tracked.idle_of_sole sole held]
    exact carriedStreamed_nonneg kept.claims claimId

theorem PayoutsTracked.covered_step (tracked : PayoutsTracked past b) (one : OneHolder past)
    (admitted : HoldersAdmitted past b) (stored : HoldersStored past b) (kept : b.WellKept)
    (step : BookStep idOf event b b') (once : event.ForfeitsOnce b) {claim' : Claim}
    (listed' : b'.claims.get claimId = some claim')
    (backs : backing ((b, event) :: past) claim'.wallet claimId = some n) :
    fundedPayouts ((b, event) :: past) claim'.wallet n ≤ claim'.streamed := by
  have holds := tracked.backed_step backs
  cases step.claimChange kept listed' with
  | overridden override carried =>
      -- an override carries over what the deposit paid
      obtain rfl := override
      obtain rfl := backing_of_activation rfl backs
      rw [carried, fundedPayouts]
      simp only [BookEvent.releases, BookEvent.reversal, BookEvent.fundedPayout, Option.any_none,
        Bool.false_eq_true, if_false, add_zero]
      exact tracked.carried stored kept step once
  | submitted submission absent =>
      -- a claim just submitted has no deposit behind it
      obtain rfl := submission
      rcases mem_holders_cons.mp holds with ⟨activates, -⟩ | ⟨held, -⟩
      · cases activates
      · obtain ⟨old, found, -⟩ := admitted _ _ _ held
        rw [absent] at found
        cases found
  | approved approval listed awaiting streamed =>
      -- an approved claim was pending, so its deposit stood behind no claim
      obtain rfl := approval
      obtain rfl := backing_of_activation rfl backs
      have fresh : claimId ∉ holders past claim'.wallet (deposits past claim'.wallet) := by
        intro held
        obtain ⟨old, found, -, out⟩ := admitted _ _ _ held
        obtain rfl := Option.mem_unique listed found
        rw [awaiting] at out
        cases out
      rw [fundedPayouts, tracked.idle_of_sole (stored.activatesSole step once _ _ rfl) fresh,
        ite_self, streamed]
      exact (kept.claims _ _ listed).streamedNonneg
  | kept listed own streamed inactive =>
      have before : backing past claim'.wallet claimId = some n := by
        rw [backing, if_neg inactive] at backs
        split_ifs at backs
        exact backs
      have within := tracked.covered claimId _ n listed (own ▸ before)
      have pays := tracked.fundedPayout_le one step (tracked.backed _ _ _ before)
      rw [fundedPayouts, streamed]
      apply add_le_add _ pays
      split_ifs
      · exact (kept.claims _ _ listed).streamedNonneg
      · rw [← own]
        exact within

/-- Before a payout the record of the claim covers what its deposit paid. -/
theorem PayoutsTracked.recorded (tracked : PayoutsTracked past b) {amount : Int}
    {leavesPool : Bool} (step : BookStep idOf (.streamed wallet claimId amount leavesPool) b b')
    (backs : backing past wallet claimId = some n) :
    fundedPayouts past wallet n ≤ b.streamed claimId := by
  cases step with
  | streamed listed =>
      rw [Books.streamed, listed, Store.share_some]
      exact tracked.covered claimId _ n listed backs

theorem PayoutsTracked.idle_step (tracked : PayoutsTracked past b)
    (none : holders ((b, event) :: past) wallet n = ∅) :
    fundedPayouts ((b, event) :: past) wallet n = 0 := by
  have gone : ∀ claimId, claimId ∉ holders ((b, event) :: past) wallet n := by
    rw [none]
    exact Finset.notMem_empty
  have unfunded : event.fundedPayout past wallet n = 0 := by
    by_contra funds
    obtain ⟨claimId, _, _, rfl, backs, -⟩ := BookEvent.fundedPayout_ne_zero funds
    apply gone claimId
    exact mem_holders_cons.mpr (.inr ⟨tracked.backed wallet claimId n backs, nofun⟩)
  rw [fundedPayouts, unfunded, add_zero]
  split_ifs with releases
  · rfl
  · apply tracked.idle
    apply Finset.eq_empty_of_forall_notMem
    intro claimId held
    apply gone claimId
    refine mem_holders_cons.mpr (.inr ⟨held, fun reverses => releases ?_⟩)
    simp [BookEvent.releases, reverses, held]

theorem PayoutsTracked.bounded_step (tracked : PayoutsTracked past b) (one : OneHolder past)
    (kept : b.WellKept) (step : BookStep idOf event b b') (sole : ActivatesSole past event)
    (holds : claimId ∈ holders ((b, event) :: past) wallet n) :
    fundedPayouts ((b, event) :: past) wallet n ≤
      largestEntitlement ((b, event) :: past) b' claimId := by
  have grows : largestEntitlement past b claimId ≤
      largestEntitlement ((b, event) :: past) b' claimId := le_max_right _ _
  refine le_trans ?_ grows
  by_cases funds : event.fundedPayout past wallet n = 0
  · rw [fundedPayouts, funds, add_zero]
    split_ifs
    · exact largestEntitlement_nonneg kept past claimId
    · by_cases held : claimId ∈ holders past wallet n
      · exact tracked.bounded wallet n claimId held
      · rcases mem_holders_cons.mp holds with ⟨activates, rfl⟩ | ⟨before, -⟩
        · rw [tracked.idle_of_sole (sole _ _ activates) held]
          exact largestEntitlement_nonneg kept past claimId
        · exact absurd before held
  · obtain ⟨otherId, amount, leavesPool, rfl, backs, pays⟩ :=
      BookEvent.fundedPayout_ne_zero funds
    rcases mem_holders_cons.mp holds with ⟨activates, -⟩ | ⟨held, -⟩
    · cases activates
    · obtain rfl := one wallet n claimId otherId held (tracked.backed wallet otherId n backs)
      rcases step.payout_le kept claimId with unpaid | within
      · rw [BookEvent.payout, if_pos rfl] at unpaid
        exact absurd (pays.trans unpaid) funds
      · have before := tracked.recorded step backs
        rw [BookEvent.payout, if_pos rfl] at within
        have paidNow : fundedPayouts ((b, .streamed wallet claimId amount leavesPool) :: past)
            wallet n = fundedPayouts past wallet n + amount := by
          rw [fundedPayouts, pays]
          rfl
        rw [paidNow]
        exact ((Int.add_le_add_right before amount).trans within).trans
          (entitlement_le_largest past b claimId)

/-! ### Runs -/

/-- The invariant of the runs that forfeit each deposit once. -/
structure ForfeitureInvariant (past : Journal D) (b : Books D) : Prop where
  one : OneHolder past
  admitted : HoldersAdmitted past b
  stored : HoldersStored past b
  dated : Store.All (fun _ record => record.stakedAtLedger ≤ b.sequence) b.stakes
  deposits : DepositsTracked past b
  payouts : PayoutsTracked past b

theorem ForfeitureInvariant.initially (noStakes : b.stakes = Store.empty) :
    ForfeitureInvariant [] b where
  one := by
    intro wallet n claimId otherId holds
    exact absurd holds (Finset.notMem_empty _)
  admitted := by
    intro wallet n claimId holds
    exact absurd holds (Finset.notMem_empty _)
  stored := by
    intro wallet n claimId holds
    exact absurd holds (Finset.notMem_empty _)
  dated := by
    rw [noStakes]
    exact Store.all_empty
  deposits := by
    constructor
    · intro wallet record stored
      rw [noStakes, Store.get_empty] at stored
      cases stored
    · intro wallet record stored
      rw [noStakes, Store.get_empty] at stored
      cases stored
    · exact fun _ _ _ => rfl
    · exact fun _ _ => Nat.zero_le _
  payouts := by
    constructor
    · exact nofun
    · exact nofun
    · exact fun _ _ _ => rfl
    · intro wallet n claimId holds
      exact absurd holds (Finset.notMem_empty _)

theorem ForfeitureInvariant.step (invariant : ForfeitureInvariant past b) (kept : b.WellKept)
    (step : BookStep idOf event b b') (once : event.ForfeitsOnce b) :
    ForfeitureInvariant ((b, event) :: past) b' where
  one := invariant.one.step (invariant.stored.activatesSole step once)
  admitted := invariant.admitted.step step kept
  stored := invariant.stored.step step kept invariant.dated fun _ _ _ => once.own step
  dated := step.deposits_dated invariant.dated
  deposits := invariant.deposits.step invariant.admitted step
    (invariant.stored.activatesSole step once)
  payouts :=
    { backed := fun _ _ _ backs => invariant.payouts.backed_step backs
      covered := fun _ _ _ listed backs =>
        invariant.payouts.covered_step invariant.one invariant.admitted invariant.stored kept step
          once listed backs
      idle := fun _ _ none => invariant.payouts.idle_step none
      bounded := fun _ _ _ holds =>
        invariant.payouts.bounded_step invariant.one kept step
          (invariant.stored.activatesSole step once) holds }

theorem ForfeitureInvariant.forfeitedOnce (invariant : ForfeitureInvariant past b) :
    ForfeitedOnce past b where
  oneClaim := by
    intro wallet n
    apply Finset.card_le_one.mpr
    intro claimId holds otherId otherHolds
    exact invariant.one wallet n claimId otherId holds otherHolds
  oneDecrement := invariant.deposits.once
  payouts := by
    intro wallet n
    rcases Finset.eq_empty_or_nonempty (holders past wallet n) with none | ⟨claimId, holds⟩
    · exact .inl (invariant.payouts.idle wallet n none)
    · exact .inr ⟨claimId, holds, invariant.payouts.bounded wallet n claimId holds⟩

/-- The steps that forfeit no deposit a second time. -/
def forfeitsOnce : EntryRule D := fun _ b event => event.ForfeitsOnce b

instance (past : Journal D) (b : Books D) (event : BookEvent D) :
    Decidable (forfeitsOnce past b event) :=
  inferInstanceAs (Decidable (event.ForfeitsOnce b))

end ProtectionPool
