/-
Module: ProtectionPool.Proofs.LiveClaims
Purpose: A wallet's live claim is the one its stake record names, which makes it
  the only one and locks the stake.  The single step that breaks this is a new
  deposit by a wallet whose old deposit is forfeited to a claim still live.
Trusted boundary: none
Main exports: Locked, OneLiveClaim, stakesWithoutLiveClaim, live_claims_locked
-/
import ProtectionPool.Books.Refinement

namespace ProtectionPool

open Checked

variable {D : Type}

/-- The claim the stake record of a wallet names as active. -/
def activeClaim (stakes : Store Address (StakeRecord D)) (wallet : Address) : Option D :=
  (stakes.get wallet).bind (·.activeClaimId)

variable [DecidableEq D]

/-- Every live claim is the active claim of its wallet. -/
def Locked (stakes : Store Address (StakeRecord D)) (claims : Store D Claim) : Prop :=
  Store.All (fun claimId claim =>
    claim.status.isLive = true → activeClaim stakes claim.wallet = some claimId) claims

instance (stakes : Store Address (StakeRecord D)) (claims : Store D Claim) :
    Decidable (Locked stakes claims) :=
  inferInstanceAs (Decidable (Store.All _ _))

/-- No stored claim of a wallet is live. -/
def NoLiveClaim (claims : Store D Claim) (wallet : Address) : Prop :=
  Store.All (fun _ claim => claim.wallet = wallet → claim.status.isLive = false) claims

instance (claims : Store D Claim) (wallet : Address) : Decidable (NoLiveClaim claims wallet) :=
  inferInstanceAs (Decidable (Store.All _ _))

variable {stakes : Store Address (StakeRecord D)} {claims : Store D Claim}
  {wallet : Address} {record record' : StakeRecord D} {claimId : D} {claim : Claim}

/-! ### The active claim under an update -/

omit [DecidableEq D] in
theorem activeClaim_of_get (stored : stakes.get wallet = some record) :
    activeClaim stakes wallet = record.activeClaimId := by
  simp only [activeClaim, stored, Option.bind_some]

omit [DecidableEq D] in
@[simp] theorem activeClaim_set_self :
    activeClaim (stakes.set wallet record) wallet = record.activeClaimId := by
  simp only [activeClaim, Store.get_set_self, Option.bind_some]

omit [DecidableEq D] in
@[simp] theorem activeClaim_set_ne {other : Address} (distinct : other ≠ wallet) :
    activeClaim (stakes.set wallet record) other = activeClaim stakes other := by
  simp only [activeClaim, Store.get_set_ne _ _ distinct]

namespace Locked

/-- A live claim is the one its record names. -/
theorem active (locked : Locked stakes claims) (listed : claims.get claimId = some claim)
    (live : claim.status.isLive = true) (stored : stakes.get claim.wallet = some record) :
    record.activeClaimId = some claimId :=
  (activeClaim_of_get stored).symm.trans (locked claimId claim listed live)

/-- A wallet whose record names no claim has no live one. -/
theorem noLiveClaim (locked : Locked stakes claims) (stored : stakes.get wallet = some record)
    (inactive : record.activeClaimId = none) : NoLiveClaim claims wallet := by
  intro claimId claim listed own
  by_contra live
  have named := locked.active listed (Bool.eq_true_of_not_eq_false live) (own ▸ stored)
  rw [inactive] at named
  cases named

/-- Two live claims of one wallet are one claim. -/
theorem unique (locked : Locked stakes claims) {claimId' : D} {claim' : Claim}
    (listed : claims.get claimId = some claim) (live : claim.status.isLive = true)
    (listed' : claims.get claimId' = some claim') (live' : claim'.status.isLive = true)
    (same : claim.wallet = claim'.wallet) : claimId = claimId' := by
  have named := locked claimId claim listed live
  have named' := locked claimId' claim' listed' live'
  rw [same, named'] at named
  exact (Option.some.inj named).symm

/-- A record may be replaced as long as it still names the wallet's claim. -/
theorem set_stake (locked : Locked stakes claims) (stored : stakes.get wallet = some record)
    (same : record'.activeClaimId = record.activeClaimId) :
    Locked (stakes.set wallet record') claims := by
  intro claimId claim listed live
  by_cases own : claim.wallet = wallet
  · rw [own, activeClaim_set_self, same]
    exact locked.active listed live (own ▸ stored)
  · rw [activeClaim_set_ne own]
    exact locked claimId claim listed live

/-- A claim and the record of its wallet may be replaced together, provided the
wallet has no other live claim or keeps naming it. -/
theorem set_both (locked : Locked stakes claims)
    (others : ∀ otherId other, otherId ≠ claimId → claims.get otherId = some other →
      other.status.isLive = true → other.wallet = wallet → record.activeClaimId = some otherId)
    (own : claim.status.isLive = true →
      claim.wallet = wallet ∧ record.activeClaimId = some claimId) :
    Locked (stakes.set wallet record) (claims.set claimId claim) := by
  intro otherId other listed live
  rcases Store.get_set_eq_some.mp listed with ⟨rfl, rfl⟩ | ⟨distinct, listed⟩
  · obtain ⟨rfl, named⟩ := own live
    rw [activeClaim_set_self, named]
  · by_cases same : other.wallet = wallet
    · rw [same, activeClaim_set_self]
      exact others otherId other distinct listed live same
    · rw [activeClaim_set_ne same]
      exact locked otherId other listed live

/-- A record that still names the wallet's claim may be replaced together with a
claim, if the new claim is named by it or is not live. -/
theorem set_unrenamed (locked : Locked stakes claims) (stored : stakes.get wallet = some record)
    (same : record'.activeClaimId = record.activeClaimId)
    (own : claim.status.isLive = true →
      claim.wallet = wallet ∧ record'.activeClaimId = some claimId) :
    Locked (stakes.set wallet record') (claims.set claimId claim) := by
  refine locked.set_both ?_ own
  intro otherId other _ otherListed live otherOwn
  rw [same]
  exact locked.active otherListed live (otherOwn ▸ stored)

/-- A claim takes the place of the one its wallet names, if any. -/
theorem set_named (locked : Locked stakes claims) (stored : stakes.get wallet = some record)
    (free : record.activeClaimId = none ∨ record.activeClaimId = some claimId)
    (named : record'.activeClaimId = some claimId) (own : claim.wallet = wallet) :
    Locked (stakes.set wallet record') (claims.set claimId claim) := by
  refine locked.set_both ?_ fun _ => ⟨own, named⟩
  intro otherId other distinct otherListed live otherOwn
  have named := locked.active otherListed live (otherOwn ▸ stored)
  rcases free with none | mine
  · rw [none] at named
    cases named
  · rw [mine] at named
    exact absurd (Option.some.inj named).symm distinct

/-- A claim may be replaced on its own when the new one is live only if the old
one was. -/
theorem set_claim (locked : Locked stakes claims) {claim' : Claim}
    (listed : claims.get claimId = some claim) (sameWallet : claim'.wallet = claim.wallet)
    (live : claim'.status.isLive = true → claim.status.isLive = true) :
    Locked stakes (claims.set claimId claim') := by
  intro otherId other stored otherLive
  rcases Store.get_set_eq_some.mp stored with ⟨rfl, rfl⟩ | ⟨-, stored⟩
  · rw [sameWallet]
    exact locked otherId claim listed (live otherLive)
  · exact locked otherId other stored otherLive

/-- The wallet's live claim ends: any other live claim would have been the same
one, so the record may name anything. -/
theorem clear (locked : Locked stakes claims) {claim' : Claim}
    (listed : claims.get claimId = some claim) (live : claim.status.isLive = true)
    (ended : claim'.status.isLive = false) :
    Locked (stakes.set claim.wallet record) (claims.set claimId claim') := by
  refine locked.set_both ?_ ?_
  · intro otherId other distinct otherListed otherLive same
    exact absurd (locked.unique otherListed otherLive listed live same) distinct
  · intro live'
    rw [ended] at live'
    cases live'

end Locked

/-- The condition under which an entry keeps live claims locked: a deposit is
made by a wallet without a live claim. -/
def BookEvent.StakesClear (claims : Store D Claim) : BookEvent D → Prop
  | .staked wallet => NoLiveClaim claims wallet
  | _ => True

instance (claims : Store D Claim) (event : BookEvent D) :
    Decidable (event.StakesClear claims) := by
  induction event using BookEvent.casesOn with
  | staked => exact inferInstanceAs (Decidable (NoLiveClaim _ _))
  | _ => exact inferInstanceAs (Decidable True)

/-- One entry keeps live claims locked exactly when it is no deposit by a wallet
with a live claim. -/
theorem BookStep.locked_iff {idOf : Address → BytesN 32 → D} {event : BookEvent D}
    {b b' : Books D} (step : BookStep idOf event b b') (locked : Locked b.stakes b.claims) :
    Locked b'.stakes b'.claims ↔ event.StakesClear b.claims := by
  cases step with
  | @staked _ wallet =>
      constructor
      · intro after claimId claim listed own
        by_contra live
        have named := after claimId claim listed (Bool.eq_true_of_not_eq_false live)
        rw [own] at named
        simp [Books.deposit] at named
      · intro clear claimId claim listed live
        by_cases own : claim.wallet = wallet
        · rw [clear claimId claim listed own] at live
          cases live
        · exact (activeClaim_set_ne own).trans (locked claimId claim listed live)
  | exited stored => exact iff_of_true (locked.set_stake stored rfl) trivial
  | queued _ stored =>
      refine iff_of_true (locked.set_unrenamed stored rfl ?_) trivial
      rintro ⟨⟩
  | admitted _ stored eligible =>
      exact iff_of_true (locked.set_named stored (.inl eligible.inactive) rfl rfl) trivial
  | released _ _ stored own => exact iff_of_true (locked.set_named stored own rfl rfl) trivial
  | queueExpired listed reserved stored =>
      refine iff_of_true (locked.set_unrenamed stored rfl ?_) trivial
      rintro ⟨⟩
  | unlocked listed pending =>
      refine iff_of_true (locked.set_claim listed rfl ?_) trivial
      intro _
      rw [pending]
      rfl
  | approved listed awaiting stored =>
      have named := locked.active listed (by rw [awaiting]; rfl) stored
      exact iff_of_true (locked.set_unrenamed stored rfl fun _ => ⟨rfl, named⟩) trivial
  | approvalExpired listed awaiting stored =>
      exact iff_of_true (locked.clear listed (by rw [awaiting]; rfl) rfl) trivial
  | staleExpired listed active _ stored =>
      exact iff_of_true (locked.clear listed (by rw [active]; rfl) rfl) trivial
  | streamed listed active =>
      refine iff_of_true (locked.set_claim listed rfl ?_) trivial
      intro _
      rw [active]
      rfl
  | droppedPending listed pending stored =>
      refine iff_of_true (locked.clear listed ?_ rfl) trivial
      exact ClaimStatus.isLive_of_isPending pending
  | reversed listed active stored =>
      exact iff_of_true (locked.clear listed (by rw [active]; rfl) rfl) trivial
  | overridden _ stored own => exact iff_of_true (locked.set_named stored own rfl rfl) trivial
  | redeemed | deployed | kept | treasury | clock => exact iff_of_true locked trivial
  | amended stored => exact iff_of_true (locked.set_stake stored rfl) trivial
  | restarted stored listed =>
      refine iff_of_true (Locked.set_claim ?_ listed rfl id) trivial
      exact locked.set_stake stored rfl

/-! ### Runs -/

/-- One live claim per wallet, and the stake locked by it: the record names the
claim, there is no second one, and both exits are refused. -/
structure OneLiveClaim (host : Host D) (s : State D) : Prop where
  locked : Locked s.stakes s.claims
  unique : ∀ {claimId claimId' claim claim'}, s.claims.get claimId = some claim →
    claim.status.isLive = true → s.claims.get claimId' = some claim' →
    claim'.status.isLive = true → claim.wallet = claim'.wallet → claimId = claimId'
  noWithdrawal : ∀ {claimId claim env beneficiary s'}, s.claims.get claimId = some claim →
    claim.status.isLive = true → withdraw host env s claim.wallet beneficiary ≠ .ok s'
  noExit : ∀ {claimId claim env s'}, s.claims.get claimId = some claim →
    claim.status.isLive = true → emergencyExit host env s claim.wallet ≠ .ok s'

/-- An exit needs a record that names no claim. -/
private theorem exit_inactive {idOf : Address → BytesN 32 → D} {b b' : Books D}
    (step : BookStep idOf (.exited wallet) b b') :
    ∃ record, b.stakes.get wallet = some record ∧ record.activeClaimId = none := by
  cases step with
  | exited stored _ _ inactive => exact ⟨_, stored, inactive⟩

theorem OneLiveClaim.of_locked {host : Host D} {s : State D} (locked : Locked s.stakes s.claims) :
    OneLiveClaim host s where
  locked := locked
  unique := locked.unique
  noWithdrawal := by
    intro claimId claim env beneficiary s' listed live withdrawn
    obtain ⟨record, stored, inactive⟩ := exit_inactive (withdraw_refines withdrawn)
    rw [locked.noLiveClaim stored inactive claimId claim listed rfl] at live
    cases live
  noExit := by
    intro claimId claim env s' listed live exited
    obtain ⟨record, stored, inactive⟩ := exit_inactive (emergencyExit_refines exited)
    rw [locked.noLiveClaim stored inactive claimId claim listed rfl] at live
    cases live

/-- The steps that keep the wallet's live claim the one its record names: a
deposit is made only by a wallet none of whose claims is live. -/
def stakesWithoutLiveClaim (host : Host D) : System.Guard (State D) (Action D) (Output D) :=
  fun _ s action => (bookEvent host s action).StakesClear s.claims

instance (host : Host D) (log : List (Entry (State D) (Action D) (Output D))) (s : State D)
    (action : Action D) : Decidable (stakesWithoutLiveClaim host log s action) :=
  inferInstanceAs (Decidable (BookEvent.StakesClear _ _))

/-- In every run in which no wallet with a live claim makes a new deposit, each
live claim is the one its wallet's record names, it is the wallet's only one,
and its wallet can neither withdraw nor exit.  A further step keeps this exactly
when it is no such deposit. -/
theorem one_live_claim_per_wallet (host : Host D)
    {log : List (Entry (State D) (Action D) (Output D))} {s : State D}
    (run : (poolSystem host).Run (stakesWithoutLiveClaim host) log s) :
    OneLiveClaim host s ∧
      ∀ {action output s'}, (poolSystem host).step s action = .ok (output, s') →
        (OneLiveClaim host s' ↔ stakesWithoutLiveClaim host log s action) := by
  have locked : Locked s.stakes s.claims := by
    refine run.invariant (P := fun _ s => Locked s.stakes s.claims) ?_ ?_
    · intro s deployed
      obtain ⟨-, noClaims, -⟩ := deployed_books deployed
      intro claimId claim listed
      rw [noClaims, Store.get_empty] at listed
      cases listed
    · intro log s action output s' _ locked clear stepped
      exact ((step_refines stepped).locked_iff locked).mpr clear
  refine ⟨.of_locked locked, fun stepped => ⟨fun kept => ?_, fun clear => .of_locked ?_⟩⟩
  · exact ((step_refines stepped).locked_iff locked).mp kept.locked
  · exact ((step_refines stepped).locked_iff locked).mpr clear

/-- A wallet with a claim in effect exists in such runs. -/
theorem one_live_claim_per_wallet_sample :
    ∃ log s, (poolSystem sampleHost).Run (stakesWithoutLiveClaim sampleHost) log s ∧
      ¬ NoLiveClaim s.claims (party 11) ∧ OneLiveClaim sampleHost s := by
  obtain ⟨log, s, run, ends⟩ := System.exists_run_of_replay (poolSystem sampleHost)
    (stakesWithoutLiveClaim sampleHost) samplePool_deployed (sampleOpening 10000)
    (fun _ s => ¬ NoLiveClaim s.claims (party 11)) (by decide +kernel)
  exact ⟨log, s, run, ends, (one_live_claim_per_wallet sampleHost run).1⟩

/-- After the opening the first wallet stakes again: the new record names no
claim while the old claim is still live. -/
theorem restake_drops_live_claim :
    ∃ log s, (poolSystem sampleHost).Run System.anyStep log s ∧ ¬ OneLiveClaim sampleHost s := by
  obtain ⟨log, s, run, ends⟩ := System.exists_run_of_replay (poolSystem sampleHost)
    System.anyStep samplePool_deployed
    (sampleOpening 10000 ++ [callBy 11 (.stake (party 11) 2000 (party 21))])
    (fun _ s => ¬ Locked s.stakes s.claims) (by decide +kernel)
  exact ⟨log, s, run, fun kept => ends kept.locked⟩

end ProtectionPool
