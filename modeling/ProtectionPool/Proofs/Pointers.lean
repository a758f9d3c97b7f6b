/-
Module: ProtectionPool.Proofs.Pointers
Purpose: The claim a stake record names as active.  Admissions and overrides write the
  name of a live claim of the wallet, and each way a claim ends takes it out again,
  apart from the last payout: a claim that is completed stays named, and its wallet
  stays blocked.
Trusted boundary: none
Main exports: Pointed, PointersLive, LeavesUnpaid, keepsPointers, pointers_live
-/
import ProtectionPool.Proofs.LiveClaims
import ProtectionPool.Proofs.Vesting

namespace ProtectionPool

open Checked LinearRelease

variable {D : Type} [DecidableEq D]

/-- The claim a record names as active is a live one of its wallet. -/
def Pointed (stakes : Store Address (StakeRecord D)) (claims : Store D Claim) : Prop :=
  ∀ wallet claimId, activeClaim stakes wallet = some claimId →
    ∃ claim ∈ claims.get claimId, claim.wallet = wallet ∧ claim.status.isLive = true

instance (stakes : Store Address (StakeRecord D)) (claims : Store D Claim) :
    Decidable (Pointed stakes claims) :=
  decidable_of_iff
    (Store.All (fun wallet record => ∀ claimId ∈ record.activeClaimId,
      ∃ claim ∈ claims.get claimId, claim.wallet = wallet ∧ claim.status.isLive = true) stakes)
    (by simp only [Pointed, Store.All, activeClaim, Option.bind_eq_some_iff, Option.mem_def,
      forall_exists_index, and_imp, forall_comm (α := D)])

/-- No record of the pool names a finished claim. -/
def PointersLive (s : State D) : Prop := Pointed s.stakes s.claims

instance (s : State D) : Decidable (PointersLive s) := inferInstanceAs (Decidable (Pointed _ _))

/-- The condition under which a collection leaves something of a claim unpaid: its
vesting is not over, or what is left of the daily cap does not cover the rest. -/
def LeavesUnpaid (s : State D) (claim : Claim) : Prop :=
  s.sequence < claim.vestingEndsLedger ∨
    ∃ bps, dynamicOutflowBps s (capBase s claim) = .ok bps ∧
      (capBase s claim * bps).tdiv bpsDenominator - getDailyOutflow s (currentDay s) <
        claim.entitlement - claim.streamed

instance (s : State D) (claim : Claim) : Decidable (LeavesUnpaid s claim) :=
  inferInstanceAs (Decidable (_ ∨ _))

/-- An override takes no claim that another wallet's record names. -/
def BookEvent.TakesOwn (stakes : Store Address (StakeRecord D)) : BookEvent D → Prop
  | .overridden wallet claimId _ =>
      Store.All (fun other record => record.activeClaimId = some claimId → other = wallet) stakes
  | _ => True

/-- A payout leaves its claim unfinished, or the record of its wallet does not name
it. -/
def BookEvent.LeavesUnfinished (b : Books D) : BookEvent D → Prop
  | .streamed wallet claimId amount _ => ∀ claim ∈ b.claims.get claimId,
      claim.streamed + amount < claim.entitlement ∨ activeClaim b.stakes wallet ≠ some claimId
  | _ => True

instance (stakes : Store Address (StakeRecord D)) (event : BookEvent D) :
    Decidable (event.TakesOwn stakes) := by
  induction event using BookEvent.casesOn with
  | overridden => exact inferInstanceAs (Decidable (Store.All _ stakes))
  | _ => exact inferInstanceAs (Decidable True)

/-- The steps that keep the names right: a collection under a claim its wallet's
record names leaves something unpaid, and an executed override takes no claim another
wallet names. -/
def keepsPointers (host : Host D) : System.Guard (State D) (Action D) (Output D) :=
  fun _ s action =>
    (∀ claimId ∈ action.collected, ∀ claim ∈ s.claims.get claimId,
      LeavesUnpaid s claim ∨ activeClaim s.stakes claim.wallet ≠ some claimId) ∧
    (bookEvent host s action).TakesOwn s.stakes

instance (host : Host D) (log : Log D) (s : State D) (action : Action D) :
    Decidable (keepsPointers host log s action) :=
  inferInstanceAs (Decidable ((∀ claimId ∈ action.collected, ∀ claim ∈ s.claims.get claimId,
    _ ∨ _) ∧ _))

variable {stakes : Store Address (StakeRecord D)} {claims : Store D Claim} {wallet : Address}
  {record : StakeRecord D} {claimId : D} {claim claim' : Claim}

/-! ### Names under an update -/

namespace Pointed

/-- A name is that of a live claim of the wallet. -/
theorem live (pointed : Pointed stakes claims) (listed : claims.get claimId = some claim)
    (named : activeClaim stakes wallet = some claimId) :
    claim.wallet = wallet ∧ claim.status.isLive = true := by
  obtain ⟨found, foundListed, own⟩ := pointed wallet claimId named
  obtain rfl := Option.mem_unique listed foundListed
  exact own

/-- A record may be replaced by one that names the same claim or none. -/
theorem set_stake (pointed : Pointed stakes claims)
    (same : record.activeClaimId = activeClaim stakes wallet ∨ record.activeClaimId = none) :
    Pointed (stakes.set wallet record) claims := by
  intro other claimId named
  by_cases own : other = wallet
  · subst own
    rw [activeClaim_set_self] at named
    rcases same with same | none
    · exact pointed other claimId (by rw [← same, named])
    · rw [none] at named
      cases named
  · rw [activeClaim_set_ne own] at named
    exact pointed other claimId named

/-- A claim may be replaced by a live one of the same wallet, if it was live. -/
theorem set_claim (pointed : Pointed stakes claims)
    (keeps : ∀ claim, claims.get claimId = some claim → claim.status.isLive = true →
      (∃ wallet, activeClaim stakes wallet = some claimId) →
        claim'.wallet = claim.wallet ∧ claim'.status.isLive = true) :
    Pointed stakes (claims.set claimId claim') := by
  intro wallet otherId named
  obtain ⟨claim, listed, own, live⟩ := pointed wallet otherId named
  by_cases same : otherId = claimId
  · subst same
    obtain ⟨sameWallet, live'⟩ := keeps claim listed live ⟨wallet, named⟩
    exact ⟨claim', Store.get_set_self _ _ _, sameWallet.trans own, live'⟩
  · exact ⟨claim, by rw [Store.get_set_ne _ _ same]; exact listed, own, live⟩

/-- A deposit may change in all but the claim it names. -/
theorem set_stored {record' : StakeRecord D} (pointed : Pointed stakes claims)
    (stored : stakes.get wallet = some record)
    (same : record'.activeClaimId = record.activeClaimId) :
    Pointed (stakes.set wallet record') claims :=
  pointed.set_stake (.inl (same.trans (activeClaim_of_get stored).symm))

/-- A listed claim may change as long as it keeps its wallet and stays live. -/
theorem set_listed (pointed : Pointed stakes claims) (listed : claims.get claimId = some claim)
    (keeps : claim.status.isLive = true →
      claim'.wallet = claim.wallet ∧ claim'.status.isLive = true) :
    Pointed stakes (claims.set claimId claim') := by
  refine pointed.set_claim ?_
  intro found foundListed live _
  obtain rfl := Option.mem_unique listed foundListed
  exact keeps live

/-- A claim that was not listed may be filed. -/
theorem set_absent (pointed : Pointed stakes claims) (absent : claims.get claimId = none) :
    Pointed stakes (claims.set claimId claim') := by
  refine pointed.set_claim ?_
  intro claim listed
  rw [absent] at listed
  cases listed

/-- A record and a claim may be replaced together, when no other record names the
claim and the new record names it as a live claim of its wallet or names none. -/
theorem set_both (pointed : Pointed stakes claims)
    (unnamed : ∀ other, other ≠ wallet → activeClaim stakes other ≠ some claimId)
    (own : record.activeClaimId = none ∨ record.activeClaimId = some claimId ∧
      claim'.wallet = wallet ∧ claim'.status.isLive = true) :
    Pointed (stakes.set wallet record) (claims.set claimId claim') := by
  intro other otherId named
  by_cases same : other = wallet
  · subst same
    rw [activeClaim_set_self] at named
    rcases own with none | ⟨names, live⟩
    · rw [none] at named
      cases named
    · obtain rfl := Option.mem_unique names named
      exact ⟨claim', Store.get_set_self _ _ _, live⟩
  · rw [activeClaim_set_ne same] at named
    have distinct : otherId ≠ claimId := by
      rintro rfl
      exact unnamed other same named
    rw [Store.get_set_ne _ _ distinct]
    exact pointed other otherId named

/-- No other wallet names a claim. -/
theorem unnamed (pointed : Pointed stakes claims) (listed : claims.get claimId = some claim) :
    ∀ other, other ≠ claim.wallet → activeClaim stakes other ≠ some claimId := by
  intro other distinct named
  exact distinct (pointed.live listed named).1.symm

/-- A claim that is not live, or not listed, is not named at all. -/
theorem unnamed_of_idle (pointed : Pointed stakes claims)
    (idle : ∀ claim, claims.get claimId = some claim → claim.status.isLive = false) :
    ∀ other, activeClaim stakes other ≠ some claimId := by
  intro other named
  obtain ⟨claim, listed, -, live⟩ := pointed other claimId named
  rw [idle claim listed] at live
  cases live

end Pointed

/-! ### Entries -/

variable {idOf : Address → BytesN 32 → D} {event : BookEvent D} {b b' : Books D}
  {host : Host D} {s s' : State D} {action : Action D} {output : Output D} {log : Log D}

/-- A payout keeps the names right exactly when its claim stays unfinished or is not
named. -/
theorem Pointed.paid_iff {amount : Int} {now : Nat} (pointed : Pointed stakes claims)
    (listed : claims.get claimId = some claim) (active : claim.status = .active) :
    Pointed stakes (claims.set claimId (claim.paid amount now)) ↔
      claim.streamed + amount < claim.entitlement ∨
        activeClaim stakes claim.wallet ≠ some claimId := by
  constructor
  · intro pointed'
    by_contra finished
    obtain ⟨full, named⟩ := not_or.mp finished
    have live := (pointed'.live (Store.get_set_self _ _ _) (not_not.mp named)).2
    have completed : (claim.paid amount now).status = .completed := if_pos (not_lt.mp full)
    rw [completed] at live
    cases live
  · intro unfinished
    refine pointed.set_claim ?_
    rintro found foundListed live ⟨wallet, named⟩
    obtain rfl := Option.mem_unique listed foundListed
    have own := (pointed.live listed named).1
    rcases unfinished with rest | unnamed
    · have stays : (claim.paid amount now).status = .active :=
        (if_neg (not_le.mpr rest)).trans active
      exact ⟨rfl, by rw [stays]; rfl⟩
    · exact absurd (own ▸ named) unnamed

/-- A claim that is overridden is named by the wallet of the request alone. -/
theorem Pointed.overridden_iff (pointed : Pointed stakes claims)
    (names : record.activeClaimId = some claimId)
    (own : claim'.wallet = wallet ∧ claim'.status.isLive = true) :
    Pointed (stakes.set wallet record) (claims.set claimId claim') ↔
      Store.All (fun other record => record.activeClaimId = some claimId → other = wallet)
        stakes := by
  constructor
  · intro pointed' other otherRecord stored named
    by_contra distinct
    have stillNamed : activeClaim (stakes.set wallet record) other = some claimId := by
      rw [activeClaim_set_ne distinct, activeClaim_of_get stored, named]
    have ownOther := (pointed'.live (Store.get_set_self _ _ _) stillNamed).1
    exact distinct (ownOther.symm.trans own.1)
  · intro alone
    refine pointed.set_both ?_ (.inr ⟨names, own⟩)
    intro other distinct named
    obtain ⟨otherRecord, stored, named⟩ := Option.bind_eq_some_iff.mp named
    exact distinct (alone other otherRecord stored named)

/-- One entry keeps the names right exactly when a payout it makes leaves its claim
unfinished or unnamed, and an override it executes takes no claim another wallet
names. -/
theorem BookStep.pointed_iff (step : BookStep idOf event b b') (kept : b.WellKept)
    (pointed : Pointed b.stakes b.claims) :
    Pointed b'.stakes b'.claims ↔ event.LeavesUnfinished b ∧ event.TakesOwn b.stakes := by
  cases step with
  | streamed listed active =>
      rw [pointed.paid_iff listed active]
      simp only [BookEvent.LeavesUnfinished, BookEvent.TakesOwn, Store.forall_mem_get listed,
        and_true]
  | overridden =>
      simp only [BookEvent.LeavesUnfinished, BookEvent.TakesOwn, true_and]
      exact pointed.overridden_iff rfl ⟨rfl, rfl⟩
  -- Every other entry keeps the names right, with no condition on it.
  | staked => exact iff_of_true (pointed.set_stake (.inr rfl)) ⟨trivial, trivial⟩
  | exited stored => exact iff_of_true (pointed.set_stored stored rfl) ⟨trivial, trivial⟩
  | queued _ stored _ unused =>
      refine iff_of_true (Pointed.set_stored ?_ stored rfl) ⟨trivial, trivial⟩
      exact pointed.set_absent (kept.absent unused)
  | admitted _ _ _ unused _ _ admission =>
      have absent := kept.absent unused
      have unnamed := pointed.unnamed_of_idle (fun claim listed => by
        rw [absent] at listed
        cases listed)
      have live := ClaimStatus.isLive_of_isPending admission.pending
      exact iff_of_true (pointed.set_both (fun other _ => unnamed other)
        (.inr ⟨rfl, rfl, live⟩)) ⟨trivial, trivial⟩
  | released listed _ _ _ _ _ admission =>
      have live := ClaimStatus.isLive_of_isPending admission.pending
      exact iff_of_true (pointed.set_both (pointed.unnamed listed)
        (.inr ⟨rfl, rfl, live⟩)) ⟨trivial, trivial⟩
  | queueExpired listed reserved stored =>
      refine iff_of_true (Pointed.set_stored ?_ stored rfl) ⟨trivial, trivial⟩
      refine pointed.set_listed listed ?_
      intro live
      rw [reserved] at live
      cases live
  | unlocked listed =>
      exact iff_of_true (pointed.set_listed listed fun _ => ⟨rfl, rfl⟩) ⟨trivial, trivial⟩
  | approved listed _ stored =>
      refine iff_of_true (Pointed.set_stored ?_ stored rfl) ⟨trivial, trivial⟩
      exact pointed.set_listed listed fun _ => ⟨rfl, rfl⟩
  | approvalExpired listed | staleExpired listed | droppedPending listed | reversed listed =>
      exact iff_of_true (pointed.set_both (pointed.unnamed listed) (.inl rfl)) ⟨trivial, trivial⟩
  | amended stored => exact iff_of_true (pointed.set_stored stored rfl) ⟨trivial, trivial⟩
  | restarted stored listed =>
      refine iff_of_true (Pointed.set_stored ?_ stored rfl) ⟨trivial, trivial⟩
      exact pointed.set_listed listed fun live => ⟨rfl, live⟩
  | redeemed | deployed | kept | treasury | clock => exact iff_of_true pointed ⟨trivial, trivial⟩

/-! ### Calls -/

/-- A payout leaves something unpaid exactly when its condition says so. -/
theorem leavesUnpaid_iff {amount : Int} (kept : (s.books host).WellKept)
    (listed : s.claims.get claimId = some claim) (active : claim.status = .active)
    (unpaid : claim.streamed < claim.entitlement)
    (computed : transferAmount s claim = .ok amount) :
    claim.streamed + amount < claim.entitlement ↔ LeavesUnpaid s claim := by
  have claimKept := kept.claims claimId claim listed
  have schedule := claimKept.schedule active
  obtain ⟨vested, cap, vestedNow, capped, paid⟩ := transferAmount_eq computed
  obtain ⟨bps, rate, rfl⟩ := outflowCap_ok capped
  have exact := vestedTotal_eq claimKept.positive.le schedule vestedNow
  have vesting : vested < claim.entitlement ↔ s.sequence < claim.vestingEndsLedger := by
    rw [exact, vestedBy, released_lt_iff claimKept.positive (by decide), schedule]
  have fits : claim.entitlement - claim.streamed ≤ i128Max := by
    have covered : claim.outstanding ≤ s.totalAllocated := kept.outstanding_le listed
    have allocatedFits : s.totalAllocated ≤ i128Max := kept.allocatedFits
    rw [Claim.outstanding_of_live (by rw [active]; rfl)] at covered
    omega
  have capping : saturatingSub ((capBase s claim * bps).tdiv bpsDenominator)
        (getDailyOutflow s (currentDay s)) < claim.entitlement - claim.streamed ↔
      (capBase s claim * bps).tdiv bpsDenominator - getDailyOutflow s (currentDay s) <
        claim.entitlement - claim.streamed := by
    rw [← not_le, ← not_le, saturatingSub,
      le_saturateI128_iff (lt_trans (by decide) (sub_pos.mpr unpaid)) fits]
  have rateIff : LeavesUnpaid s claim ↔ s.sequence < claim.vestingEndsLedger ∨
      (capBase s claim * bps).tdiv bpsDenominator - getDailyOutflow s (currentDay s) <
        claim.entitlement - claim.streamed := by
    simp only [LeavesUnpaid, rate, Except.ok.injEq, exists_eq_left']
  rw [rateIff, ← vesting, ← capping, paid]
  omega

/-- Only a collection makes the entry of a payout. -/
theorem leavesUnfinished_of_other (other : action.collected = none) :
    (bookEvent host s action).LeavesUnfinished (s.books host) := by
  obtain entry | ⟨env, call, rfl, entered⟩ := bookEvent_enteredBy host s action
  · rw [entry]
    trivial
  · cases event : bookEvent host s (.invoke env call) with
    | streamed =>
        rw [event] at entered
        cases call with
        | claimStream => cases other
        | _ => cases entered
    | _ => trivial

/-- A step makes an entry that keeps the names right exactly when it meets the
condition on it. -/
theorem keepsPointers_iff (kept : (s.books host).WellKept)
    (stepped : poolStep host s action = .ok (output, s')) :
    ((bookEvent host s action).LeavesUnfinished (s.books host) ∧
        (bookEvent host s action).TakesOwn s.stakes) ↔ keepsPointers host log s action := by
  refine and_congr_left fun _ => ?_
  cases collects : action.collected with
  | none =>
      refine iff_of_true (leavesUnfinished_of_other collects) ?_
      rintro _ ⟨⟩
  | some claimId =>
      obtain ⟨env, beneficiary, paid, rfl, rfl, streamed⟩ :=
        claimStream_of_collected stepped collects
      obtain ⟨claim, record, streamed⟩ := claimStream_eq_ok.mp streamed
      have event : bookEvent host s (.invoke env (.claimStream claimId beneficiary)) =
          .streamed claim.wallet claimId paid (beneficiary ≠ host.contract) := by
        simp only [bookEvent, streamEvent, streamed.listed, streamed.computed]
      have unfinished := leavesUnpaid_iff kept streamed.listed streamed.active streamed.unpaid
        streamed.computed
      simp only [event, BookEvent.LeavesUnfinished, State.books, Option.mem_def,
        Option.some.injEq, forall_eq', streamed.listed, unfinished]

/-! ### Runs -/

/-- In every run whose steps keep the names right the claim a stake record names is a
live one of its wallet, so a wallet whose claims have all finished is not blocked.  A
further step keeps this exactly when it keeps the names right. -/
theorem pointers_live (host : Host D) {log : Log D} {s : State D}
    (run : (poolSystem host).Run (keepsPointers host) log s) :
    (PointersLive s ∧ ∀ wallet record, s.stakes.get wallet = some record →
        NoLiveClaim s.claims wallet → record.activeClaimId = none) ∧
      ∀ {action output s'}, (poolSystem host).step s action = .ok (output, s') →
        (PointersLive s' ↔ keepsPointers host log s action) := by
  obtain ⟨live, exactly⟩ := run.invariant_exactly (I := PointersLive)
    (by
      intro s deployed wallet claimId named
      have noStakes : s.stakes = Store.empty := (deployed_register deployed).noStakes
      rw [activeClaim, noStakes, Store.get_empty] at named
      cases named)
    (fun log s action output s' run live stepped =>
      ((step_refines stepped).pointed_iff (wellKept_of_run run) live).trans
        (keepsPointers_iff (wellKept_of_run run) stepped))
  refine ⟨⟨live, ?_⟩, exactly⟩
  intro wallet record stored finished
  cases named : record.activeClaimId with
  | none => rfl
  | some claimId =>
      obtain ⟨claim, listed, own, isLive⟩ :=
        live wallet claimId ((activeClaim_of_get stored).trans named)
      rw [finished claimId claim listed own] at isLive
      cases isLive

/-- In such a run a claim paid in part is cancelled and another one of its wallet
put into effect. -/
theorem pointers_live_sample :
    ∃ log s, (poolSystem sampleHost).Run (keepsPointers sampleHost) log s ∧
      s.totalAllocated = 500 ∧ PointersLive s := by
  obtain ⟨log, s, run, ends⟩ := System.exists_run_of_replay (poolSystem sampleHost)
    (keepsPointers sampleHost) samplePool_deployed
    (sampleOpening 1000 ++ [afterDays 30,
      callBy 11 (.claimStream (computeClaimId sampleHost (party 11) 0) (party 21)),
      callBy 1 (.cancelClaim (computeClaimId sampleHost (party 11) 0))] ++
      overrideBoth 11 1 500 1)
    (fun _ s => s.totalAllocated = 500) (by decide +kernel)
  exact ⟨log, s, run, ends, (pointers_live sampleHost run).1.1⟩

/-- The claim of the opening is paid in full: its wallet's record still names it. -/
theorem completed_claim_stays_named :
    ∃ log s, (poolSystem sampleHost).Run System.anyStep log s ∧ ¬ PointersLive s ∧
      ∃ record ∈ s.stakes.get (party 11), ∃ claimId ∈ record.activeClaimId,
        ∃ claim ∈ s.claims.get claimId, claim.status = .completed := by
  obtain ⟨log, s, run, ends⟩ := System.exists_run_of_replay (poolSystem sampleHost)
    System.anyStep samplePool_deployed
    (sampleOpening 1000 ++ [afterDays 60,
      callBy 11 (.claimStream (computeClaimId sampleHost (party 11) 0) (party 21))])
    (fun _ s => ¬ PointersLive s ∧
      ∃ record ∈ s.stakes.get (party 11), ∃ claimId ∈ record.activeClaimId,
        ∃ claim ∈ s.claims.get claimId, claim.status = .completed) (by decide +kernel)
  exact ⟨log, s, run, ends⟩

end ProtectionPool
