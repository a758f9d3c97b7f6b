/-
Module: ProtectionPool.Proofs.Activation
Purpose: What an approval forfeits.  A claim that waits for approval is pledged
  the deposit it was admitted against, as long as queued claims are released
  only against such deposits and no expiry or reversal of an older claim takes
  the pledge away.
Trusted boundary: none
Main exports: admittedAmount, ForfeitsAdmittedStake, Pledges, KeepsPledges,
  approvals_forfeit_admitted_stake
-/
import ProtectionPool.Proofs.History

namespace ProtectionPool

open Checked

variable {D : Type} [DecidableEq D]

/-! ### What an approval should find -/

/-- The amount of the deposit an entry admits a claim against. -/
def BookEvent.admission (b : Books D) (claimId : D) : BookEvent D → Option Int
  | .submitted wallet id | .released wallet id =>
      if id = claimId then (b.stakes.get wallet).map StakeRecord.amount else none
  | _ => none

/-- The amount of the deposit a claim was last admitted against. -/
def admittedAmount : Journal D → D → Option Int
  | [], _ => none
  | (b, event) :: past, claimId => (event.admission b claimId).or (admittedAmount past claimId)

/-- The record an approval forfeits is the deposit its claim was admitted
against: in the pool, of the same amount, large enough for the claim and past its
time gate. -/
def ForfeitsAdmittedStake (past : Journal D) (b : Books D) (wallet : Address) (claimId : D) :
    Prop :=
  ∃ claim record, b.claims.get claimId = some claim ∧ b.stakes.get wallet = some record ∧
    0 < record.amount ∧ record.withdrawn = false ∧
    admittedAmount past claimId = some record.amount ∧
    (∃ cap, tierCap record.amount claim.tier = .ok cap ∧ claim.entitlement ≤ cap) ∧
    record.stakedAtLedger + timeGateLedgers ≤ b.sequence

/-- Every approval so far forfeited the deposit its claim was admitted against. -/
def ApprovalsForfeit : Journal D → Prop
  | [] => True
  | (b, event) :: past =>
      (∀ wallet claimId, event = .approved wallet claimId →
        ForfeitsAdmittedStake past b wallet claimId) ∧ ApprovalsForfeit past

/-! ### Pledges -/

/-- A record as it is pledged to a pending claim. -/
structure Pledge (past : Journal D) (now : Nat) (claimId : D) (claim : Claim)
    (record : StakeRecord D) : Prop where
  named : record.activeClaimId = some claimId
  funded : 0 < record.amount
  standing : record.withdrawn = false
  admitted : admittedAmount past claimId = some record.amount
  covered : ∃ cap, tierCap record.amount claim.tier = .ok cap ∧ claim.entitlement ≤ cap
  gate : claim.status = .awaitingApproval → record.stakedAtLedger + timeGateLedgers ≤ now

/-- Every pending claim is pledged the record of its wallet. -/
def Pledges (past : Journal D) (stakes : Store Address (StakeRecord D)) (claims : Store D Claim)
    (now : Nat) : Prop :=
  Store.All (fun claimId claim => claim.status.isPending = true →
    ∃ record, stakes.get claim.wallet = some record ∧ Pledge past now claimId claim record) claims

/-- No stored claim of a wallet waits for its time gate or its approval. -/
def NoPendingClaim (claims : Store D Claim) (wallet : Address) : Prop :=
  Store.All (fun _ claim => claim.wallet = wallet → claim.status.isPending = false) claims

instance (claims : Store D Claim) (wallet : Address) : Decidable (NoPendingClaim claims wallet) :=
  inferInstanceAs (Decidable (Store.All _ _))

/-- The condition under which an entry keeps the pledges: a release finds a
deposit in the pool that covers the claim, and the expiry or the reversal of a
claim in effect finds no pending claim of its wallet, the reversal a deposit to
restore besides. -/
def BookEvent.KeepsPledges (b : Books D) : BookEvent D → Prop
  | .released wallet claimId =>
      ∀ claim ∈ b.claims.get claimId, ∀ record ∈ b.stakes.get wallet,
        0 < record.amount ∧ record.withdrawn = false ∧
          ∃ cap, tierCap record.amount claim.tier = .ok cap ∧ claim.entitlement ≤ cap
  | .staleExpired wallet _ => NoPendingClaim b.claims wallet
  | .cancelled wallet claimId =>
      ∀ claim ∈ b.claims.get claimId, claim.status = .active →
        NoPendingClaim b.claims wallet ∧ ∀ record ∈ b.stakes.get wallet, 0 < record.amount
  | _ => True

instance (b : Books D) (event : BookEvent D) : Decidable (event.KeepsPledges b) := by
  induction event using BookEvent.casesOn with
  | released => exact inferInstanceAs (Decidable (∀ claim ∈ b.claims.get _, _))
  | staleExpired => exact inferInstanceAs (Decidable (NoPendingClaim _ _))
  | cancelled => exact inferInstanceAs (Decidable (∀ claim ∈ b.claims.get _, _))
  | _ => exact inferInstanceAs (Decidable True)

variable {idOf : Address → BytesN 32 → D} {event : BookEvent D} {b b' : Books D}
  {past past' : Journal D} {stakes : Store Address (StakeRecord D)} {claims : Store D Claim}
  {now now' : Nat} {wallet : Address} {record record' : StakeRecord D} {claimId : D}
  {claim claim' : Claim}

namespace Pledges

/-- A pending claim is pledged its wallet's record. -/
theorem pledge (pledges : Pledges past stakes claims now)
    (listed : claims.get claimId = some claim) (pending : claim.status.isPending = true)
    (stored : stakes.get claim.wallet = some record) : Pledge past now claimId claim record := by
  obtain ⟨other, found, pledge⟩ := pledges claimId claim listed pending
  obtain rfl := Option.mem_unique stored found
  exact pledge

/-- A record that names at most one claim is pledged to no other. -/
theorem sole (pledges : Pledges past stakes claims now)
    (stored : stakes.get wallet = some record)
    (own : record.activeClaimId = none ∨ record.activeClaimId = some claimId) :
    ∀ otherId other, claims.get otherId = some other → other.status.isPending = true →
      other.wallet = wallet → otherId = claimId := by
  rintro otherId other listed pending rfl
  have named := (pledges.pledge listed pending stored).named
  rcases own with none | own
  · rw [none] at named
    cases named
  · rw [own] at named
    exact (Option.some.inj named).symm

/-- A record that names no claim is pledged to none. -/
theorem none_of_inactive (pledges : Pledges past stakes claims now)
    (stored : stakes.get wallet = some record) (inactive : record.activeClaimId = none) :
    NoPendingClaim claims wallet := by
  intro claimId claim listed own
  by_contra pending
  subst own
  have named := (pledges.pledge listed (Bool.eq_true_of_not_eq_false pending) stored).named
  rw [inactive] at named
  cases named

/-- A claim and the record of its wallet may be replaced together when no other
pending claim is pledged the record. -/
theorem set_both (pledges : Pledges past stakes claims now)
    (sole : ∀ otherId other, claims.get otherId = some other → other.status.isPending = true →
      other.wallet = wallet → otherId = claimId)
    (own : claim.status.isPending = true →
      claim.wallet = wallet ∧ Pledge past now claimId claim record) :
    Pledges past (stakes.set wallet record) (claims.set claimId claim) now := by
  intro otherId other listed pending
  rcases Store.get_set_eq_some.mp listed with ⟨rfl, rfl⟩ | ⟨distinct, listed⟩
  · obtain ⟨rfl, pledge⟩ := own pending
    exact ⟨record, Store.get_set_self _ _ _, pledge⟩
  · have foreign : other.wallet ≠ wallet := fun same =>
      distinct (sole otherId other listed pending same)
    rw [Store.get_set_ne _ _ foreign]
    exact pledges otherId other listed pending

/-- A record may be replaced when no pending claim is pledged it. -/
theorem set_stake (pledges : Pledges past stakes claims now)
    (none : NoPendingClaim claims wallet) :
    Pledges past (stakes.set wallet record) claims now := by
  intro otherId other listed pending
  have foreign : other.wallet ≠ wallet := by
    intro same
    rw [none otherId other listed same] at pending
    cases pending
  rw [Store.get_set_ne _ _ foreign]
  exact pledges otherId other listed pending

/-- A record may be amended in what a pledge does not mention. -/
theorem amend_stake (pledges : Pledges past stakes claims now)
    (stored : stakes.get wallet = some record)
    (same : record'.activeClaimId = record.activeClaimId ∧ record'.amount = record.amount ∧
      record'.withdrawn = record.withdrawn ∧ record'.stakedAtLedger = record.stakedAtLedger) :
    Pledges past (stakes.set wallet record') claims now := by
  intro otherId other listed pending
  by_cases own : other.wallet = wallet
  · subst own
    have pledge := pledges.pledge listed pending stored
    obtain ⟨named, amount, standing, staked⟩ := same
    refine ⟨record', Store.get_set_self _ _ _, ?_⟩
    constructor
    · rw [named, pledge.named]
    · rw [amount]
      exact pledge.funded
    · rw [standing, pledge.standing]
    · rw [amount, pledge.admitted]
    · rw [amount]
      exact pledge.covered
    · rw [staked]
      exact pledge.gate
  · rw [Store.get_set_ne _ _ own]
    exact pledges otherId other listed pending

/-- A claim may be replaced by one that is not pending or pledged the record too. -/
theorem set_claim (pledges : Pledges past stakes claims now)
    (own : claim.status.isPending = true →
      ∃ record, stakes.get claim.wallet = some record ∧ Pledge past now claimId claim record) :
    Pledges past stakes (claims.set claimId claim) now :=
  Store.All.set pledges own

/-- A claim may be amended in what a pledge does not mention. -/
theorem amend_claim (pledges : Pledges past stakes claims now)
    (listed : claims.get claimId = some claim)
    (same : claim'.wallet = claim.wallet ∧ claim'.status = claim.status ∧
      claim'.tier = claim.tier ∧ claim'.entitlement = claim.entitlement) :
    Pledges past stakes (claims.set claimId claim') now := by
  obtain ⟨wallet, status, tier, entitlement⟩ := same
  apply pledges.set_claim
  rw [wallet, status]
  intro pending
  obtain ⟨record, stored, pledge⟩ := pledges claimId claim listed pending
  refine ⟨record, stored, pledge.named, pledge.funded, pledge.standing, pledge.admitted, ?_, ?_⟩
  · rw [tier, entitlement]
    exact pledge.covered
  · rw [status]
    exact pledge.gate

/-- Pledges outlast entries that admit none of the pending claims. -/
theorem later (pledges : Pledges past stakes claims now)
    (kept : ∀ claimId claim, claims.get claimId = some claim → claim.status.isPending = true →
      admittedAmount past' claimId = admittedAmount past claimId)
    (advances : now ≤ now') : Pledges past' stakes claims now' := by
  intro claimId claim listed pending
  obtain ⟨record, stored, pledge⟩ := pledges claimId claim listed pending
  refine ⟨record, stored, pledge.named, pledge.funded, pledge.standing, ?_, pledge.covered, ?_⟩
  · rw [kept claimId claim listed pending]
    exact pledge.admitted
  · exact fun awaiting => (pledge.gate awaiting).trans advances

/-- A pending claim that ends takes its pledge with it. -/
theorem ends (pledges : Pledges past stakes claims now) (listed : claims.get claimId = some claim)
    (pending : claim.status.isPending = true) (stored : stakes.get claim.wallet = some record)
    (ended : claim'.status.isPending = false) :
    Pledges past (stakes.set claim.wallet record') (claims.set claimId claim') now := by
  have pledge := pledges.pledge listed pending stored
  refine pledges.set_both (pledges.sole stored (.inr pledge.named)) ?_
  intro still
  rw [ended] at still
  cases still

end Pledges

/-- The invariant of the pledges: every pending claim has one, and a record that
is not withdrawn has an amount. -/
structure Books.Pledged (b : Books D) (past : Journal D) : Prop where
  pledges : Pledges past b.stakes b.claims b.sequence
  funded : Store.All (fun _ record => record.withdrawn = false → 0 < record.amount) b.stakes

/-! ### Step lemmas -/

/-- No entry admits a claim that is pending already. -/
theorem BookStep.admission_eq_none (step : BookStep idOf event b b') (kept : b.WellKept)
    (listed : b.claims.get claimId = some claim) (pending : claim.status.isPending = true) :
    event.admission b claimId = none := by
  cases step with
  | queued _ _ _ unused | admitted _ _ _ unused =>
      simp only [BookEvent.admission]
      rw [if_neg]
      rintro rfl
      exact absurd (unused claim listed) (kept.claims _ _ listed).used
  | released found reserved =>
      simp only [BookEvent.admission]
      rw [if_neg]
      rintro rfl
      obtain rfl := Option.mem_unique listed found
      exact ClaimStatus.ne_of_isPending pending rfl reserved
  | _ => rfl

/-- The pledges of the books before an entry, seen after it. -/
theorem BookStep.pledges_later (step : BookStep idOf event b b') (kept : b.WellKept)
    (pledges : Pledges past b.stakes b.claims b.sequence) :
    Pledges ((b, event) :: past) b.stakes b.claims b'.sequence := by
  apply pledges.later
  · intro claimId claim listed pending
    rw [admittedAmount, step.admission_eq_none kept listed pending, Option.none_or]
  · exact step.sequence_le

/-- A deposit just admitted against is pledged to the claim. -/
theorem Books.Admission.pledge {status : ClaimStatus} (admission : b.Admission record status)
    (funded : 0 < record.amount) (standing : record.withdrawn = false)
    (admitted : admittedAmount past claimId = some record.amount)
    (tracked : claim.status = status)
    (covered : ∃ cap, tierCap record.amount claim.tier = .ok cap ∧ claim.entitlement ≤ cap) :
    Pledge past b.sequence claimId claim
      { record with activeClaimId := some claimId, reservedClaimId := none } where
  named := rfl
  funded := funded
  standing := standing
  admitted := admitted
  covered := covered
  gate := by
    intro awaiting
    rw [tracked] at awaiting
    rcases admission with ⟨-, gate⟩ | ⟨pending, -⟩
    · have positive : 0 < timeGateLedgers := by decide
      dsimp only
      omega
    · rw [pending] at awaiting
      cases awaiting

theorem BookStep.pledges (step : BookStep idOf event b b') (kept : b.WellKept)
    (pledged : b.Pledged past) (keeps : event.KeepsPledges b) :
    Pledges ((b, event) :: past) b'.stakes b'.claims b'.sequence := by
  have pledges := step.pledges_later kept pledged.pledges
  cases step with
  | staked _ vacant =>
      -- a pledged record is in the pool, so the depositing wallet's is not
      apply pledges.set_stake
      rintro claimId claim listed rfl
      by_contra pending
      obtain ⟨record, stored, pledge⟩ :=
        pledges claimId claim listed (Bool.eq_true_of_not_eq_false pending)
      have live : record.isLive = true := by
        simp [StakeRecord.isLive, pledge.funded, pledge.standing]
      rw [vacant record stored] at live
      cases live
  | exited stored _ _ inactive =>
      exact pledges.set_stake (pledges.none_of_inactive stored inactive)
  | queued _ stored =>
      exact Pledges.set_claim (pledges.amend_stake stored ⟨rfl, rfl, rfl, rfl⟩) (by rintro ⟨⟩)
  | @admitted _ wallet claimId record _ _ _ _ _ _ _ stored eligible _ _ _ admission =>
      have admitted : admittedAmount ((b, .submitted wallet claimId) :: past) claimId =
          some record.amount := by
        simp [admittedAmount, BookEvent.admission, stored]
      apply pledges.set_both
      · exact pledges.sole stored (.inl eligible.inactive)
      · intro _
        exact ⟨rfl, admission.pledge eligible.funded eligible.standing admitted rfl
          eligible.covered⟩
  | @released _ claimId claim record _ _ listed reserved stored own _ _ admission =>
      have admitted : admittedAmount ((b, .released claim.wallet claimId) :: past) claimId =
          some record.amount := by
        simp [admittedAmount, BookEvent.admission, stored]
      obtain ⟨funded, standing, covered⟩ := keeps claim listed record stored
      apply pledges.set_both
      · exact pledges.sole stored own
      · intro _
        exact ⟨rfl, admission.pledge funded standing admitted rfl covered⟩
  | queueExpired _ _ stored =>
      exact Pledges.set_claim (pledges.amend_stake stored ⟨rfl, rfl, rfl, rfl⟩) (by rintro ⟨⟩)
  | unlocked listed pending stored gate =>
      apply pledges.set_claim
      intro _
      have pledge := pledges.pledge listed (by rw [pending]; rfl) stored
      exact ⟨_, stored, pledge.named, pledge.funded, pledge.standing, pledge.admitted,
        pledge.covered, fun _ => gate⟩
  | approved listed awaiting stored =>
      exact pledges.ends listed (by rw [awaiting]; rfl) stored rfl
  | approvalExpired listed awaiting stored =>
      exact pledges.ends listed (by rw [awaiting]; rfl) stored rfl
  | droppedPending listed pending stored => exact pledges.ends listed pending stored rfl
  | staleExpired => exact Pledges.set_claim (pledges.set_stake keeps) (by rintro ⟨⟩)
  | reversed listed active =>
      exact Pledges.set_claim (pledges.set_stake (keeps _ listed active).1) (by rintro ⟨⟩)
  | streamed listed active =>
      apply pledges.set_claim
      intro pending
      simp only [Claim.paid, active] at pending
      split_ifs at pending <;> cases pending
  | overridden _ stored own =>
      exact pledges.set_both (pledges.sole stored own) (by rintro ⟨⟩)
  | amended stored => exact pledges.amend_stake stored ⟨rfl, rfl, rfl, rfl⟩
  | restarted stored listed =>
      exact Pledges.amend_claim (pledges.amend_stake stored ⟨rfl, rfl, rfl, rfl⟩) listed
        ⟨rfl, rfl, rfl, rfl⟩
  | redeemed | deployed | kept | treasury | clock => exact pledges

theorem BookStep.funded (step : BookStep idOf event b b')
    (funded : Store.All (fun _ record => record.withdrawn = false → 0 < record.amount) b.stakes)
    (keeps : event.KeepsPledges b) :
    Store.All (fun _ record => record.withdrawn = false → 0 < record.amount) b'.stakes := by
  cases step with
  | staked positive => exact funded.set fun _ => positive
  | exited => exact funded.set nofun
  | approved => exact funded.set nofun
  | overridden => exact funded.set nofun
  | reversed listed active stored =>
      have restored := (keeps _ listed active).2 _ stored
      exact funded.set fun _ => restored
  | queued _ stored | admitted _ stored | amended stored | restarted stored =>
      exact funded.update stored id
  | released _ _ stored | queueExpired _ _ stored | approvalExpired _ _ stored
  | droppedPending _ _ stored =>
      exact funded.update stored id
  | staleExpired _ _ _ stored => exact funded.update stored id
  | unlocked | streamed | redeemed | deployed | kept | treasury | clock => exact funded

/-- An approval of a pledged claim forfeits the deposit it was admitted against. -/
theorem Books.Pledged.forfeits (pledged : b.Pledged past)
    (step : BookStep idOf (.approved wallet claimId) b b') :
    ForfeitsAdmittedStake past b wallet claimId := by
  cases step with
  | @approved _ _ claim record listed awaiting stored =>
      have pledge := pledged.pledges.pledge listed (by rw [awaiting]; rfl) stored
      exact ⟨claim, record, listed, stored, pledge.funded, pledge.standing, pledge.admitted,
        pledge.covered, pledge.gate awaiting⟩

/-! ### Runs -/

/-- The steps that keep the pledges. -/
def keepsPledges : EntryRule D := fun _ b event => event.KeepsPledges b

instance (past : Journal D) (b : Books D) (event : BookEvent D) :
    Decidable (keepsPledges past b event) :=
  inferInstanceAs (Decidable (event.KeepsPledges b))

/-- What the approvals of a run and the records it leaves satisfy. -/
structure ApprovalsSound (host : Host D) (log : List (Entry (State D) (Action D) (Output D)))
    (s : State D) : Prop where
  approvals : ApprovalsForfeit (journal host log)
  records : ∀ wallet record, s.stakes.get wallet = some record →
    ¬ (record.amount = 0 ∧ record.withdrawn = false)

theorem pledged_of_run {host : Host D}
    {log : List (Entry (State D) (Action D) (Output D))} {s : State D}
    (run : (poolSystem host).Run (keepsPledges.guard host) log s) :
    (s.books host).Pledged (journal host log) ∧ ApprovalsForfeit (journal host log) := by
  apply journal_invariant (P := fun past b => b.Pledged past ∧ ApprovalsForfeit past) _ _ run
  · intro b noStakes noClaims
    refine ⟨⟨?_, ?_⟩, trivial⟩
    · simp only [Pledges, noClaims, Store.all_empty]
    · simp only [noStakes, Store.all_empty]
  · rintro past b event b' step kept ⟨pledged, forfeits⟩ keeps
    refine ⟨⟨step.pledges kept pledged keeps, step.funded pledged.funded keeps⟩, ?_, forfeits⟩
    rintro wallet claimId rfl
    exact pledged.forfeits step

/-- In every run in which queued claims are released only against deposits that
cover them, and no claim in effect expires or is reversed over a pending claim of
its wallet, every approval forfeits the deposit its claim was admitted against,
and no record without an amount counts as standing. -/
theorem approvals_forfeit_admitted_stake (host : Host D)
    {log : List (Entry (State D) (Action D) (Output D))} {s : State D}
    (run : (poolSystem host).Run (keepsPledges.guard host) log s) :
    ApprovalsSound host log s := by
  obtain ⟨pledged, forfeits⟩ := pledged_of_run run
  refine ⟨forfeits, ?_⟩
  rintro wallet record stored ⟨empty, standing⟩
  exact absurd empty (pledged.funded wallet record stored standing).ne'

/-- The claim of the sample queue is released and approved in such a run. -/
theorem approvals_forfeit_admitted_stake_sample :
    ∃ log s, (poolSystem sampleHost).Run (keepsPledges.guard sampleHost) log s ∧
      s.totalStaked = 200000 ∧ ApprovalsSound sampleHost log s := by
  obtain ⟨log, s, run, ends⟩ := System.exists_run_of_replay (poolSystem sampleHost)
    (keepsPledges.guard sampleHost) samplePool_deployed
    (sampleQueue ++ [callBy 11 (.tryReleaseQueuedClaim (computeClaimId sampleHost (party 11) 0)),
      callBy 11 (.approveClaim (computeClaimId sampleHost (party 11) 0))])
    (fun _ s => s.totalStaked = 200000) (by decide +kernel)
  exact ⟨log, s, run, ends, approvals_forfeit_admitted_stake sampleHost run⟩

/-- An approval that finds a record without an amount forfeits nothing. -/
theorem not_sound_of_empty_record {host : Host D}
    {log : List (Entry (State D) (Action D) (Output D))}
    {e : Entry (State D) (Action D) (Output D)} {s : State D}
    (approves : bookEvent host e.pre e.action = .approved wallet claimId)
    (empty : (e.pre.stakes.get wallet).map StakeRecord.amount = some 0) :
    ¬ ApprovalsSound host (e :: log) s := by
  intro sound
  obtain ⟨claim, record, -, stored, funded, -⟩ := sound.approvals.1 wallet claimId approves
  have found : e.pre.stakes.get wallet = some record := stored
  rw [found] at empty
  exact absurd (Option.some.inj empty) funded.ne'

/-- The wallet of the sample queue withdraws before the release: its approval
forfeits nothing. -/
theorem approval_after_withdrawal_forfeits_nothing :
    ∃ log s, (poolSystem sampleHost).Run System.anyStep log s ∧
      ¬ ApprovalsSound sampleHost log s := by
  obtain ⟨log, s, run, ends⟩ := System.exists_run_of_replay (poolSystem sampleHost)
    System.anyStep samplePool_deployed
    (sampleQueue ++ [callBy 11 (.withdraw (party 11) (party 21)),
      callBy 11 (.tryReleaseQueuedClaim (computeClaimId sampleHost (party 11) 0)),
      callBy 11 (.approveClaim (computeClaimId sampleHost (party 11) 0))])
    (fun log _ => log.head?.any fun e : Entry (State Nat) (Action Nat) (Output Nat) =>
      decide (bookEvent sampleHost e.pre e.action =
          .approved (party 11) (computeClaimId sampleHost (party 11) 0) ∧
        (e.pre.stakes.get (party 11)).map StakeRecord.amount = some 0))
    (by decide +kernel)
  cases log with
  | nil => cases ends
  | cons e past =>
      obtain ⟨approves, empty⟩ := of_decide_eq_true ends
      exact ⟨e :: past, s, run, not_sound_of_empty_record approves empty⟩

end ProtectionPool
