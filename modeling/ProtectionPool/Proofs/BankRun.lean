/-
Module: ProtectionPool.Proofs.BankRun
Purpose: Many stakers leave at once.  As long as their deposits are unclaimed and the
  liquid balance covers them all, every emergency exit succeeds in full, in whatever
  order the exits arrive, and the pool ends in the same state.
Trusted boundary: none
Main exports: State.afterExit, Leaving, afterExit_comm, bank_run
-/
import ProtectionPool.Library.Replay
import ProtectionPool.Proofs.CashBook

namespace ProtectionPool

open Checked Accounts

variable {D : Type}

/-- The state after a staker's deposit is paid out to it. -/
def State.afterExit (host : Host D) (s : State D) (staker : Address) : State D :=
  match s.stakes.get staker with
  | some record =>
      { s with
        stakes := s.stakes.set staker { record with withdrawn := true, amount := 0 }
        totalStaked := s.totalStaked - record.amount
        totalStakers := s.totalStakers - 1
        xlm := moved s.xlm host.contract staker record.amount }
  | none => s

/-- What a number of stakers have deposited together. -/
def depositsOf (s : State D) (stakers : List Address) : Int := (stakers.map (depositOf s)).sum

/-- A staker with a deposit in the pool that no claim holds. -/
structure FreeToExit (host : Host D) (s : State D) (staker : Address) : Prop where
  account : staker ≠ host.contract
  deposit : ∃ record ∈ s.stakes.get staker, record.isLive = true ∧ record.activeClaimId = none

/-- Stakers whose deposits are free and covered by the liquid balance. -/
structure Leaving (host : Host D) (s : State D) (stakers : List Address) : Prop where
  distinct : stakers.Nodup
  free : ∀ staker ∈ stakers, FreeToExit host s staker
  covered : depositsOf s stakers ≤ liquidBalance host s
  fits : InI128 s.totalStaked ∧ i128Min ≤ s.totalStaked - depositsOf s stakers

instance (host : Host D) (s : State D) (staker : Address) : Decidable (FreeToExit host s staker) :=
  decidable_of_iff (staker ≠ host.contract ∧ ∃ record ∈ s.stakes.get staker,
    record.isLive = true ∧ record.activeClaimId = none)
    ⟨fun ⟨account, deposit⟩ => ⟨account, deposit⟩, fun ⟨account, deposit⟩ => ⟨account, deposit⟩⟩

variable {host : Host D} {env : Env} {s : State D} {staker other : Address}
  {stakers : List Address} {record : StakeRecord D}

theorem afterExit_of_get (stored : s.stakes.get staker = some record) :
    s.afterExit host staker =
      { s with
        stakes := s.stakes.set staker { record with withdrawn := true, amount := 0 }
        totalStaked := s.totalStaked - record.amount
        totalStakers := s.totalStakers - 1
        xlm := moved s.xlm host.contract staker record.amount } := by
  rw [State.afterExit, stored]

theorem depositOf_of_get (stored : s.stakes.get staker = some record) :
    depositOf s staker = record.amount := by
  rw [depositOf, stored, Option.map_some, Option.getD_some]

theorem afterExit_of_none (absent : s.stakes.get staker = none) : s.afterExit host staker = s := by
  rw [State.afterExit, absent]

/-- A free deposit is a positive amount. -/
theorem FreeToExit.positive (free : FreeToExit host s staker) : 0 < depositOf s staker := by
  obtain ⟨-, record, stored, live, -⟩ := free
  simp only [StakeRecord.isLive, Bool.and_eq_true, decide_eq_true_eq] at live
  rw [depositOf_of_get stored]
  exact live.1

theorem depositsOf_nonneg (free : ∀ staker ∈ stakers, FreeToExit host s staker) :
    0 ≤ depositsOf s stakers := by
  apply List.sum_nonneg
  intro amount member
  obtain ⟨staker, listed, rfl⟩ := List.mem_map.mp member
  exact (free staker listed).positive.le

/-- An exit that is signed, free and covered takes place. -/
theorem emergencyExit_of_free (signed : staker ∈ env.signers)
    (accepted : env.tokenAccepts = true) (free : FreeToExit host s staker)
    (covered : depositOf s staker ≤ liquidBalance host s)
    (fits : InI128 (s.totalStaked - depositOf s staker)) :
    emergencyExit host env s staker = .ok (s.afterExit host staker) := by
  obtain ⟨account, record, stored, live, free⟩ := free
  obtain ⟨funded, standing⟩ := StakeRecord.isLive_iff.mp live
  rw [depositOf_of_get stored] at covered fits
  rw [afterExit_of_get stored]
  apply emergencyExit_eq_ok.mpr
  exact ⟨record, {
    signed := ⟨signed, account⟩, stored := stored, funded := funded, standing := standing,
    inactive := free, covered := covered, fits := fits, accepted := accepted, state := rfl }⟩

/-! ### Order -/

/-- An exit leaves the records of others alone. -/
theorem stakes_afterExit_of_ne (apart : other ≠ staker) :
    (s.afterExit host staker).stakes.get other = s.stakes.get other := by
  cases stored : s.stakes.get staker with
  | none => rw [State.afterExit, stored]
  | some record =>
      rw [afterExit_of_get stored]
      exact Store.get_set_ne _ _ apart

/-- Payments out of one purse settle in either order. -/
theorem moved_comm {xlm : Address → Int} {payer first second : Address} {a b : Int} :
    moved (moved xlm payer first a) payer second b =
      moved (moved xlm payer second b) payer first a := by
  simp only [moved_eq_settle]
  funext holder
  simp only [Transfer.settle_apply]
  omega

/-- Two exits lead to the same state in either order. -/
theorem afterExit_comm (host : Host D) (s : State D) (first second : Address) :
    (s.afterExit host first).afterExit host second =
      (s.afterExit host second).afterExit host first := by
  by_cases same : first = second
  · rw [same]
  have seconds : (s.afterExit host first).stakes.get second = s.stakes.get second :=
    stakes_afterExit_of_ne (Ne.symm same)
  have firsts : (s.afterExit host second).stakes.get first = s.stakes.get first :=
    stakes_afterExit_of_ne same
  cases one : s.stakes.get first with
  | none => rw [afterExit_of_none (firsts.trans one), afterExit_of_none one]
  | some record =>
      cases two : s.stakes.get second with
      | none => rw [afterExit_of_none (seconds.trans two), afterExit_of_none two]
      | some record' =>
          rw [afterExit_of_get (seconds.trans two), afterExit_of_get (firsts.trans one),
            afterExit_of_get one, afterExit_of_get two]
          have stakes : (s.stakes.set first { record with withdrawn := true, amount := 0 }).set
              second { record' with withdrawn := true, amount := 0 } =
              (s.stakes.set second { record' with withdrawn := true, amount := 0 }).set first
                { record with withdrawn := true, amount := 0 } :=
            Store.set_comm _ same _ _
          have staked : s.totalStaked - record.amount - record'.amount =
              s.totalStaked - record'.amount - record.amount := by omega
          simp only [stakes, staked, moved_comm]

/-! ### What exits leave behind -/

/-- What the exits of a number of stakers leave behind. -/
structure PaidOut (host : Host D) (stakers : List Address) (s s' : State D) : Prop where
  liquid : liquidBalance host s' = liquidBalance host s - depositsOf s stakers
  staked : s'.totalStaked = s.totalStaked - depositsOf s stakers
  allocated : s'.totalAllocated = s.totalAllocated
  leavers : ∀ staker ∈ stakers, s'.xlm staker = s.xlm staker + depositOf s staker ∧
    depositOf s' staker = 0
  others : ∀ other, other ∉ stakers → s'.stakes.get other = s.stakes.get other ∧
    (other ≠ host.contract → s'.xlm other = s.xlm other)

theorem depositsOf_cons :
    depositsOf s (staker :: stakers) = depositOf s staker + depositsOf s stakers := by
  rw [depositsOf, List.map_cons, List.sum_cons, depositsOf]

/-- Stakers whose records two states share have the same deposits in both. -/
theorem depositsOf_congr {s' : State D}
    (same : ∀ staker ∈ stakers, s'.stakes.get staker = s.stakes.get staker) :
    depositsOf s' stakers = depositsOf s stakers := by
  rw [depositsOf, depositsOf, List.map_congr_left]
  intro staker member
  rw [depositOf, same staker member, depositOf]

/-- One exit pays one staker. -/
theorem FreeToExit.paidOut (free : FreeToExit host s staker) :
    PaidOut host [staker] s (s.afterExit host staker) := by
  obtain ⟨account, record, stored, -, -⟩ := free
  have sum : depositsOf s [staker] = record.amount := by
    rw [depositsOf_cons, depositOf_of_get stored]
    exact add_zero _
  rw [afterExit_of_get stored]
  refine ⟨?_, by rw [sum], rfl, ?_, ?_⟩
  · rw [sum]
    exact moved_payer.trans (if_neg account)
  · intro other member
    obtain rfl := List.mem_singleton.mp member
    refine ⟨?_, ?_⟩
    · rw [depositOf_of_get stored]
      exact moved_payee account
    · simp only [depositOf, Store.get_set_self, Option.map_some, Option.getD_some]
  · intro other absent
    have apart : other ≠ staker := List.ne_of_not_mem_cons absent
    refine ⟨Store.get_set_ne _ _ apart, fun pool => ?_⟩
    simp only [moved_eq_settle, Transfer.settle_apply, Transfer.credit, Transfer.debit,
      if_neg apart, if_neg pool]
    omega

/-- After one staker the others leave as before. -/
theorem PaidOut.cons {s₁ s' : State D} (first : PaidOut host [staker] s s₁)
    (rest : PaidOut host stakers s₁ s') (account : staker ≠ host.contract)
    (absent : staker ∉ stakers) (accounts : ∀ other ∈ stakers, other ≠ host.contract) :
    PaidOut host (staker :: stakers) s s' := by
  have apart : ∀ other ∈ stakers, other ∉ [staker] := by
    intro other member same
    exact absent (List.mem_singleton.mp same ▸ member)
  have same := depositsOf_congr fun other member => (first.others other (apart other member)).1
  have alone : depositsOf s [staker] = depositOf s staker := depositsOf_cons.trans (add_zero _)
  have liquid := first.liquid
  have staked := first.staked
  rw [alone] at liquid staked
  constructor
  · rw [rest.liquid, same, depositsOf_cons]
    omega
  · rw [rest.staked, same, depositsOf_cons]
    omega
  · rw [rest.allocated, first.allocated]
  · intro other member
    rcases List.mem_cons.mp member with rfl | later
    · obtain ⟨paid, gone⟩ := first.leavers other List.mem_cons_self
      obtain ⟨record, balance⟩ := rest.others other absent
      exact ⟨(balance account).trans paid, by rw [depositOf, record]; exact gone⟩
    · obtain ⟨record, balance⟩ := first.others other (apart other later)
      obtain ⟨paid, gone⟩ := rest.leavers other later
      refine ⟨?_, gone⟩
      rw [paid, balance (accounts other later), depositOf, record, depositOf]
  · intro other absent
    obtain ⟨differs, later⟩ := not_or.mp (List.mem_cons.not.mp absent)
    obtain ⟨record, balance⟩ := first.others other (List.mem_singleton.not.mpr differs)
    obtain ⟨record', balance'⟩ := rest.others other later
    exact ⟨record'.trans record, fun pool => (balance' pool).trans (balance pool)⟩

/-! ### The run on the pool -/

/-- After one exit the rest may still leave. -/
theorem Leaving.next (leaving : Leaving host s (staker :: stakers)) :
    Leaving host (s.afterExit host staker) stakers := by
  obtain ⟨distinct, free, covered, fits, floor⟩ := leaving
  obtain ⟨absent, distinct⟩ := List.nodup_cons.mp distinct
  have own := free staker List.mem_cons_self
  have positive := own.positive
  have rest := depositsOf_nonneg fun other member => free other (List.mem_cons_of_mem _ member)
  have apart : ∀ other ∈ stakers, other ≠ staker := by
    rintro other member rfl
    exact absent member
  have kept : ∀ other ∈ stakers, (s.afterExit host staker).stakes.get other =
      s.stakes.get other := fun other member => stakes_afterExit_of_ne (apart other member)
  have liquid := own.paidOut.liquid
  have staked := own.paidOut.staked
  rw [depositsOf_cons] at covered floor
  rw [depositsOf_cons, depositsOf, List.map_nil, List.sum_nil, add_zero] at liquid staked
  refine ⟨distinct, ?_, ?_, ⟨?_, ?_⟩, ?_⟩
  · intro other member
    obtain ⟨account, deposit⟩ := free other (List.mem_cons_of_mem _ member)
    exact ⟨account, by rwa [kept other member]⟩
  · rw [depositsOf_congr kept, liquid]
    omega
  · omega
  · have upper := fits.2
    omega
  · rw [depositsOf_congr kept, staked]
    omega

/-- The first of the stakers may leave now. -/
theorem Leaving.exits (leaving : Leaving host s (staker :: stakers))
    (signed : staker ∈ env.signers) (accepted : env.tokenAccepts = true) :
    emergencyExit host env s staker = .ok (s.afterExit host staker) := by
  obtain ⟨-, free, covered, ⟨-, upper⟩, floor⟩ := leaving
  have own := free staker List.mem_cons_self
  have rest := depositsOf_nonneg fun other member => free other (List.mem_cons_of_mem _ member)
  have positive := own.positive
  have total : depositsOf s (staker :: stakers) = depositOf s staker + depositsOf s stakers := by
    rw [depositsOf, List.map_cons, List.sum_cons, depositsOf]
  exact emergencyExit_of_free signed accepted own (by omega) ⟨by omega, by omega⟩

theorem Leaving.perm {order : List Address} (leaving : Leaving host s stakers)
    (perm : order.Perm stakers) : Leaving host s order := by
  have same : depositsOf s order = depositsOf s stakers := (perm.map (depositOf s)).sum_eq
  obtain ⟨distinct, free, covered, fits⟩ := leaving
  refine ⟨perm.nodup_iff.mpr distinct, fun staker member => free staker (perm.mem_iff.mp member),
    ?_, ?_⟩
  · rwa [same]
  · rwa [same]

/-- The exit of a staker in its own invocation. -/
def exitOf (env : Address → Env) (staker : Address) : Action D :=
  .invoke (env staker) (.emergencyExit staker)

variable [DecidableEq D]

/-- Exits in a row lead to the state with all of them paid. -/
theorem after_exits {env : Address → Env} (signed : ∀ staker, staker ∈ (env staker).signers)
    (accepted : ∀ staker, (env staker).tokenAccepts = true) (leaving : Leaving host s stakers) :
    (poolSystem host).after s (stakers.map (exitOf env)) =
      .ok (stakers.foldl (State.afterExit host) s) := by
  have each : ∀ {s : State D} {staker : Address} {rest : List Address},
      Leaving host s (staker :: rest) →
        (∃ r, (poolSystem host).step s (exitOf env staker) = .ok (r, s.afterExit host staker)) ∧
          Leaving host (s.afterExit host staker) rest := by
    intro s staker rest leaving
    refine ⟨⟨.unit, ?_⟩, leaving.next⟩
    simp only [poolSystem, poolStep, exitOf, dispatch, returningUnit_eq_ok,
      leaving.exits (signed staker) (accepted staker), and_self]
  exact System.after_of_ready each leaving

omit [DecidableEq D] in
/-- The exits of a number of stakers pay each of them its deposit and nobody else. -/
theorem Leaving.paidOut (leaving : Leaving host s stakers) :
    PaidOut host stakers s (stakers.foldl (State.afterExit host) s) := by
  induction stakers generalizing s with
  | nil =>
      refine ⟨(sub_zero _).symm, (sub_zero _).symm, rfl, nofun, fun _ _ => ⟨rfl, fun _ => rfl⟩⟩
  | cons staker rest inductionHypothesis =>
      have first := (leaving.free staker List.mem_cons_self).paidOut
      have later := inductionHypothesis leaving.next
      apply first.cons later (leaving.free staker List.mem_cons_self).account
      · exact (List.nodup_cons.mp leaving.distinct).1
      · exact fun other member => (leaving.free other (List.mem_cons_of_mem _ member)).account

/-- Every order of the exits ends in the state with all of them paid. -/
theorem Leaving.after_order {env : Address → Env}
    (signed : ∀ staker, staker ∈ (env staker).signers)
    (accepted : ∀ staker, (env staker).tokenAccepts = true) (leaving : Leaving host s stakers)
    {order : List Address} (perm : order.Perm stakers) :
    (poolSystem host).after s (order.map (exitOf env)) =
      .ok (stakers.foldl (State.afterExit host) s) := by
  rw [after_exits signed accepted (leaving.perm perm)]
  exact congrArg Except.ok (perm.foldl_eq' (fun first _ second _ s =>
    afterExit_comm host s first second) s)

/-- Stakers whose deposits no claim holds and the liquid balance covers leave by emergency
exits in whatever order, if the token accepts the payments: every exit succeeds, each staker
gets its deposit in full, nobody else is touched, and every order ends in the same state. -/
theorem bank_run (host : Host D) {env : Address → Env}
    (signed : ∀ staker, staker ∈ (env staker).signers)
    (accepted : ∀ staker, (env staker).tokenAccepts = true) {s : State D} {stakers : List Address}
    (leaving : Leaving host s stakers) :
    ∃ s', PaidOut host stakers s s' ∧ ∀ order : List Address, order.Perm stakers →
      (poolSystem host).after s (order.map (exitOf env)) = .ok s' :=
  ⟨_, leaving.paidOut, fun _ perm => leaving.after_order signed accepted perm⟩

/-- Three stakers leave a paused pool. -/
theorem bank_run_sample :
    ∃ log s, (poolSystem sampleHost).Run System.anyStep log s ∧
      ∃ s', PaidOut sampleHost [party 11, party 12, party 13] s s' ∧
        ∀ order : List Address, order.Perm [party 11, party 12, party 13] →
          (poolSystem sampleHost).after s
            (order.map (exitOf fun staker => .of [staker] ⟨0, 0, 0, 0⟩)) = .ok s' := by
  obtain ⟨log, s, run, distinct, free, covered, fits⟩ :=
    System.exists_run_of_replay (poolSystem sampleHost) System.anyStep samplePool_deployed
      [callBy 11 (.stake (party 11) 2000 (party 21)),
        callBy 12 (.stake (party 12) 100000 (party 22)),
        callBy 13 (.stake (party 13) 50000 (party 23)), afterDays 3, callBy 1 .pause]
      (fun _ s => [party 11, party 12, party 13].Nodup ∧
        (∀ staker ∈ [party 11, party 12, party 13], FreeToExit sampleHost s staker) ∧
        depositsOf s [party 11, party 12, party 13] ≤ liquidBalance sampleHost s ∧
        InI128 s.totalStaked ∧
        i128Min ≤ s.totalStaked - depositsOf s [party 11, party 12, party 13]) (by decide +kernel)
  refine ⟨log, s, run, bank_run sampleHost ?_ ?_ ⟨distinct, free, covered, fits⟩⟩
  · exact fun staker => List.mem_cons_self
  · exact fun _ => rfl

end ProtectionPool
