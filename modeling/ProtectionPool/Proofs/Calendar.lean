/-
Module: ProtectionPool.Proofs.Calendar
Purpose: Amounts by calendar day.  The contract tells the days apart by a number
  of 32 bits and keeps its daily counters under it.  A counter that every step
  with an amount enters it in, and that no other step writes to, follows the
  amounts of the run.
Trusted boundary: none
Main exports: calendarDay, dayNumber, dated, dated_tracks, along_of_distinguishes
-/
import ProtectionPool.Library.Daily
import ProtectionPool.Books.Registration

namespace ProtectionPool

variable {D : Type}

/-- The calendar day of a state. -/
def calendarDay (s : State D) : Nat := s.timestamp / secondsPerDay

/-- The number the contract tells a day by: the cast of `current_day`. -/
def dayNumber (day : Nat) : Nat := day % 2 ^ 32

variable {M : Type}

/-- The amounts some steps of a log have, with their calendar days. -/
def dated (amount : Entry (State D) (Action D) (Output D) → Option M) (log : Log D) :
    List (Nat × M) :=
  log.filterMap fun e => (amount e).map fun value => (calendarDay e.pre, value)

variable {host : Host D} {s : State D} {log : Log D} {e : Entry (State D) (Action D) (Output D)}
  {amount : Entry (State D) (Action D) (Output D) → Option M}

theorem dated_cons :
    dated amount (e :: log) = match amount e with
      | some value => (calendarDay e.pre, value) :: dated amount log
      | none => dated amount log := by
  simp only [dated, List.filterMap_cons]
  cases amount e <;> rfl

/-- The days of a longer log have distinct numbers only if those of the shorter one
have. -/
theorem distinguishes_shrink (e : Entry (State D) (Action D) (Output D)) (log : Log D)
    (distinct : Daily.Distinguishes dayNumber (dated amount (e :: log))) :
    Daily.Distinguishes dayNumber (dated amount log) := by
  rw [dated_cons] at distinct
  cases found : amount e with
  | none => rwa [found] at distinct
  | some value =>
      rw [found] at distinct
      exact distinct.of_cons

variable [DecidableEq D]

/-- What every amount is when its step is made, all amounts of a run are. -/
theorem dated_all {P : M → Prop}
    (each : ∀ {log : Log D} {s action output s'}, (poolSystem host).Run System.anyStep log s →
      poolStep host s action = .ok (output, s') →
      ∀ value, amount ⟨s, action, output, s'⟩ = some value → P value)
    (run : (poolSystem host).Run System.anyStep log s) : ∀ entry ∈ dated amount log, P entry.2 := by
  have all : ∀ e ∈ log, ∀ value, amount e = some value → P value :=
    run.entries fun _ _ _ _ _ run _ stepped => each run stepped
  intro entry member
  obtain ⟨e, logged, found⟩ := List.mem_filterMap.mp member
  obtain ⟨value, recorded, rfl⟩ := Option.map_eq_some_iff.mp found
  exact all e logged value recorded

/-- A counter that starts empty, and that exactly the steps with an amount enter it
in, follows the amounts. -/
theorem dated_tracks [AddCommMonoid M] (counter : Register D → Daily.Counter M)
    (initially : ∀ {r : Register D}, r.New → counter r = ⟨0, 0⟩)
    (written : ∀ {s action output s'}, poolStep host s action = .ok (output, s') →
      counter s'.register = (amount ⟨s, action, output, s'⟩).elim (counter s.register)
        ((counter s.register).enter (currentDay s)))
    (run : (poolSystem host).Run System.anyStep log s) :
    Daily.Tracks dayNumber (counter s.register) (dated amount log) (calendarDay s) := by
  refine run.invariant (P := fun log s =>
    Daily.Tracks dayNumber (counter s.register) (dated amount log) (calendarDay s)) ?_ ?_
  · intro s deployed
    rw [initially (deployed_register deployed)]
    exact .initially
  · intro log s action output s' _ tracks _ stepped
    have passes : calendarDay s ≤ calendarDay s' :=
      Nat.div_le_div_right (step_registers stepped).timestamp_le
    rw [written stepped, dated_cons]
    cases amount ⟨s, action, output, s'⟩ with
    | some value => exact (tracks.enter value).pass passes
    | none => exact tracks.pass passes

variable (amount) in
/-- What every step has up to which the days of the amounts have distinct numbers
holds along every run whose days have. -/
theorem along_of_distinguishes {P : Log D → Entry (State D) (Action D) (Output D) → Prop}
    (each : ∀ {log : Log D} {s action output s'}, (poolSystem host).Run System.anyStep log s →
      poolStep host s action = .ok (output, s') →
      Daily.Distinguishes dayNumber (dated amount (⟨s, action, output, s'⟩ :: log)) →
      P log ⟨s, action, output, s'⟩)
    (run : (poolSystem host).Run System.anyStep log s)
    (distinct : Daily.Distinguishes dayNumber (dated amount log)) : System.Along P log := by
  have assumed : System.Along (fun past e =>
      Daily.Distinguishes dayNumber (dated amount (e :: past)) → P past e) log := by
    apply run.along_of_steps
    intro log s action output s' run _ stepped
    exact each run stepped
  exact assumed.of_assumption
    (A := fun log => Daily.Distinguishes dayNumber (dated amount log)) distinguishes_shrink distinct

/-- The next ledger may be any later one. -/
theorem closeLedger_step (host : Host D) (s : State D) {sequence timestamp : Nat}
    (later : s.sequence ≤ sequence) (fits : sequence < 2 ^ 32) (passes : s.timestamp ≤ timestamp)
    (timeFits : timestamp < 2 ^ 64) :
    poolStep host s (.closeLedger sequence timestamp) =
      .ok (.unit, { s with sequence := sequence, timestamp := timestamp }) := by
  simp [poolStep, closeLedger, later, passes]
  exact ⟨fits, timeFits⟩

end ProtectionPool
