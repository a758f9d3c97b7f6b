/-
Module: ProtectionPool.Library.Run
Purpose: Runs of a fallible transition system together with the log of the
  steps taken.  A run may be restricted by a guard on its steps, which sees the
  log so far, the state before the step and the action.  Invariants of guarded
  runs are proved once per step; a concrete run is obtained by replaying a list
  of actions.
Trusted boundary: none
Main exports: Entry, System, System.Run, System.Run.invariant,
  System.Run.invariant_exactly,
  System.Run.persists, System.startingAt, System.Along,
  System.Run.along, System.Run.along_congr, System.Run.along_iff,
  System.replayFrom, System.exists_run_of_replay, System.exists_continuation_of_replay
-/
import Mathlib.Tactic.Common

/-- One step of a run: the state it was taken in, the action, its result and
the state it led to. -/
structure Entry (σ α ρ : Type) where
  pre : σ
  action : α
  result : ρ
  post : σ

/-- A deterministic system whose steps may fail.  A failed step has no effect
and is therefore not part of a run. -/
structure System (σ α ρ ε : Type) where
  initial : σ → Prop
  step : σ → α → Except ε (ρ × σ)

namespace System

variable {σ α ρ ε : Type}

/-- A restriction on the steps of a run. -/
abbrev Guard (σ α ρ : Type) := List (Entry σ α ρ) → σ → α → Prop

/-- The guard every step meets. -/
def anyStep : Guard σ α ρ := fun _ _ _ => True

/-- The runs all of whose steps meet a guard, with the log of their steps, the
most recent one first. -/
inductive Run (sys : System σ α ρ ε) (guard : Guard σ α ρ) : List (Entry σ α ρ) → σ → Prop where
  | start {s : σ} (initial : sys.initial s) : Run sys guard [] s
  | step {log : List (Entry σ α ρ)} {s s' : σ} {a : α} {r : ρ}
      (run : Run sys guard log s) (met : guard log s a) (stepped : sys.step s a = .ok (r, s')) :
      Run sys guard (⟨s, a, r, s'⟩ :: log) s'

namespace Run

variable {sys : System σ α ρ ε} {guard : Guard σ α ρ} {log : List (Entry σ α ρ)} {s : σ}

/-- A property that holds initially and is kept by every step that meets the
guard holds along the whole run. -/
theorem invariant {P : List (Entry σ α ρ) → σ → Prop}
    (initially : ∀ s, sys.initial s → P [] s)
    (kept : ∀ log s a r s', Run sys guard log s → P log s → guard log s a →
      sys.step s a = .ok (r, s') → P (⟨s, a, r, s'⟩ :: log) s')
    (run : Run sys guard log s) : P log s := by
  induction run with
  | start initial => exact initially _ initial
  | step run met stepped inductionHypothesis =>
      exact kept _ _ _ _ _ run inductionHypothesis met stepped

/-- An invariant that a step keeps exactly when it meets the guard holds along the
runs that meet the guard, and it ends with the first step that does not. -/
theorem invariant_exactly {I : σ → Prop} (initially : ∀ s, sys.initial s → I s)
    (exactly : ∀ log s a r s', Run sys guard log s → I s → sys.step s a = .ok (r, s') →
      (I s' ↔ guard log s a))
    (run : Run sys guard log s) :
    I s ∧ ∀ {a r s'}, sys.step s a = .ok (r, s') → (I s' ↔ guard log s a) := by
  have holds : I s := by
    apply run.invariant (P := fun _ s => I s)
    · exact initially
    · intro log s a r s' run holds met stepped
      exact (exactly log s a r s' run holds stepped).mpr met
  exact ⟨holds, fun stepped => exactly log s _ _ _ run holds stepped⟩

/-- A run of the restricted system is a run of any less restricted one. -/
theorem mono {weaker : Guard σ α ρ} (implied : ∀ log s a, guard log s a → weaker log s a)
    (run : Run sys guard log s) : Run sys weaker log s := by
  induction run with
  | start initial => exact .start initial
  | step run met stepped inductionHypothesis =>
      exact .step inductionHypothesis (implied _ _ _ met) stepped

/-- What holds of every step of a run taken on its own holds of every entry of
the log. -/
theorem entries {P : Entry σ α ρ → Prop}
    (each : ∀ log s a r s', Run sys guard log s → guard log s a →
      sys.step s a = .ok (r, s') → P ⟨s, a, r, s'⟩)
    (run : Run sys guard log s) : ∀ e ∈ log, P e := by
  induction run with
  | start => intro e member; cases member
  | step run met stepped inductionHypothesis =>
      intro e member
      rcases List.mem_cons.mp member with rfl | older
      · exact each _ _ _ _ _ run met stepped
      · exact inductionHypothesis e older

/-- A quantity that no step lowers was not higher at any step of the run. -/
theorem le_of_mem (rank : σ → Nat)
    (advances : ∀ {s a r s'}, sys.step s a = .ok (r, s') → rank s ≤ rank s')
    (run : Run sys guard log s) : ∀ e ∈ log, rank e.pre ≤ rank s := by
  induction run with
  | start => nofun
  | step run met stepped inductionHypothesis =>
      intro e member
      rcases List.mem_cons.mp member with rfl | older
      · exact advances stepped
      · exact Nat.le_trans (inductionHypothesis e older) (advances stepped)

/-- What held before some step of the run holds at its end, or some step at that
quantity or later ended it. -/
theorem persists {P : σ → Prop} (rank : σ → Nat)
    (advances : ∀ {s a r s'}, sys.step s a = .ok (r, s') → rank s ≤ rank s')
    (run : Run sys guard log s) : ∀ e ∈ log, P e.pre →
      P s ∨ ∃ last ∈ log, P last.pre ∧ ¬ P last.post ∧ rank e.pre ≤ rank last.pre := by
  induction run with
  | start => nofun
  | @step log s s' a r run met stepped inductionHypothesis =>
      intro e member before
      -- Here the last step either keeps the property or is the one that ended it.
      have ended : P s → rank e.pre ≤ rank s → P s' ∨ ∃ last ∈ (⟨s, a, r, s'⟩ :: log : List _),
          P last.pre ∧ ¬ P last.post ∧ rank e.pre ≤ rank last.pre := by
        intro holds notLater
        by_cases stays : P s'
        · exact .inl stays
        · exact .inr ⟨_, List.mem_cons_self, holds, stays, notLater⟩
      rcases List.mem_cons.mp member with rfl | older
      · exact ended before (Nat.le_refl _)
      · rcases inductionHypothesis e older before with holds | ⟨last, logged, lifted⟩
        · exact ended holds (run.le_of_mem rank advances e older)
        · exact .inr ⟨last, List.mem_cons_of_mem _ logged, lifted⟩

end Run

/-! ### Runs that go on -/

/-- The same system, started in a given state. -/
def startingAt (sys : System σ α ρ ε) (s : σ) : System σ α ρ ε :=
  { sys with initial := fun s' => s' = s }

/-! ### Properties of each step and its past -/

/-- A property of every step of a log, seen with the log before it. -/
def Along (P : List (Entry σ α ρ) → Entry σ α ρ → Prop) : List (Entry σ α ρ) → Prop
  | [] => True
  | e :: past => P past e ∧ Along P past

instance decidableAlong {P : List (Entry σ α ρ) → Entry σ α ρ → Prop}
    [∀ past e, Decidable (P past e)] : ∀ log, Decidable (Along P log)
  | [] => inferInstanceAs (Decidable True)
  | e :: past =>
      haveI : Decidable (Along P past) := decidableAlong past
      inferInstanceAs (Decidable (P past e ∧ Along P past))

section Along

variable {sys : System σ α ρ ε} {guard : Guard σ α ρ} {log : List (Entry σ α ρ)} {s : σ}
  {P Q : List (Entry σ α ρ) → Entry σ α ρ → Prop} {I : List (Entry σ α ρ) → σ → Prop}

theorem Along.imp (along : Along P log) (implies : ∀ past e, P past e → Q past e) :
    Along Q log := by
  induction log with
  | nil => trivial
  | cons e past inductionHypothesis =>
      exact ⟨implies past e along.1, inductionHypothesis along.2⟩

/-- A property that each step has under an assumption on the log up to it holds
along a log that meets the assumption, if every shorter log meets it too. -/
theorem Along.of_assumption {A : List (Entry σ α ρ) → Prop}
    (along : Along (fun past e => A (e :: past) → P past e) log)
    (shrinks : ∀ e past, A (e :: past) → A past) (assumed : A log) : Along P log := by
  induction log with
  | nil => trivial
  | cons e past inductionHypothesis =>
      exact ⟨along.1 assumed, inductionHypothesis along.2 (shrinks e past assumed)⟩

/-- What every step does that meets the guard, given an invariant it keeps,
holds along the whole run. -/
theorem Run.along (initially : ∀ s, sys.initial s → I [] s)
    (each : ∀ log s a r s', Run sys guard log s → I log s → guard log s a →
      sys.step s a = .ok (r, s') → P log ⟨s, a, r, s'⟩ ∧ I (⟨s, a, r, s'⟩ :: log) s')
    (run : Run sys guard log s) : Along P log ∧ I log s := by
  induction run with
  | start initial => exact ⟨trivial, initially _ initial⟩
  | step run met stepped inductionHypothesis =>
      obtain ⟨before, invariant⟩ := inductionHypothesis
      obtain ⟨now, invariant'⟩ := each _ _ _ _ _ run invariant met stepped
      exact ⟨⟨now, before⟩, invariant'⟩

/-- What every step does that meets the guard holds along the whole run. -/
theorem Run.along_of_steps
    (each : ∀ {log s a r s'}, Run sys guard log s → guard log s a →
      sys.step s a = .ok (r, s') → P log ⟨s, a, r, s'⟩)
    (run : Run sys guard log s) : Along P log := by
  induction run with
  | start => trivial
  | step run met stepped inductionHypothesis => exact ⟨each run met stepped, inductionHypothesis⟩

/-- Two properties of the steps hold along the same runs when each step of a run
has the one exactly if it has the other. -/
theorem Run.along_congr
    (same : ∀ {log s a r s'}, Run sys guard log s → sys.step s a = .ok (r, s') →
      (P log ⟨s, a, r, s'⟩ ↔ Q log ⟨s, a, r, s'⟩))
    (run : Run sys guard log s) : Along P log ↔ Along Q log := by
  induction run with
  | start => exact Iff.rfl
  | step run met stepped inductionHypothesis =>
      exact and_congr (same run stepped) inductionHypothesis

/-- Two properties of the steps hold along the same runs when each step has the
one exactly if it has the other, given an invariant that such steps keep. -/
theorem Run.along_iff (initially : ∀ s, sys.initial s → I [] s)
    (same : ∀ log s a r s', Run sys guard log s → I log s → sys.step s a = .ok (r, s') →
      (P log ⟨s, a, r, s'⟩ ↔ Q log ⟨s, a, r, s'⟩))
    (kept : ∀ log s a r s', Run sys guard log s → I log s → sys.step s a = .ok (r, s') →
      Q log ⟨s, a, r, s'⟩ → I (⟨s, a, r, s'⟩ :: log) s')
    (run : Run sys guard log s) : Along P log ↔ Along Q log := by
  have both : (Along P log ↔ Along Q log) ∧ (Along Q log → I log s) := by
    induction run with
    | start initial => exact ⟨Iff.rfl, fun _ => initially _ initial⟩
    | step run met stepped inductionHypothesis =>
        obtain ⟨before, invariant⟩ := inductionHypothesis
        constructor
        · constructor
          · rintro ⟨now, past⟩
            have past := before.mp past
            exact ⟨(same _ _ _ _ _ run (invariant past) stepped).mp now, past⟩
          · rintro ⟨now, past⟩
            exact ⟨(same _ _ _ _ _ run (invariant past) stepped).mpr now, before.mpr past⟩
        · rintro ⟨now, past⟩
          exact kept _ _ _ _ _ run (invariant past) stepped now
  exact both.1

end Along

/-! ### Concrete runs -/

/-- Take a list of actions one after the other, each of which must meet the
guard and succeed. -/
def replayFrom (sys : System σ α ρ ε) (guard : Guard σ α ρ)
    [∀ log s a, Decidable (guard log s a)] :
    List (Entry σ α ρ) → σ → List α → Option (List (Entry σ α ρ) × σ)
  | log, s, [] => some (log, s)
  | log, s, a :: rest =>
      if guard log s a then
        match sys.step s a with
        | .ok (r, s') => replayFrom sys guard (⟨s, a, r, s'⟩ :: log) s' rest
        | .error _ => none
      else none

/-- A replay extends a run. -/
theorem run_of_replayFrom {sys : System σ α ρ ε} {guard : Guard σ α ρ}
    [∀ log s a, Decidable (guard log s a)] {actions : List α} :
    ∀ {log log' : List (Entry σ α ρ)} {s s' : σ}, Run sys guard log s →
      replayFrom sys guard log s actions = some (log', s') → Run sys guard log' s' := by
  induction actions with
  | nil =>
      intro log log' s s' run replayed
      simp only [replayFrom, Option.some.injEq, Prod.mk.injEq] at replayed
      obtain ⟨rfl, rfl⟩ := replayed
      exact run
  | cons a rest inductionHypothesis =>
      intro log log' s s' run replayed
      simp only [replayFrom] at replayed
      split at replayed
      · rename_i met
        split at replayed
        · rename_i r next stepped
          exact inductionHypothesis (run.step met stepped) replayed
        · cases replayed
      · cases replayed

/-- A replay that ends well witnesses a run that does. -/
theorem exists_run_of_replay (sys : System σ α ρ ε) (guard : Guard σ α ρ)
    [∀ log s a, Decidable (guard log s a)] {s : σ} (initial : sys.initial s) (actions : List α)
    (holds : List (Entry σ α ρ) → σ → Prop) [∀ log s, Decidable (holds log s)]
    (ends : (replayFrom sys guard [] s actions).any
      (fun final => decide (holds final.1 final.2)) = true) :
    ∃ log s', Run sys guard log s' ∧ holds log s' := by
  cases replayed : replayFrom sys guard [] s actions with
  | none => simp [replayed] at ends
  | some final =>
      rw [replayed, Option.any_some] at ends
      exact ⟨final.1, final.2, run_of_replayFrom (.start initial) replayed,
        of_decide_eq_true ends⟩

/-- A replay, a step and another replay from there witness a run, a step and a run
that goes on, each under a guard of its own. -/
theorem exists_continuation_of_replay (sys : System σ α ρ ε) (guard later : Guard σ α ρ)
    [∀ log s a, Decidable (guard log s a)] [∀ log s a, Decidable (later log s a)]
    {s₀ : σ} (initial : sys.initial s₀)
    (before : List α) (a : α) (after : List α) (holds : σ → σ → List (Entry σ α ρ) → σ → Prop)
    [∀ s s₁ log s', Decidable (holds s s₁ log s')]
    (ends : (replayFrom sys guard [] s₀ before).any (fun first =>
      match sys.step first.2 a with
      | .ok (_, s₁) => (replayFrom (sys.startingAt s₁) later [] s₁ after).any
          fun final => decide (holds first.2 s₁ final.1 final.2)
      | .error _ => false) = true) :
    ∃ past s r s₁ log s', Run sys guard past s ∧ sys.step s a = .ok (r, s₁) ∧
      Run (sys.startingAt s₁) later log s' ∧ holds s s₁ log s' := by
  cases replayed : replayFrom sys guard [] s₀ before with
  | none => simp [replayed] at ends
  | some first =>
      rw [replayed, Option.any_some] at ends
      cases stepped : sys.step first.2 a with
      | error e => simp [stepped] at ends
      | ok next =>
          rw [stepped] at ends
          obtain ⟨log, s', run, holds⟩ := exists_run_of_replay (sys.startingAt next.2) later
            rfl after (fun log s' => holds first.2 next.2 log s') ends
          exact ⟨first.1, first.2, next.1, next.2, log, s',
            run_of_replayFrom (.start initial) replayed, stepped, run, holds⟩

instance {σ α ρ : Type} (log : List (Entry σ α ρ)) (s : σ) (a : α) :
    Decidable (anyStep log s a) :=
  inferInstanceAs (Decidable True)

end System
