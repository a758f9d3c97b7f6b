/-
Module: ProtectionPool.Library.Replay
Purpose: Runs of a transition system followed from outside: what the steps of a
  log publish, in the order they were taken, and a follower that reads it.  A
  follower that keeps up with each step has kept up with the run.  Lists of
  actions taken one after the other, and when their order makes no difference.
Trusted boundary: none
Main exports: System.trace, System.Run.followed, System.latest, System.after, System.run_of_after,
  System.after_of_ready
-/
import Mathlib.Logic.Function.Basic
import ProtectionPool.Library.Run

namespace System

variable {σ α ρ ε κ ν : Type}

/-- What the steps of a log publish, in the order they were taken. -/
def trace (publish : Entry σ α ρ → List κ) : List (Entry σ α ρ) → List κ
  | [] => []
  | e :: past => trace publish past ++ publish e

variable {sys : System σ α ρ ε} {guard : Guard σ α ρ} {log : List (Entry σ α ρ)} {s : σ}
  {publish : Entry σ α ρ → List κ}

/-- A follower that makes of each step's publications what the step makes of the state
knows the state from the trace alone. -/
theorem Run.followed {view : σ → ν} {follow : ν → κ → ν} {opening : ν}
    (initially : ∀ s, sys.initial s → view s = opening)
    (each : ∀ {log s a r s'}, Run sys guard log s → sys.step s a = .ok (r, s') →
      view s' = (publish ⟨s, a, r, s'⟩).foldl follow (view s))
    (run : Run sys guard log s) : view s = (trace publish log).foldl follow opening := by
  induction run with
  | start initial => exact initially _ initial
  | step run met stepped inductionHypothesis =>
      rw [each run stepped, inductionHypothesis, trace, List.foldl_append]

/-- What the steps of a log last said of each key. -/
def latest [DecidableEq κ] (tells : Entry σ α ρ → Option (κ × ν)) (opening : κ → ν)
    (log : List (Entry σ α ρ)) : κ → ν :=
  (trace (fun e => (tells e).toList) log).foldl
    (fun known told => Function.update known told.1 told.2) opening

/-- A view of the state that changes at the key a step tells of, to what the step says, and
nowhere else is what the log last said. -/
theorem Run.latest_eq [DecidableEq κ] {tells : Entry σ α ρ → Option (κ × ν)} {opening : κ → ν}
    (view : σ → κ → ν) (initially : ∀ s, sys.initial s → view s = opening)
    (each : ∀ {log s a r s'}, Run sys guard log s → sys.step s a = .ok (r, s') →
      view s' = (tells ⟨s, a, r, s'⟩).elim (view s)
        fun told => Function.update (view s) told.1 told.2)
    (run : Run sys guard log s) : view s = latest tells opening log := by
  apply run.followed initially
  intro log s a r s' run stepped
  rw [each run stepped]
  cases tells ⟨s, a, r, s'⟩ <;> rfl

/-- What the log last said of a key, if it was not so from the start, was said by one of
its steps. -/
theorem latest_told [DecidableEq κ] {tells : Entry σ α ρ → Option (κ × ν)} {opening : κ → ν}
    {k : κ} {v : ν} (said : latest tells opening log k = v) (changed : opening k ≠ v) :
    ∃ e ∈ log, tells e = some (k, v) := by
  induction log with
  | nil => exact absurd said changed
  | cons e past inductionHypothesis =>
      have unfolded : latest tells opening (e :: past) =
          (tells e).elim (latest tells opening past)
            fun told => Function.update (latest tells opening past) told.1 told.2 := by
        simp only [latest, trace, List.foldl_append]
        cases tells e <;> rfl
      rw [unfolded] at said
      have older : latest tells opening past k = v → ∃ e' ∈ e :: past, tells e' = some (k, v) := by
        intro before
        obtain ⟨e', member, told⟩ := inductionHypothesis before
        exact ⟨e', List.mem_cons_of_mem _ member, told⟩
      cases told : tells e with
      | none =>
          rw [told] at said
          exact older said
      | some now =>
          rw [told, Option.elim_some] at said
          by_cases own : k = now.1
          · subst own
            rw [Function.update_self] at said
            exact ⟨e, List.mem_cons_self, by rw [told, ← said]⟩
          · rw [Function.update_of_ne own] at said
            exact older said

/-! ### Lists of actions -/

/-- The state after a list of actions, if all of them succeed. -/
def after (sys : System σ α ρ ε) (s : σ) : List α → Except ε σ
  | [] => .ok s
  | a :: rest =>
      match sys.step s a with
      | .ok (_, s') => after sys s' rest
      | .error e => .error e

theorem after_cons {sys : System σ α ρ ε} {s s' : σ} {a : α} {r : ρ} {rest : List α}
    (stepped : sys.step s a = .ok (r, s')) : sys.after s (a :: rest) = sys.after s' rest := by
  simp only [after, stepped]

/-- Actions that all succeed make a run. -/
theorem run_of_after {sys : System σ α ρ ε} {actions : List α} :
    ∀ {log : List (Entry σ α ρ)} {s s' : σ}, Run sys anyStep log s →
      sys.after s actions = .ok s' →
      ∃ log', Run sys anyStep log' s' ∧
        log'.map Entry.action = actions.reverse ++ log.map Entry.action := by
  induction actions with
  | nil =>
      intro log s s' run taken
      obtain rfl := Except.ok.inj taken
      exact ⟨log, run, rfl⟩
  | cons a rest inductionHypothesis =>
      intro log s s' run taken
      simp only [after] at taken
      split at taken
      · rename_i r next stepped
        obtain ⟨log', run', actions'⟩ := inductionHypothesis (run.step trivial stepped) taken
        refine ⟨log', run', ?_⟩
        rw [actions', List.reverse_cons, List.append_assoc]
        rfl
      · cases taken

/-- Actions each of which is taken in a state that is ready for it and for the rest have
the effects that are expected of them. -/
theorem after_of_ready {sys : System σ α ρ ε} {κ : Type} {act : κ → α} {effect : σ → κ → σ}
    {Ready : σ → List κ → Prop}
    (each : ∀ {s k rest}, Ready s (k :: rest) →
      (∃ r, sys.step s (act k) = .ok (r, effect s k)) ∧ Ready (effect s k) rest)
    {keys : List κ} : ∀ {s : σ}, Ready s keys →
      sys.after s (keys.map act) = .ok (keys.foldl effect s) := by
  induction keys with
  | nil => exact fun _ => rfl
  | cons k rest inductionHypothesis =>
      intro s ready
      obtain ⟨⟨r, stepped⟩, next⟩ := each ready
      rw [List.map_cons, List.foldl_cons, after_cons stepped]
      exact inductionHypothesis next

end System
