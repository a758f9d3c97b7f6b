/-
Module: ProtectionPool.Library.Matching
Purpose: Two partial maps that are the inverse of each other, such as the slots of
  one table and the owners named in another, under updates of one entry on each
  side: which updates keep them so.
Trusted boundary: none
Main exports: Matching.Inverse, Inverse.unique, Inverse.link, Inverse.unlink,
  Inverse.clear_left_iff, Inverse.clear_right_iff
-/
import Mathlib.Logic.Function.Basic
import Mathlib.Tactic.Common

namespace Matching

variable {α β : Type}

/-- Each map leads exactly to what the other leads back from. -/
def Inverse (f : α → Option β) (g : β → Option α) : Prop :=
  ∀ a b, f a = some b ↔ g b = some a

namespace Inverse

variable {f : α → Option β} {g : β → Option α} {a : α} {b b' : β}

/-- Two entries do not lead back to one. -/
theorem unique (inverse : Inverse f g) (one : g b = some a) (other : g b' = some a) : b = b' := by
  have there := (inverse a b).mpr one
  have back := (inverse a b').mpr other
  exact Option.mem_unique there back

variable [DecidableEq α]

/-- An entry may be cleared on the left alone exactly when it leads nowhere. -/
theorem clear_left_iff (inverse : Inverse f g) :
    Inverse (Function.update f a none) g ↔ f a = none := by
  constructor
  · intro cleared
    rw [Option.eq_none_iff_forall_ne_some]
    intro b leads
    have kept := (cleared a b).mpr ((inverse a b).mp leads)
    rw [Function.update_self] at kept
    cases kept
  · intro vacant
    rwa [← vacant, Function.update_eq_self]

variable [DecidableEq β]

/-- Two entries that lead nowhere may be linked. -/
theorem link (inverse : Inverse f g) (vacant : f a = none) (free : g b = none) :
    Inverse (Function.update f a (some b)) (Function.update g b (some a)) := by
  intro x y
  rcases eq_or_ne x a with rfl | left <;> rcases eq_or_ne y b with rfl | right
  · simp
  · have apart : g y ≠ some x := by
      rw [Ne, ← inverse x y, vacant]
      nofun
    simp [right, apart, right.symm]
  · have apart : f x ≠ some y := by
      rw [Ne, inverse x y, free]
      nofun
    simp [left, apart, left.symm]
  · simpa [left, right] using inverse x y

/-- Two entries that lead to each other may be cleared together. -/
theorem unlink (inverse : Inverse f g) (linked : g b = some a) :
    Inverse (Function.update f a none) (Function.update g b none) := by
  intro x y
  rcases eq_or_ne x a with rfl | left <;> rcases eq_or_ne y b with rfl | right
  · simp
  · have apart : g y ≠ some x := fun leads => right (inverse.unique leads linked)
    simp [right, apart]
  · have apart : f x ≠ some y := by
      rw [Ne, inverse x y, linked]
      exact fun same => left (Option.some.inj same).symm
    simp [left, apart]
  · simpa [left, right] using inverse x y

/-- An entry may be cleared on the right, along with what leads to it on a given left,
exactly when it leads back to nothing else. -/
theorem clear_right_iff (inverse : Inverse f g) :
    Inverse (Function.update f a (if f a = some b then none else f a)) (Function.update g b none) ↔
      ∀ owner, g b = some owner → owner = a := by
  constructor
  · intro cleared owner leads
    by_contra other
    have kept : Function.update f a (if f a = some b then none else f a) owner = some b := by
      rw [Function.update_of_ne other]
      exact (inverse owner b).mpr leads
    have gone := (cleared owner b).mp kept
    rw [Function.update_self] at gone
    cases gone
  · intro own
    by_cases linked : f a = some b
    · rw [if_pos linked]
      exact inverse.unlink ((inverse a b).mp linked)
    · have free : g b = none := by
        rw [Option.eq_none_iff_forall_ne_some]
        rintro owner leads
        obtain rfl := own owner leads
        exact linked ((inverse owner b).mpr leads)
      rwa [if_neg linked, Function.update_eq_self, ← free, Function.update_eq_self]

end Inverse

end Matching
