/-
Module: ProtectionPool.Library.Daily
Purpose: Counters that are kept for one day and reset lazily: a counter of
  another day reads as zero.  The days are told apart by a number only, which
  may be shared.  Along amounts entered on days that never go backwards and have
  distinct numbers, such a counter reads exactly the sum of the amounts of the
  day.
Trusted boundary: none
Main exports: Daily.sumOn, Daily.Counter, Daily.Distinguishes, Daily.Tracks
-/
import Mathlib.Algebra.Order.Monoid.Defs
import Mathlib.Tactic.Common

namespace Daily

variable {M : Type} [AddCommMonoid M]

/-- The sum of the amounts entered on a day. -/
def sumOn : List (Nat × M) → Nat → M
  | [], _ => 0
  | (entered, amount) :: past, day => (if entered = day then amount else 0) + sumOn past day

/-- A counter with the number of the day it is kept for. -/
structure Counter (M : Type) where
  day : Nat
  total : M

/-- The counter as read on a day. -/
def Counter.read (counter : Counter M) (today : Nat) : M :=
  if counter.day ≠ today then 0 else counter.total

/-- The counter after an amount is entered on a day. -/
def Counter.enter (counter : Counter M) (today : Nat) (amount : M) : Counter M where
  day := today
  total := counter.read today + amount

/-- The days on which amounts were entered have distinct numbers. -/
def Distinguishes (number : Nat → Nat) (entries : List (Nat × M)) : Prop :=
  ∀ entry ∈ entries, ∀ other ∈ entries, number entry.1 = number other.1 → entry.1 = other.1

instance (number : Nat → Nat) (entries : List (Nat × M)) :
    Decidable (Distinguishes number entries) :=
  inferInstanceAs (Decidable (∀ entry ∈ entries, ∀ other ∈ entries, _))

/-- No amount was entered on a day to come, and on every day from today on whose
number no other day of an entry has the counter reads the sum of the day. -/
structure Tracks (number : Nat → Nat) (counter : Counter M) (entries : List (Nat × M))
    (today : Nat) : Prop where
  reached : ∀ entry ∈ entries, entry.1 ≤ today
  read : ∀ day, today ≤ day → (∀ entry ∈ entries, number entry.1 = number day → entry.1 = day) →
    counter.read (number day) = sumOn entries day

variable {number : Nat → Nat} {counter : Counter M} {entries : List (Nat × M)}
  {today later day : Nat} {amount : M}

theorem sumOn_cons_self : sumOn ((day, amount) :: entries) day = amount + sumOn entries day := by
  rw [sumOn, if_pos rfl]

/-- A day without entries has sum zero. -/
theorem sumOn_eq_zero (without : ∀ entry ∈ entries, entry.1 ≠ day) : sumOn entries day = 0 := by
  induction entries with
  | nil => rfl
  | cons entry past inductionHypothesis =>
      rw [sumOn, if_neg (without entry List.mem_cons_self), zero_add]
      exact inductionHypothesis fun older member => without older (List.mem_cons_of_mem _ member)

/-- Amounts that are not negative have sums that are not. -/
theorem sumOn_nonneg [PartialOrder M] [IsOrderedAddMonoid M]
    (nonneg : ∀ entry ∈ entries, 0 ≤ entry.2) : 0 ≤ sumOn entries day := by
  induction entries with
  | nil => exact le_refl 0
  | cons entry past inductionHypothesis =>
      have rest := inductionHypothesis fun older member =>
        nonneg older (List.mem_cons_of_mem _ member)
      rw [sumOn]
      split_ifs
      · exact add_nonneg (nonneg entry List.mem_cons_self) rest
      · rw [zero_add]
        exact rest

/-- A counter reads what was entered on its day last. -/
theorem Counter.read_enter_self : (counter.enter day amount).read day = counter.read day + amount :=
  if_neg (not_not.mpr rfl)

theorem Counter.read_enter_of_ne (other : today ≠ day) :
    (counter.enter today amount).read day = 0 :=
  if_pos other

/-- A fresh counter tracks no entries. -/
theorem Tracks.initially : Tracks number ⟨0, (0 : M)⟩ [] today where
  reached := nofun
  read := fun _ _ _ => ite_self 0

/-- Entering an amount today keeps the counter on track. -/
theorem Tracks.enter (tracks : Tracks number counter entries today) (amount : M) :
    Tracks number (counter.enter (number today) amount) ((today, amount) :: entries) today where
  reached := by
    intro entry member
    rcases List.mem_cons.mp member with rfl | older
    · exact le_refl _
    · exact tracks.reached entry older
  read := by
    intro day notBefore alone
    have older : ∀ entry ∈ entries, number entry.1 = number day → entry.1 = day :=
      fun entry member => alone entry (List.mem_cons_of_mem _ member)
    rcases eq_or_lt_of_le notBefore with rfl | after
    · rw [Counter.read_enter_self, sumOn_cons_self, tracks.read today (le_refl _) older, add_comm]
    · have without : ∀ entry ∈ (today, amount) :: entries, entry.1 ≠ day := by
        intro entry member
        rcases List.mem_cons.mp member with rfl | older
        · exact ne_of_lt after
        · exact ne_of_lt (lt_of_le_of_lt (tracks.reached entry older) after)
      rw [sumOn_eq_zero without]
      apply Counter.read_enter_of_ne
      exact fun shared => without _ List.mem_cons_self (alone _ List.mem_cons_self shared)

/-- Days that pass keep a counter on track. -/
theorem Tracks.pass (tracks : Tracks number counter entries today) (passes : today ≤ later) :
    Tracks number counter entries later where
  reached := fun entry member => (tracks.reached entry member).trans passes
  read := fun day notBefore => tracks.read day (passes.trans notBefore)

/-- A counter on track holds the sum of the day after an amount is entered, if the
days of the entries have distinct numbers. -/
theorem Tracks.total (tracks : Tracks number counter entries today)
    (distinct : Distinguishes number ((today, amount) :: entries)) :
    (counter.enter (number today) amount).total = sumOn ((today, amount) :: entries) today := by
  have reads := (tracks.enter amount).read today (le_refl _) fun entry member =>
    distinct entry member _ List.mem_cons_self
  rw [← reads, Counter.read_enter_self, Counter.enter]

omit [AddCommMonoid M] in
theorem Distinguishes.of_cons {entry : Nat × M}
    (distinct : Distinguishes number (entry :: entries)) : Distinguishes number entries :=
  fun older member other member' => distinct older (List.mem_cons_of_mem _ member) other
    (List.mem_cons_of_mem _ member')

end Daily
