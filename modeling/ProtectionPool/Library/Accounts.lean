/-
Module: ProtectionPool.Library.Accounts
Purpose: Balances of holders and the transfers between them.  What a holder has
  after any number of transfers is what it had, what it received and what it
  spent; a transfer to oneself is both and moves nothing.
Trusted boundary: none
Main exports: Transfer, Transfer.settle, received, spent, Transfer.settle_apply,
  settleAll_apply, Transfer.sum_settle
-/
import Mathlib.Algebra.BigOperators.Group.List.Basic
import Mathlib.Algebra.BigOperators.Group.Finset.Piecewise
import Mathlib.Algebra.Group.Basic
import Mathlib.Logic.Function.Basic
import Mathlib.Tactic.Abel

namespace Accounts

variable {A M : Type} [DecidableEq A] [AddCommGroup M]

/-- An amount one holder passes to another. -/
structure Transfer (A M : Type) where
  payer : A
  payee : A
  amount : M
deriving DecidableEq

/-- What a transfer takes from a holder. -/
def Transfer.debit (t : Transfer A M) (holder : A) : M := if holder = t.payer then t.amount else 0

/-- What a transfer brings to a holder. -/
def Transfer.credit (t : Transfer A M) (holder : A) : M := if holder = t.payee then t.amount else 0

/-- The balances after a transfer. -/
def Transfer.settle (t : Transfer A M) (balances : A → M) : A → M :=
  let debited := Function.update balances t.payer (balances t.payer - t.amount)
  Function.update debited t.payee (debited t.payee + t.amount)

/-- What a holder received in a number of transfers. -/
def received (holder : A) (ts : List (Transfer A M)) : M := (ts.map (·.credit holder)).sum

/-- What a holder spent in a number of transfers. -/
def spent (holder : A) (ts : List (Transfer A M)) : M := (ts.map (·.debit holder)).sum

/-- A transfer debits its payer and credits its payee. -/
theorem Transfer.settle_apply (t : Transfer A M) (balances : A → M) (holder : A) :
    t.settle balances holder = balances holder + t.credit holder - t.debit holder := by
  simp only [settle, credit, debit]
  by_cases paid : holder = t.payee
  · subst paid
    by_cases own : t.payee = t.payer
    · simp [own]
    · simp [own]
  · by_cases pays : holder = t.payer
    · subst pays
      simp [paid]
    · simp [paid, pays]

@[simp] theorem received_nil (holder : A) : received holder ([] : List (Transfer A M)) = 0 := rfl

@[simp] theorem spent_nil (holder : A) : spent holder ([] : List (Transfer A M)) = 0 := rfl

@[simp] theorem received_append (holder : A) (ts us : List (Transfer A M)) :
    received holder (ts ++ us) = received holder ts + received holder us := by
  rw [received, List.map_append, List.sum_append, received, received]

@[simp] theorem spent_append (holder : A) (ts us : List (Transfer A M)) :
    spent holder (ts ++ us) = spent holder ts + spent holder us := by
  rw [spent, List.map_append, List.sum_append, spent, spent]

@[simp] theorem received_singleton (holder : A) (t : Transfer A M) :
    received holder [t] = t.credit holder := by
  simp [received]

@[simp] theorem spent_singleton (holder : A) (t : Transfer A M) :
    spent holder [t] = t.debit holder := by
  simp [spent]

/-- What a holder has after a number of transfers. -/
theorem settleAll_apply (ts : List (Transfer A M)) (balances : A → M) (holder : A) :
    ts.foldl (fun b t => t.settle b) balances holder =
      balances holder + received holder ts - spent holder ts := by
  induction ts generalizing balances with
  | nil => simp
  | cons t ts inductionHypothesis =>
      rw [List.foldl_cons, inductionHypothesis, Transfer.settle_apply,
        ← List.singleton_append, received_append, spent_append, received_singleton,
        spent_singleton]
      abel

/-! ### Supply -/

/-- A holder that gains an amount adds it to what a number of holders have together. -/
theorem sum_update_add {holders : Finset A} {holder : A} (member : holder ∈ holders)
    (balances : A → M) (amount : M) :
    ∑ h ∈ holders, Function.update balances holder (balances holder + amount) h =
      ∑ h ∈ holders, balances h + amount := by
  rw [Finset.sum_update_of_mem member, ← Finset.add_sum_erase holders balances member,
    ← Finset.erase_eq]
  abel

/-- A transfer among a number of holders leaves what they have together as it was. -/
theorem Transfer.sum_settle {holders : Finset A} (t : Transfer A M) (pays : t.payer ∈ holders)
    (receives : t.payee ∈ holders) (balances : A → M) :
    ∑ h ∈ holders, t.settle balances h = ∑ h ∈ holders, balances h := by
  simp only [settle]
  rw [sum_update_add receives, sub_eq_add_neg, sum_update_add pays]
  abel

end Accounts
