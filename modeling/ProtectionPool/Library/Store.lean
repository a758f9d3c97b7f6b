/-
Module: ProtectionPool.Library.Store
Purpose: Finite key-value stores with their lookup and update laws, the sum of
  a weight over all stored entries, and the number of entries that satisfy a
  test.  Both aggregates change by exactly one entry's share under an update.
Trusted boundary: none
Main exports: Store, Store.get, Store.set, Store.remove, Store.total, Store.count,
  Store.All, Store.AgreeOn, Store.Evolves
-/
import Mathlib.Data.Finmap
import Mathlib.Algebra.BigOperators.Group.Finset.Basic
import Mathlib.Algebra.Order.BigOperators.Group.Finset
import Mathlib.Algebra.BigOperators.Ring.Finset
import Mathlib.Tactic.Abel

/-- A finite map from keys to values. -/
abbrev Store (K V : Type) := Finmap (fun _ : K => V)

namespace Store

variable {K V : Type} [DecidableEq K]

/-- The stored value, if there is one. -/
def get (m : Store K V) (k : K) : Option V := m.lookup k

/-- Store a value under a key, replacing any earlier one. -/
def set (m : Store K V) (k : K) (v : V) : Store K V := m.insert k v

/-- Drop a key. -/
def remove (m : Store K V) (k : K) : Store K V := m.erase k

/-- The empty store. -/
def empty : Store K V := ∅

/-! ### Lookup laws -/

@[ext] theorem ext {m n : Store K V} (h : ∀ k, m.get k = n.get k) : m = n :=
  Finmap.ext_lookup h

@[simp] theorem get_empty (k : K) : (empty : Store K V).get k = none :=
  Finmap.lookup_empty k

@[simp] theorem get_set_self (m : Store K V) (k : K) (v : V) :
    (m.set k v).get k = some v :=
  Finmap.lookup_insert m

@[simp] theorem get_set_ne (m : Store K V) {k k' : K} (v : V) (h : k' ≠ k) :
    (m.set k v).get k' = m.get k' :=
  Finmap.lookup_insert_of_ne m h

theorem get_set (m : Store K V) (k k' : K) (v : V) :
    (m.set k v).get k' = if k' = k then some v else m.get k' := by
  split_ifs with h
  · rw [h, get_set_self]
  · exact get_set_ne m v h

@[simp] theorem get_remove_self (m : Store K V) (k : K) : (m.remove k).get k = none :=
  Finmap.lookup_erase k m

@[simp] theorem get_remove_ne (m : Store K V) {k k' : K} (h : k' ≠ k) :
    (m.remove k).get k' = m.get k' :=
  Finmap.lookup_erase_ne h

@[simp] theorem set_set (m : Store K V) (k : K) (v v' : V) :
    (m.set k v).set k v' = m.set k v' :=
  Finmap.insert_insert m

@[simp] theorem set_remove (m : Store K V) (k : K) (v : V) :
    (m.remove k).set k v = m.set k v := by
  ext k'
  by_cases h : k' = k
  · subst h; simp
  · simp [h]

/-- Entries under different keys are written in either order. -/
theorem set_comm (m : Store K V) {k k' : K} (apart : k ≠ k') (v v' : V) :
    (m.set k v).set k' v' = (m.set k' v').set k v :=
  Finmap.insert_insert_of_ne m apart

/-- What an updated store holds: the new entry or an old one under another key. -/
theorem get_set_eq_some {m : Store K V} {k k' : K} {v v' : V} :
    (m.set k v).get k' = some v' ↔ (k' = k ∧ v = v') ∨ (k' ≠ k ∧ m.get k' = some v') := by
  rw [get_set]
  split_ifs with h <;> simp [h]

/-- A key that is stored stays stored under updates. -/
theorem exists_get_set {m : Store K V} {k k' : K} {v : V} (stored : ∃ w, m.get k' = some w) :
    ∃ w, (m.set k v).get k' = some w := by
  by_cases h : k' = k
  · exact ⟨v, by rw [h, get_set_self]⟩
  · obtain ⟨w, stored⟩ := stored
    exact ⟨w, by rw [get_set_ne m v h, stored]⟩

/-- A condition on whatever is stored is one on the stored value. -/
theorem forall_mem_get {m : Store K V} {k : K} {v : V} {P : V → Prop}
    (stored : m.get k = some v) : (∀ w ∈ m.get k, P w) ↔ P v := by
  rw [stored]
  simp only [Option.mem_def, Option.some.injEq, forall_eq']

/-- An update changes a view of the single entries at its key alone. -/
theorem view_set {γ : Type} (view : Option V → γ) (m : Store K V) (k : K) (v : V) :
    (fun k' => view ((m.set k v).get k')) =
      Function.update (fun k' => view (m.get k')) k (view (some v)) := by
  funext k'
  by_cases h : k' = k
  · rw [h, get_set_self, Function.update_self]
  · rw [get_set_ne m v h, Function.update_of_ne h]

/-- An update that looks the same leaves a view of the single entries alone. -/
theorem view_set_of_same {γ : Type} (view : Option V → γ) {m : Store K V} {k : K} {v : V}
    (same : view (some v) = view (m.get k)) :
    (fun k' => view ((m.set k v).get k')) = fun k' => view (m.get k') := by
  rw [view_set, same, Function.update_eq_self k (fun k' => view (m.get k'))]

theorem mem_keys {m : Store K V} {k : K} : k ∈ Finmap.keys m ↔ ∃ v, m.get k = some v := by
  rw [Finmap.mem_keys, Finmap.mem_iff]; rfl

/-! ### Sums over the stored entries -/

/-- The weight of one optional entry; an absent entry weighs nothing. -/
def share (f : V → ℤ) : Option V → ℤ
  | none => 0
  | some v => f v

@[simp] theorem share_none (f : V → ℤ) : share f none = 0 := rfl
@[simp] theorem share_some (f : V → ℤ) (v : V) : share f (some v) = f v := rfl

/-- Replacing an entry by one of the same weight leaves every share alone. -/
theorem share_get_set (f : V → ℤ) {m : Store K V} {k k' : K} {v : V}
    (same : f v = share f (m.get k)) : share f ((m.set k v).get k') = share f (m.get k') := by
  by_cases h : k' = k
  · rw [h, get_set_self, share_some, same]
  · rw [get_set_ne m v h]

/-- The sum of a weight over all stored entries. -/
def total (f : V → ℤ) (m : Store K V) : ℤ := ∑ k ∈ Finmap.keys m, share f (m.get k)

@[simp] theorem total_empty (f : V → ℤ) : total f (empty : Store K V) = 0 := by
  simp [total, empty]

/-- The total taken over any set of keys that covers the store. -/
private theorem total_eq_sum_of_subset (f : V → ℤ) (m : Store K V) {s : Finset K}
    (covers : Finmap.keys m ⊆ s) : total f m = ∑ k ∈ s, share f (m.get k) := by
  refine Finset.sum_subset covers fun k _ absent => ?_
  have missing : m.get k = none := by
    rw [Finmap.mem_keys] at absent
    exact Finmap.lookup_eq_none.mpr absent
  rw [missing, share_none]

/-- An update replaces one entry's share of the total. -/
theorem total_set (f : V → ℤ) (m : Store K V) (k : K) (v : V) :
    total f (m.set k v) = total f m - share f (m.get k) + f v := by
  set s := insert k (Finmap.keys m ∪ Finmap.keys (m.set k v)) with sDef
  have member : k ∈ s := Finset.mem_insert_self _ _
  have before : total f m = ∑ i ∈ s, share f (m.get i) :=
    total_eq_sum_of_subset f m
      (Finset.subset_union_left.trans (Finset.subset_insert _ _))
  have after : total f (m.set k v) = ∑ i ∈ s, share f ((m.set k v).get i) :=
    total_eq_sum_of_subset f _
      (Finset.subset_union_right.trans (Finset.subset_insert _ _))
  have others : ∑ i ∈ s.erase k, share f ((m.set k v).get i) =
      ∑ i ∈ s.erase k, share f (m.get i) :=
    Finset.sum_congr rfl fun i hi => by
      rw [get_set_ne m v (Finset.ne_of_mem_erase hi)]
  rw [before, after, ← Finset.add_sum_erase s _ member, others,
    ← Finset.add_sum_erase s (fun i => share f (m.get i)) member, get_set_self, share_some]
  abel

/-- Replacing an entry by one of the same weight leaves the total alone. -/
theorem total_set_of_eq (f : V → ℤ) {m : Store K V} {k : K} {v v' : V}
    (stored : m.get k = some v) (same : f v' = f v) : total f (m.set k v') = total f m := by
  rw [total_set, stored, share_some, same]
  abel

/-- A weight that is never negative on the stored entries has a non-negative
total. -/
theorem total_nonneg {f : V → ℤ} {m : Store K V}
    (h : ∀ k v, m.get k = some v → 0 ≤ f v) : 0 ≤ total f m := by
  refine Finset.sum_nonneg fun k _ => ?_
  cases stored : m.get k with
  | none => simp
  | some v => exact h k v stored

/-- A weight that vanishes on the stored entries has total zero. -/
theorem total_eq_zero {f : V → ℤ} {m : Store K V} (h : ∀ k v, m.get k = some v → f v = 0) :
    total f m = 0 := by
  refine Finset.sum_eq_zero fun k _ => ?_
  cases stored : m.get k with
  | none => rfl
  | some v => exact h k v stored

/-- A weight that is nowhere above another has no larger total. -/
theorem total_le_total {f g : V → ℤ} {m : Store K V}
    (h : ∀ k v, m.get k = some v → f v ≤ g v) : total f m ≤ total g m := by
  refine Finset.sum_le_sum fun k _ => ?_
  cases stored : m.get k with
  | none => exact le_refl 0
  | some v => exact h k v stored

/-- No entry weighs more than the whole when all weights are non-negative. -/
theorem le_total {f : V → ℤ} {m : Store K V}
    (h : ∀ k v, m.get k = some v → 0 ≤ f v) {k : K} {v : V} (stored : m.get k = some v) :
    f v ≤ total f m := by
  have member : k ∈ Finmap.keys m := mem_keys.mpr ⟨v, stored⟩
  have single := Finset.single_le_sum (f := fun k => share f (m.get k))
    (fun i _ => by
      cases found : m.get i with
      | none => simp
      | some w => exact h i w found) member
  rw [stored, share_some] at single
  exact single

/-- Distinct keys share no more than the whole when all weights are non-negative. -/
theorem sum_share_le_total {f : V → ℤ} {m : Store K V}
    (h : ∀ k v, m.get k = some v → 0 ≤ f v) {ks : List K} (distinct : ks.Nodup) :
    (ks.map fun k => share f (m.get k)).sum ≤ total f m := by
  have shares : ∀ k, 0 ≤ share f (m.get k) := by
    intro k
    cases stored : m.get k with
    | none => exact le_refl 0
    | some v => exact h k v stored
  have covers : Finmap.keys m ⊆ ks.toFinset ∪ Finmap.keys m := Finset.subset_union_right
  rw [← List.sum_toFinset _ distinct, total_eq_sum_of_subset f m covers]
  exact Finset.sum_le_sum_of_subset_of_nonneg Finset.subset_union_left fun k _ _ => shares k

/-! ### Counting entries -/

/-- The number of stored entries that satisfy a test. -/
def count (p : V → Bool) (m : Store K V) : ℕ :=
  (Finset.filter (fun k => ((m.get k).map p).getD false = true) (Finmap.keys m)).card

/-- Counting is summing an indicator. -/
theorem count_eq_total (p : V → Bool) (m : Store K V) :
    (count p m : ℤ) = total (fun v => if p v then 1 else 0) m := by
  rw [count, total, Finset.card_filter, Nat.cast_sum]
  refine Finset.sum_congr rfl fun k _ => ?_
  cases m.get k <;> simp

/-- An update replaces one entry's share of the count. -/
theorem count_set (p : V → Bool) (m : Store K V) (k : K) (v : V) :
    (count p (m.set k v) : ℤ) =
      count p m - share (fun v => if p v then 1 else 0) (m.get k) + if p v then 1 else 0 := by
  rw [count_eq_total, total_set, ← count_eq_total]

@[simp] theorem count_empty (p : V → Bool) : count p (empty : Store K V) = 0 := by
  have counted := count_eq_total p (empty : Store K V)
  rw [total_empty] at counted
  exact_mod_cast counted

/-- A store that holds a counted entry has a positive count. -/
theorem count_pos {p : V → Bool} {m : Store K V} {k : K} {v : V}
    (stored : m.get k = some v) (holds : p v = true) : 0 < count p m := by
  rw [count, Finset.card_pos]
  exact ⟨k, by simp [mem_keys, stored, holds]⟩

/-! ### Quantifying over the stored entries -/

/-- Every stored entry satisfies a relation between its key and its value. -/
def All (P : K → V → Prop) (m : Store K V) : Prop := ∀ k v, m.get k = some v → P k v

theorem all_empty {P : K → V → Prop} : All P (empty : Store K V) := by
  intro k v stored
  rw [get_empty] at stored
  cases stored

/-- An update by an entry that satisfies the relation keeps it for all. -/
theorem All.set {P : K → V → Prop} {m : Store K V} (all : All P m) {k : K} {v : V} (holds : P k v) :
    All P (m.set k v) := by
  intro k' v' stored
  rcases get_set_eq_some.mp stored with ⟨rfl, rfl⟩ | ⟨-, stored⟩
  · exact holds
  · exact all k' v' stored

/-- An update keeps the relation exactly when its entry satisfies it. -/
theorem All.set_iff {P : K → V → Prop} {m : Store K V} (all : All P m) {k : K} {v : V} :
    All P (m.set k v) ↔ P k v :=
  ⟨fun updated => updated k v (get_set_self m k v), all.set⟩

/-- Dropping an entry keeps it for all that are left. -/
theorem All.remove {P : K → V → Prop} {m : Store K V} (all : All P m) (k : K) :
    All P (m.remove k) := by
  intro k' v' stored
  by_cases same : k' = k
  · rw [same, get_remove_self] at stored
    cases stored
  · rw [get_remove_ne m same] at stored
    exact all k' v' stored

/-- Replacing an entry by one that satisfies the relation whenever the old one
did keeps it for all. -/
theorem All.update {P : K → V → Prop} {m : Store K V} (all : All P m) {k : K} {v v' : V}
    (stored : m.get k = some v) (kept : P k v → P k v') : All P (m.set k v') :=
  all.set (kept (all k v stored))

theorem All.imp {P Q : K → V → Prop} {m : Store K V} (all : All P m)
    (implies : ∀ k v, P k v → Q k v) : All Q m :=
  fun k v stored => implies k v (all k v stored)

theorem all_iff_keys {P : K → V → Prop} {m : Store K V} :
    All P m ↔ ∀ k ∈ Finmap.keys m, ∀ v ∈ m.get k, P k v := by
  constructor
  · intro h k _ v stored
    exact h k v stored
  · intro h k v stored
    exact h k (mem_keys.mpr ⟨v, stored⟩) v stored

instance {P : K → V → Prop} [∀ k v, Decidable (P k v)] (m : Store K V) : Decidable (All P m) :=
  decidable_of_iff _ all_iff_keys.symm

/-! ### Entries of one kind -/

/-- Two stores hold the same entries whose value is of a given kind. -/
def AgreeOn (P : V → Prop) (m m' : Store K V) : Prop :=
  ∀ k v, P v → (m'.get k = some v ↔ m.get k = some v)

section AgreeOn

variable {P : V → Prop} {m : Store K V} {k : K} {v v' : V}

theorem AgreeOn.refl (m : Store K V) : AgreeOn P m m := fun _ _ _ => Iff.rfl

/-- Writing an entry of another kind over at most one of another kind leaves those of
the kind. -/
theorem agreeOn_set (new : ¬ P v) (old : ∀ v', m.get k = some v' → ¬ P v') :
    AgreeOn P m (m.set k v) := by
  intro k' w kind
  by_cases same : k' = k
  · rw [same, get_set_self]
    constructor
    · intro stored
      exact absurd (Option.some.inj stored ▸ kind) new
    · intro stored
      exact absurd kind (old w stored)
  · rw [get_set_ne m v same]

/-- Replacing an entry of another kind by one of another kind leaves those of the
kind. -/
theorem agreeOn_update (stored : m.get k = some v) (old : ¬ P v) (new : ¬ P v') :
    AgreeOn P m (m.set k v') := by
  apply agreeOn_set new
  intro w found
  rw [stored] at found
  exact Option.some.inj found ▸ old

/-- Dropping an entry of another kind leaves those of the kind. -/
theorem agreeOn_remove (old : ∀ v, m.get k = some v → ¬ P v) : AgreeOn P m (m.remove k) := by
  intro k' w kind
  by_cases same : k' = k
  · rw [same, get_remove_self]
    constructor
    · nofun
    · intro stored
      exact absurd kind (old w stored)
  · rw [get_remove_ne m same]

end AgreeOn

/-! ### Entries that change one by one -/

/-- Two stores hold entries under the same keys, each related to the earlier one. -/
structure Evolves (R : K → V → V → Prop) (m m' : Store K V) : Prop where
  origin : ∀ {k v'}, m'.get k = some v' → ∃ v, m.get k = some v ∧ R k v v'
  stays : ∀ {k v}, m.get k = some v → ∃ v', m'.get k = some v'

section Evolves

variable {R S : K → V → V → Prop} {m m' : Store K V} {k : K} {v v' : V}

theorem Evolves.refl (reflexive : ∀ k v, R k v v) (m : Store K V) : Evolves R m m where
  origin stored := ⟨_, stored, reflexive _ _⟩
  stays stored := ⟨_, stored⟩

theorem Evolves.imp (evolves : Evolves R m m') (implies : ∀ k v v', R k v v' → S k v v') :
    Evolves S m m' where
  origin stored := by
    obtain ⟨v, first, related⟩ := evolves.origin stored
    exact ⟨v, first, implies _ _ _ related⟩
  stays := evolves.stays

/-- An entry that is rewritten stays related to what it was at first. -/
theorem Evolves.rewrite (evolves : Evolves R m m') (stored : m'.get k = some v)
    (keeps : ∀ first, R k first v → R k first v') : Evolves R m (m'.set k v') where
  origin found := by
    rcases get_set_eq_some.mp found with ⟨rfl, rfl⟩ | ⟨-, before⟩
    · obtain ⟨first, origin, related⟩ := evolves.origin stored
      exact ⟨first, origin, keeps first related⟩
    · exact evolves.origin before
  stays first := exists_get_set (evolves.stays first)

end Evolves

end Store
