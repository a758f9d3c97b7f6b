/-
Module: ProtectionPool.Library.SelfDelimiting
Purpose: Encodings into lists whose end can be told without looking at what follows.
  They compose: fixed widths, a head that determines how the rest is read, and the
  concatenation of any number of values.
Trusted boundary: none
Main exports: SelfDelimiting, SelfDelimiting.of_width, SelfDelimiting.comp,
  SelfDelimiting.headed, SelfDelimiting.flatMap_inj
-/
import Mathlib.Data.Set.Function

variable {α β γ : Type}

/-- What follows an encoded value of the set leaves no doubt about the value, nor about
where it ends. -/
def SelfDelimiting (S : Set α) (encode : α → List β) : Prop :=
  ∀ a ∈ S, ∀ b ∈ S, ∀ rest rest', encode a ++ rest = encode b ++ rest' → a = b ∧ rest = rest'

namespace SelfDelimiting

variable {S : Set α} {T : Set γ} {encode : α → List β}

/-- A self-delimiting encoding tells its values apart. -/
theorem injOn (delimited : SelfDelimiting S encode) : Set.InjOn encode S := by
  intro a inside b inside' same
  exact (delimited a inside b inside' [] [] (by rw [same])).1

/-- An encoding of fixed width that tells its values apart is self-delimiting. -/
theorem of_width {width : Nat} (fixed : ∀ a ∈ S, (encode a).length = width)
    (injective : Set.InjOn encode S) : SelfDelimiting S encode := by
  intro a inside b inside' rest rest' same
  have widths : (encode a).length = (encode b).length :=
    (fixed a inside).trans (fixed b inside').symm
  obtain ⟨front, back⟩ := List.append_inj same widths
  exact ⟨injective inside inside' front, back⟩

/-- Values may be translated before they are encoded. -/
theorem comp (delimited : SelfDelimiting S encode) {f : γ → α} (maps : Set.MapsTo f T S)
    (injective : Set.InjOn f T) : SelfDelimiting T (fun c => encode (f c)) := by
  intro c inside c' inside' rest rest' same
  obtain ⟨front, back⟩ := delimited _ (maps inside) _ (maps inside') rest rest' same
  exact ⟨injective inside inside' front, back⟩

/-- A head that is self-delimiting, followed by what is self-delimiting among the values
with the same head. -/
theorem headed {head : γ → α} {body : γ → List β} (delimited : SelfDelimiting S encode)
    (maps : Set.MapsTo head T S)
    (bodies : ∀ a ∈ S, SelfDelimiting {c | c ∈ T ∧ head c = a} body) :
    SelfDelimiting T (fun c => encode (head c) ++ body c) := by
  intro c inside c' inside' rest rest' same
  rw [List.append_assoc, List.append_assoc] at same
  obtain ⟨heads, rests⟩ := delimited _ (maps inside) _ (maps inside') _ _ same
  exact bodies (head c) (maps inside) c ⟨inside, rfl⟩ c' ⟨inside', heads.symm⟩ rest rest' rests

/-- The concatenation of any number of encoded values determines them, as long as no
value is encoded by nothing. -/
theorem flatMap_inj (delimited : SelfDelimiting S encode) (nonempty : ∀ a ∈ S, encode a ≠ []) :
    ∀ {values values' : List α}, (∀ a ∈ values, a ∈ S) → (∀ a ∈ values', a ∈ S) →
      values.flatMap encode = values'.flatMap encode → values = values' := by
  intro values
  induction values with
  | nil =>
      intro values' _ inside' same
      cases values' with
      | nil => rfl
      | cons b values' =>
          have empty := (List.append_eq_nil_iff.mp same.symm).1
          exact absurd empty (nonempty b (inside' b List.mem_cons_self))
  | cons a values inductionHypothesis =>
      intro values' inside inside' same
      obtain ⟨first, others⟩ := List.forall_mem_cons.mp inside
      cases values' with
      | nil =>
          have empty := (List.append_eq_nil_iff.mp same).1
          exact absurd empty (nonempty a first)
      | cons b values' =>
          obtain ⟨first', others'⟩ := List.forall_mem_cons.mp inside'
          rw [List.flatMap_cons, List.flatMap_cons] at same
          obtain ⟨rfl, rests⟩ := delimited a first b first' _ _ same
          rw [inductionHypothesis others others' rests]

end SelfDelimiting
