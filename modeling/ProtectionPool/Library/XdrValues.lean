/-
Module: ProtectionPool.Library.XdrValues
Purpose: The XDR encoding of contract values is self-delimiting over all values that fit
  their types, kind by kind: fixed-width integers, length-prefixed data, the two forms
  of an address, and the tagged union of them.
Trusted boundary: none
Main exports: BytesN.toBytes_injective, Xdr.uint_delimiting, Xdr.varData_delimiting,
  Xdr.address_delimiting, ScVal.InRange, ScVal.toXdr_delimiting
-/
import ProtectionPool.Library.Checked
import ProtectionPool.Library.SelfDelimiting
import ProtectionPool.Library.Xdr

/-! ### Fixed widths -/

namespace BytesN

variable {n : Nat}

@[simp] theorem toBytes_length (b : BytesN n) : b.toBytes.length = n := by
  simp [toBytes]

/-- The bytes determine the byte string: each bit is a bit of one of them. -/
theorem toBytes_injective : Function.Injective (toBytes (n := n)) := by
  intro b b' same
  have bytes := List.map_inj_left.mp same
  apply BitVec.eq_of_getLsbD_eq
  intro j inside
  have position : n - 1 - (n - 1 - j / 8) = j / 8 := by omega
  have byte := bytes (n - 1 - j / 8) (List.mem_range.mpr (by omega))
  rw [position] at byte
  have bits : b.extractLsb' (8 * (j / 8)) 8 = b'.extractLsb' (8 * (j / 8)) 8 :=
    congrArg UInt8.toBitVec byte
  have bit := congrArg (fun octet => octet.getLsbD (j % 8)) bits
  have low : j % 8 < 8 := Nat.mod_lt j (by decide)
  simp only [BitVec.getLsbD_extractLsb', low, decide_true, Bool.true_and, Nat.div_add_mod] at bit
  exact bit

theorem toBytes_delimiting : SelfDelimiting Set.univ (toBytes (n := n)) :=
  .of_width (fun b _ => b.toBytes_length) toBytes_injective.injOn

end BytesN

namespace Xdr

@[simp] theorem uint_length (n value : Nat) : (uint n value).length = n :=
  BytesN.toBytes_length _

/-- A number that fits is told apart by its bits. -/
theorem ofNat_injOn (n : Nat) : Set.InjOn (BitVec.ofNat n) {value | value < 2 ^ n} := by
  intro value fits value' fits' same
  have numbers := congrArg BitVec.toNat same
  rwa [BitVec.toNat_ofNat, BitVec.toNat_ofNat, Nat.mod_eq_of_lt fits, Nat.mod_eq_of_lt fits']
    at numbers

theorem uint_delimiting (n : Nat) : SelfDelimiting {value | value < 2 ^ (8 * n)} (uint n) :=
  BytesN.toBytes_delimiting.comp (fun _ _ => trivial) (ofNat_injOn (8 * n))

/-- A signed number that fits is told apart by its two's complement. -/
theorem ofInt_injOn : Set.InjOn (BitVec.ofInt (8 * 16)) {value | Checked.InI128 value} := by
  have restored : ∀ value, Checked.InI128 value → (BitVec.ofInt (8 * 16) value).toInt = value := by
    intro value fits
    apply BitVec.toInt_ofInt_eq_self (by decide) fits.1
    exact Int.lt_of_le_sub_one fits.2
  intro value fits value' fits' same
  have numbers := congrArg BitVec.toInt same
  rwa [restored value fits, restored value' fits'] at numbers

/-- A big-endian signed integer of 16 bytes. -/
def int128 (value : Int) : List UInt8 := @BytesN.toBytes 16 (BitVec.ofInt (8 * 16) value)

theorem int128_delimiting : SelfDelimiting {value | Checked.InI128 value} int128 :=
  BytesN.toBytes_delimiting.comp (fun _ _ => trivial) ofInt_injOn

/-! ### Data and addresses -/

theorem varData_eq :
    varData = fun data => uint 4 data.length ++
      (data ++ List.replicate ((4 - data.length % 4) % 4) 0) :=
  funext fun _ => List.append_assoc _ _ _

/-- The length tells where the data and its padding end. -/
theorem varData_delimiting : SelfDelimiting {data | data.length < 2 ^ (8 * 4)} varData := by
  have padded : ∀ length, SelfDelimiting {data : List UInt8 | data ∈ {data : List UInt8 |
      data.length < 2 ^ (8 * 4)} ∧ data.length = length}
      (fun data => data ++ List.replicate ((4 - data.length % 4) % 4) 0) := by
    intro length data ⟨_, sized⟩ data' ⟨_, sized'⟩ rest rest' same
    simp only [sized, sized', List.append_assoc] at same
    obtain ⟨front, back⟩ := List.append_inj same (sized.trans sized'.symm)
    exact ⟨front, List.append_cancel_left back⟩
  rw [varData_eq]
  exact (uint_delimiting 4).headed (fun _ fits => fits) (fun length _ => padded length)

/-- The number of an address's type. -/
def addressType : Address → Nat
  | .account _ => 0
  | .contract _ => 1

/-- What follows the type of an address. -/
def addressBody : Address → List UInt8
  | .account key => uint 4 0 ++ key.toBytes
  | .contract hash => hash.toBytes

theorem address_eq : address = fun a => uint 4 (addressType a) ++ addressBody a := by
  funext a
  cases a with
  | account key => exact List.append_assoc _ _ _
  | contract hash => rfl

/-- The type tells an account from a contract, and either has a fixed width. -/
theorem address_delimiting : SelfDelimiting Set.univ address := by
  have bodies : ∀ type, SelfDelimiting {a | a ∈ Set.univ ∧ addressType a = type} addressBody := by
    rintro type a ⟨-, rfl⟩ b ⟨-, same⟩ rest rest' equal
    cases a with
    | account key =>
        cases b with
        | account key' =>
            simp only [addressBody, List.append_assoc] at equal
            obtain ⟨rfl, rests⟩ := BytesN.toBytes_delimiting _ trivial _ trivial _ _
              (List.append_cancel_left equal)
            exact ⟨rfl, rests⟩
        | contract hash => cases same
    | contract hash =>
        cases b with
        | account key => cases same
        | contract hash' =>
            obtain ⟨rfl, rests⟩ := BytesN.toBytes_delimiting _ trivial _ trivial _ _ equal
            exact ⟨rfl, rests⟩
  rw [address_eq]
  refine (uint_delimiting 4).headed ?_ (fun type _ => bodies type)
  intro a _
  cases a <;> simp [addressType]

end Xdr

/-! ### Tagged values -/

namespace ScVal

/-- The values that their types hold. -/
def InRange : ScVal → Prop
  | .u32 value => value < 2 ^ (8 * 4)
  | .u64 value => value < 2 ^ (8 * 8)
  | .i128 value => Checked.InI128 value
  | .bytes value | .symbol value => value.length < 2 ^ (8 * 4)
  | .address _ => True

/-- The number of a value's type. -/
def tag : ScVal → Nat
  | .u32 _ => 3
  | .u64 _ => 5
  | .i128 _ => 10
  | .bytes _ => 13
  | .symbol _ => 15
  | .address _ => 18

/-- What follows the number of a value's type. -/
def body : ScVal → List UInt8
  | .u32 value => Xdr.uint 4 value
  | .u64 value => Xdr.uint 8 value
  | .i128 value => Xdr.int128 value
  | .bytes value | .symbol value => Xdr.varData value
  | .address value => Xdr.address value

theorem toXdr_eq : toXdr = fun value => Xdr.uint 4 value.tag ++ value.body := by
  funext value
  cases value <;> rfl

/-- The tag tells the types apart, and each type is self-delimiting. -/
theorem toXdr_delimiting : SelfDelimiting {value | value.InRange} toXdr := by
  have bodies : ∀ number, SelfDelimiting {value | value ∈ {value | value.InRange} ∧
      value.tag = number} body := by
    rintro number a ⟨fits, rfl⟩ b ⟨fits', same⟩ rest rest' equal
    cases a with
    | u32 value =>
        cases b with
        | u32 value' =>
            obtain ⟨rfl, rests⟩ := Xdr.uint_delimiting 4 value fits value' fits' _ _ equal
            exact ⟨rfl, rests⟩
        | u64 | i128 | bytes | symbol | address => cases same
    | u64 value =>
        cases b with
        | u64 value' =>
            obtain ⟨rfl, rests⟩ := Xdr.uint_delimiting 8 value fits value' fits' _ _ equal
            exact ⟨rfl, rests⟩
        | u32 | i128 | bytes | symbol | address => cases same
    | i128 value =>
        cases b with
        | i128 value' =>
            obtain ⟨rfl, rests⟩ := Xdr.int128_delimiting value fits value' fits' _ _ equal
            exact ⟨rfl, rests⟩
        | u32 | u64 | bytes | symbol | address => cases same
    | bytes value =>
        cases b with
        | bytes value' =>
            obtain ⟨rfl, rests⟩ := Xdr.varData_delimiting value fits value' fits' _ _ equal
            exact ⟨rfl, rests⟩
        | u32 | u64 | i128 | symbol | address => cases same
    | symbol value =>
        cases b with
        | symbol value' =>
            obtain ⟨rfl, rests⟩ := Xdr.varData_delimiting value fits value' fits' _ _ equal
            exact ⟨rfl, rests⟩
        | u32 | u64 | i128 | bytes | address => cases same
    | address value =>
        cases b with
        | address value' =>
            obtain ⟨rfl, rests⟩ := Xdr.address_delimiting value trivial value' trivial _ _ equal
            exact ⟨rfl, rests⟩
        | u32 | u64 | i128 | bytes | symbol => cases same
  rw [toXdr_eq]
  refine (Xdr.uint_delimiting 4).headed ?_ (fun number _ => bodies number)
  intro value _
  cases value <;> simp [tag]

theorem toXdr_ne_nil (value : ScVal) : value.toXdr ≠ [] := by
  rw [toXdr_eq, ← List.length_pos_iff, List.length_append, Xdr.uint_length]
  exact Nat.lt_of_lt_of_le (by decide) (Nat.le_add_right 4 _)

end ScVal
