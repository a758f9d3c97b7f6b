/-
Module: ProtectionPool.Library.Xdr
Purpose: Fixed-width byte strings, contract addresses, and the standard XDR
  encoding of the contract values that are hashed or signed: a big-endian type
  tag, big-endian integers, and length-prefixed data padded to four bytes.
Trusted boundary: none
Main exports: BytesN, Address, ScVal, ScVal.toXdr
-/
import Mathlib.Data.Nat.Notation

/-- A byte string of exactly `n` bytes. -/
abbrev BytesN (n : Nat) := BitVec (8 * n)

/-- The bytes of a fixed-width byte string, most significant first. -/
def BytesN.toBytes {n : Nat} (b : BytesN n) : List UInt8 :=
  (List.range n).map fun i => UInt8.ofBitVec (b.extractLsb' (8 * (n - 1 - i)) 8)

/-- An account, named by its Ed25519 key, or a contract, named by its hash. -/
inductive Address where
  | account (key : BytesN 32)
  | contract (hash : BytesN 32)
deriving DecidableEq, Repr

/-- The contract values that occur in hashed or signed byte strings. -/
inductive ScVal where
  | u32 (value : Nat)
  | u64 (value : Nat)
  | i128 (value : Int)
  | bytes (value : List UInt8)
  | symbol (value : List UInt8)
  | address (value : Address)

namespace Xdr

/-- A big-endian unsigned integer of `n` bytes. -/
def uint (n : Nat) (value : Nat) : List UInt8 :=
  BytesN.toBytes (BitVec.ofNat (8 * n) value)

/-- Variable-length data: its length, the data, zero bytes up to a multiple of
four. -/
def varData (data : List UInt8) : List UInt8 :=
  uint 4 data.length ++ data ++ List.replicate ((4 - data.length % 4) % 4) 0

/-- An address: the account form carries the key type, the contract form does
not. -/
def address : Address → List UInt8
  | .account key => uint 4 0 ++ uint 4 0 ++ key.toBytes
  | .contract hash => uint 4 1 ++ hash.toBytes

end Xdr

/-- The XDR encoding of a contract value, type tag first. -/
def ScVal.toXdr : ScVal → List UInt8
  | .u32 value => Xdr.uint 4 3 ++ Xdr.uint 4 value
  | .u64 value => Xdr.uint 4 5 ++ Xdr.uint 8 value
  | .i128 value => Xdr.uint 4 10 ++ @BytesN.toBytes 16 (BitVec.ofInt (8 * 16) value)
  | .bytes value => Xdr.uint 4 13 ++ Xdr.varData value
  | .symbol value => Xdr.uint 4 15 ++ Xdr.varData value
  | .address value => Xdr.uint 4 18 ++ Xdr.address value
