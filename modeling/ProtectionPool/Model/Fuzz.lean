/-
Module: ProtectionPool.Model.Fuzz
Purpose: The fuzz target `fuzz_solvency`: a sequence of operations on four wallets, each
  tried against the deployed pool with its failure ignored, and the assertion made after
  each of them.
Trusted boundary: human-reviewed spec
Main exports: FuzzSetup, SolvencyOp, SolvencyOp.action, fuzzStep, Asserted, fuzzSolvency
-/
import ProtectionPool.Model.Contract

namespace ProtectionPool

variable {D : Type} [DecidableEq D]

/-- The fixed parties of the target: `NUM_WALLETS` wallets, the beneficiary of each, the
oracle and the signature its key makes.  `mock_all_auths` lets everybody sign. -/
structure FuzzSetup where
  env : Env
  wallets : Fin 4 → Address
  beneficiaries : Fin 4 → Address
  oracle : Address
  sign : List UInt8 → BytesN 64

/-- `Op` of `fuzz_solvency`. -/
inductive SolvencyOp where
  | stake (wallet : UInt8) (amount : Int)
  | withdraw (wallet : UInt8)
  | submitClaim (wallet : UInt8) (entitlement : Int) (tier : UInt8)
  | claimStream (claimIdx : UInt8)
  | cancelClaim (claimIdx : UInt8)
  | advanceDays (days : UInt8)
deriving DecidableEq, Repr

/-- What the target keeps: the pool, and the claims it submitted with their beneficiaries. -/
structure FuzzState (D : Type) where
  pool : State D
  claims : List (D × Address)

/-- The index of a wallet. -/
def walletIndex (wallet : UInt8) : Fin 4 := Fin.ofNat 4 wallet.toNat

/-- `BytesN::from_array(&env, &[seed; 32])` -/
def repeatedByte (seed : UInt8) : BytesN 32 :=
  BitVec.ofNat (8 * 32)
    ((List.replicate 32 seed.toNat).foldl (fun bytes byte => bytes * 256 + byte) 0)

/-- The claim an operation picks. -/
def FuzzState.pick (f : FuzzState D) (claimIdx : UInt8) : Option (D × Address) :=
  f.claims[claimIdx.toNat % f.claims.length]?

/-- What an operation asks of the pool: nothing where it picks a claim and there is none. -/
def SolvencyOp.action (host : Host D) (setup : FuzzSetup) (f : FuzzState D) :
    SolvencyOp → Option (Action D)
  | .stake wallet amount =>
      some (.invoke setup.env (.stake (setup.wallets (walletIndex wallet)) amount
        (setup.beneficiaries (walletIndex wallet))))
  | .withdraw wallet =>
      some (.invoke setup.env (.withdraw (setup.wallets (walletIndex wallet))
        (setup.beneficiaries (walletIndex wallet))))
  | .submitClaim wallet entitlement tier =>
      let hash := repeatedByte (UInt8.ofNat f.claims.length)
      let now := f.pool.timestamp
      let tierVal := 1 + tier.toNat % 3
      let deadline := now + 3600
      let payload := buildApprovalPayload host (setup.wallets (walletIndex wallet)) hash entitlement
        tierVal now deadline
      some (.invoke setup.env (.submitClaim setup.oracle (setup.wallets (walletIndex wallet)) hash
        entitlement tierVal now deadline (setup.sign payload)))
  | .claimStream claimIdx =>
      (f.pick claimIdx).map fun claim => .invoke setup.env (.claimStream claim.1 claim.2)
  | .cancelClaim claimIdx =>
      (f.pick claimIdx).map fun claim => .invoke setup.env (.cancelClaim claim.1)
  | .advanceDays days =>
      let d := 1 + days.toNat % 100
      some (.closeLedger (f.pool.sequence + d * 17280) (f.pool.timestamp + d * 86400))

/-- The claims the target remembers after a call that succeeded. -/
def SolvencyOp.remembered (setup : FuzzSetup) (f : FuzzState D) (output : Output D) :
    SolvencyOp → List (D × Address)
  | .submitClaim wallet _ _ =>
      match output with
      | .claimId id => f.claims ++ [(id, setup.beneficiaries (walletIndex wallet))]
      | _ => f.claims
  | _ => f.claims

/-- One operation, its failure ignored. -/
def fuzzStep (host : Host D) (setup : FuzzSetup) (f : FuzzState D) (op : SolvencyOp) :
    FuzzState D :=
  match op.action host setup f with
  | none => f
  | some action =>
      match poolStep host f.pool action with
      | .ok (output, pool) => { pool := pool, claims := op.remembered setup f output }
      | .error _ => f

/-- What the target asserts after every operation. -/
def Asserted (s : State D) : Prop :=
  s.totalAllocated ≤ s.totalStaked ∧ 0 ≤ s.totalAllocated ∧ 0 ≤ s.totalStaked

instance (s : State D) : Decidable (Asserted s) := inferInstanceAs (Decidable (_ ∧ _ ∧ _))

/-- The target: every sequence of operations from a deployed pool. -/
def fuzzSolvency (host : Host D) (setup : FuzzSetup) :
    System (FuzzState D) SolvencyOp Unit Failure where
  initial := fun f => Deployed host f.pool ∧ f.claims = []
  step := fun f op => .ok ((), fuzzStep host setup f op)

end ProtectionPool
