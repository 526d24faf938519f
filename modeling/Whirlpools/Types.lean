/-
  Whirlpools.Types
  ────────────────
  **THE ACCOUNT SNAPSHOTS A SWAP QUOTE READS, AND WHAT ITS METHODS THROW.**

  `TickData`, `TickArrayData` and `TickArray` are the decoded tick-array
  accounts that `tick-array-sequence.ts` imports from `types/public`.  Only
  the fields the modelled code reads are kept: `initialized` of a tick,
  `startTickIndex` and `ticks` of an account, `address` and `data` of an
  array.  A tick array holds `N = TICK_ARRAY_SIZE` ticks; the constant is not
  in the source, so it is the parameter `N` throughout, and an account whose
  tick list has another length cannot be built (`Mathlib.Vector`).

  Thrown errors keep their text: a plain `Error` carries its message, a
  `WhirlpoolsError` its message and `SwapErrorCode`.
-/
import Mathlib.Data.Vector.Basic
import Mathlib.Data.PNat.Basic

namespace Whirlpools

/-! ## §1. Accounts. -/

/-- An account address.  The modelled code only copies addresses. -/
structure PublicKey where
  key : Nat
  deriving DecidableEq, Repr

/-- `TickData`: the per-tick curve state; the search reads `initialized` only. -/
structure TickData where
  initialized : Bool
  deriving DecidableEq, Repr

/-- `TickArrayData`: `N` consecutive initializable ticks from `startTickIndex`. -/
structure TickArrayData (N : Nat) where
  startTickIndex : Int
  ticks : Mathlib.Vector TickData N
  deriving DecidableEq

/-- `TickArray`: an array's address and its account, `null` when the account
does not exist on chain. -/
structure TickArray (N : Nat) where
  address : PublicKey
  data : Option (TickArrayData N)
  deriving DecidableEq

/-! ## §2. Errors. -/

/-- The `SwapErrorCode`s the tick-array sequence raises. -/
inductive SwapErrorCode where
  | TickArrayIndexNotInitialized
  | TickArraySequenceInvalid
  deriving DecidableEq, Repr

/-- What a method throws: `new Error(message)` or
`new WhirlpoolsError(message, errorCode)`. -/
inductive SdkError where
  | error (message : String)
  | whirlpoolsError (message : String) (errorCode : SwapErrorCode)
  deriving DecidableEq, Repr

end Whirlpools
