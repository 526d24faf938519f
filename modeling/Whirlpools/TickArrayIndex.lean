/-
  Whirlpools.TickArrayIndex
  ─────────────────────────
  **A TICK'S (ARRAY, OFFSET) COORDINATES.**

  `tick-array-index.ts` is not in the source: `TickArrayIndex` is modelled
  from the spec (§3 TickIndexCoordinate, §4.1 TickIndexMapper), with floor
  division for negative ticks.  The spacing is `ℕ+`: the pool's spacing is
  positive, and with spacing `0` the JavaScript arithmetic leaves the
  integers.

  Every fact below goes through one number, the ORDINAL
  `arrayIndex * N + offsetIndex` — the tick index in units of the spacing:

    * `fromTickIndex_ordinal` — `fromTickIndex t` has ordinal `⌊t / ts⌋`;
    * `arrayIndex_eq`, `offsetIndex_eq` — the coordinates are
      `⌊ordinal / N⌋` and `ordinal mod N`;
    * `toTickIndex_eq` — `toTickIndex = ordinal * ts`;
    * `toNextInitializableTickIndex_ordinal` / `toPrev…` — one step moves the
      ordinal by exactly one, across array boundaries and across tick 0.
-/
import Whirlpools.Types
import Mathlib.Tactic.Ring

namespace Whirlpools

/-- Modelled from the spec: `TickArrayIndex` (absent from the source).  Its
constructor's checks `0 ≤ offsetIndex < N` and `tickSpacing ≥ 0` are carried
by the types. -/
structure TickArrayIndex (N : Nat) where
  arrayIndex : Int
  offsetIndex : Fin N
  tickSpacing : ℕ+
  deriving DecidableEq, Repr

namespace TickArrayIndex

theorem N_pos (N : Nat) [NeZero N] : (0 : Int) < N := by
  exact_mod_cast Nat.pos_of_ne_zero (NeZero.ne N)

theorem emod_toNat_lt {N : Nat} [NeZero N] (q : Int) : (q % N).toNat < N := by
  have := Int.emod_lt_of_pos q (N_pos N)
  have := Int.emod_nonneg q (N_pos N).ne'
  omega

/-- Modelled from the spec: `arrayIndex = ⌊⌊index / tickSpacing⌋ / N⌋`,
`offsetIndex = ⌊index / tickSpacing⌋ mod N`. -/
def fromTickIndex (N : Nat) [NeZero N] (index : Int) (tickSpacing : ℕ+) :
    TickArrayIndex N where
  arrayIndex := index / tickSpacing / N
  offsetIndex := ⟨(index / tickSpacing % N).toNat, emod_toNat_lt _⟩
  tickSpacing := tickSpacing

variable {N : Nat}

/-- Modelled from the spec: the tick index at these coordinates. -/
def toTickIndex (idx : TickArrayIndex N) : Int :=
  idx.arrayIndex * idx.tickSpacing * N + idx.offsetIndex * idx.tickSpacing

/-- The tick's ordinal: its index in units of the spacing. -/
def ordinal (idx : TickArrayIndex N) : Int := idx.arrayIndex * N + idx.offsetIndex

theorem toTickIndex_eq (idx : TickArrayIndex N) :
    idx.toTickIndex = idx.ordinal * idx.tickSpacing := by
  rw [toTickIndex, ordinal]; ring

variable [NeZero N]

/-- Modelled from the spec: one spacing step toward increasing tick index. -/
def toNextInitializableTickIndex (idx : TickArrayIndex N) : TickArrayIndex N :=
  fromTickIndex N (idx.toTickIndex + idx.tickSpacing) idx.tickSpacing

/-- Modelled from the spec: one spacing step toward decreasing tick index. -/
def toPrevInitializableTickIndex (idx : TickArrayIndex N) : TickArrayIndex N :=
  fromTickIndex N (idx.toTickIndex - idx.tickSpacing) idx.tickSpacing

/-! ## §1. The coordinates are floor quotient and remainder of the ordinal. -/

theorem coords_eq (idx : TickArrayIndex N) :
    idx.ordinal / N = idx.arrayIndex ∧ idx.ordinal % N = idx.offsetIndex :=
  (Int.ediv_emod_unique (N_pos N)).2
    ⟨by rw [ordinal]; ring, by omega, by have := idx.offsetIndex.isLt; omega⟩

theorem arrayIndex_eq (idx : TickArrayIndex N) : idx.arrayIndex = idx.ordinal / N :=
  (coords_eq idx).1.symm

theorem offsetIndex_eq (idx : TickArrayIndex N) :
    (idx.offsetIndex : Int) = idx.ordinal % N :=
  (coords_eq idx).2.symm

/-- Indices with one ordinal and one spacing are equal. -/
theorem ext_ordinal {a b : TickArrayIndex N} (h : a.ordinal = b.ordinal)
    (hs : a.tickSpacing = b.tickSpacing) : a = b := by
  have h1 : a.arrayIndex = b.arrayIndex := by rw [a.arrayIndex_eq, b.arrayIndex_eq, h]
  have h2 : (a.offsetIndex : Int) = b.offsetIndex := by
    rw [a.offsetIndex_eq, b.offsetIndex_eq, h]
  cases a; cases b
  simp only [mk.injEq] at *
  exact ⟨h1, Fin.ext (by exact_mod_cast h2), hs⟩

/-! ## §2. Conversions. -/

@[simp] theorem fromTickIndex_tickSpacing (t : Int) (ts : ℕ+) :
    (fromTickIndex N t ts).tickSpacing = ts := rfl

@[simp] theorem fromTickIndex_arrayIndex (t : Int) (ts : ℕ+) :
    (fromTickIndex N t ts).arrayIndex = t / ts / N := rfl

theorem fromTickIndex_ordinal (t : Int) (ts : ℕ+) :
    (fromTickIndex N t ts).ordinal = t / ts := by
  have h := Int.ediv_add_emod (t / ts) N
  have h0 := Int.emod_nonneg (t / ts) (N_pos N).ne'
  simp only [ordinal, fromTickIndex, Int.toNat_of_nonneg h0]
  rw [mul_comm]; exact h

/-- `fromTickIndex` rounds down to the spacing. -/
theorem toTickIndex_fromTickIndex (t : Int) (ts : ℕ+) :
    (fromTickIndex N t ts).toTickIndex = t / ts * ts := by
  rw [toTickIndex_eq, fromTickIndex_ordinal, fromTickIndex_tickSpacing]

/-- The spec's round trip: an initializable tick is its own coordinates' tick. -/
theorem toTickIndex_fromTickIndex_of_dvd {t : Int} {ts : ℕ+} (h : (ts : Int) ∣ t) :
    (fromTickIndex N t ts).toTickIndex = t := by
  rw [toTickIndex_fromTickIndex, Int.ediv_mul_cancel h]

/-- The index of the tick with ordinal `q`. -/
theorem fromTickIndex_mul_ordinal (q : Int) (ts : ℕ+) :
    (fromTickIndex N (q * ts) ts).ordinal = q := by
  rw [fromTickIndex_ordinal, Int.mul_ediv_cancel _ (by have := ts.pos; omega)]

/-- An index is the coordinates of its own tick. -/
theorem fromTickIndex_toTickIndex (idx : TickArrayIndex N) :
    fromTickIndex N idx.toTickIndex idx.tickSpacing = idx :=
  ext_ordinal (by rw [toTickIndex_eq, fromTickIndex_mul_ordinal]) rfl

/-! ## §3. One step moves the ordinal by one. -/

@[simp] theorem toNextInitializableTickIndex_tickSpacing (idx : TickArrayIndex N) :
    idx.toNextInitializableTickIndex.tickSpacing = idx.tickSpacing := rfl

@[simp] theorem toPrevInitializableTickIndex_tickSpacing (idx : TickArrayIndex N) :
    idx.toPrevInitializableTickIndex.tickSpacing = idx.tickSpacing := rfl

theorem toNextInitializableTickIndex_ordinal (idx : TickArrayIndex N) :
    idx.toNextInitializableTickIndex.ordinal = idx.ordinal + 1 := by
  rw [toNextInitializableTickIndex, toTickIndex_eq,
    show idx.ordinal * idx.tickSpacing + idx.tickSpacing
      = (idx.ordinal + 1) * idx.tickSpacing by ring, fromTickIndex_mul_ordinal]

theorem toPrevInitializableTickIndex_ordinal (idx : TickArrayIndex N) :
    idx.toPrevInitializableTickIndex.ordinal = idx.ordinal - 1 := by
  rw [toPrevInitializableTickIndex, toTickIndex_eq,
    show idx.ordinal * idx.tickSpacing - idx.tickSpacing
      = (idx.ordinal - 1) * idx.tickSpacing by ring, fromTickIndex_mul_ordinal]

end TickArrayIndex

end Whirlpools
