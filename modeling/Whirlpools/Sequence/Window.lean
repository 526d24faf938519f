/-
  Whirlpools.Sequence.Window
  ──────────────────────────
  **WHAT THE WINDOW IS FOR: A MAP FROM TICK INDEX TO TICK.**

  The abstract view of a sequence: `windowTick t` is the tick that the first
  array covering `t` holds there (`TickArrayData.tickAt`, entry
  `(t - startTickIndex) / ts`).  This says nothing about slots or local
  indices; `getTick` is shown to refine it on well-formed windows — the
  windows the callers build, slot `k` starting at `(base ∓ k) * ts * N`.

  Main results:
    * `tickAt_of_start` — an array starting on a multiple of `ts * N` holds
      exactly the ticks whose array index is its own;
    * `windowTick_of_not_inBounds` / `getTick_eq_windowTick` — on a
      well-formed window, `getTick` returns the window's tick and marks its
      slot, and the window has no tick outside the slots `getTick` accepts;
    * `getTick_in_window` — the two outcomes of `getTick`, with the flags
      each leaves;
    * `getTick_ok_tickAt` — on ANY window of aligned arrays, a returned tick
      is the array's tick at `t`, except at the first tick past the array,
      which the inclusive range check lets through;
    * `getTick_duplicatedWindow_returns_tick_zero` — on a window whose two
      slots hold one array, `getTick` returns a tick the window lacks.
-/
import Whirlpools.TickArraySequence
import Mathlib.Tactic.Linarith

namespace Whirlpools

open TickArrayIndex

variable {N : Nat} [NeZero N]

/-! ## §1. The ticks an account holds. -/

/-- The tick an account holds at `t`: entry `(t - startTickIndex) / ts`, when `t`
lies in its `N` spacing intervals `[startTickIndex, startTickIndex + ts * N)`. -/
def TickArrayData.tickAt (d : TickArrayData N) (ts : ℕ+) (t : Int) : Option TickData :=
  if d.startTickIndex ≤ t ∧ t < d.startTickIndex + ts * N then
    d.ticks.toList[((t - d.startTickIndex) / ts).toNat]?
  else none

theorem ts_pos (ts : ℕ+) : (0 : Int) < ts := by have := ts.pos; omega

/-- The `N` spacings from `s * ts * N` are the ticks with array index `s`. -/
theorem mem_block_iff (N : Nat) [NeZero N] (ts : ℕ+) (s t : Int) :
    (s * ts * N ≤ t ∧ t < s * ts * N + ts * N) ↔ t / ts / N = s := by
  have hN := N_pos N
  have hts := ts_pos ts
  rw [show s * ts * N + ts * N = (s + 1) * N * ts by ring,
    show s * ts * N = s * N * ts by ring, ← Int.le_ediv_iff_mul_le hts,
    ← Int.ediv_lt_iff_lt_mul hts, ← Int.le_ediv_iff_mul_le hN, ← Int.ediv_lt_iff_lt_mul hN]
  omega

/-- An array starting at `s * ts * N` holds the ticks with array index `s`,
each at entry `⌊t/ts⌋ mod N`. -/
theorem tickAt_of_start {d : TickArrayData N} {ts : ℕ+} {s : Int}
    (hs : d.startTickIndex = s * ts * N) (t : Int) :
    d.tickAt ts t = if t / ts / N = s then d.ticks.toList[(t / ts % N).toNat]? else none := by
  have hts := ts_pos ts
  have hrange := mem_block_iff N ts s t
  rw [← hs] at hrange
  have hoff : (t - d.startTickIndex) / ts = t / ts - s * N := by
    rw [hs, show t - s * ts * N = t + -(s * N) * ts by ring,
      Int.add_mul_ediv_right _ _ hts.ne']
    ring
  unfold TickArrayData.tickAt
  by_cases h : t / ts / N = s
  · rw [if_pos (hrange.2 h), if_pos h, hoff, Int.emod_def, h, mul_comm]
  · rw [if_neg (mt hrange.1 h), if_neg h]

/-- The unique element on which `f` answers decides `findSome?`. -/
theorem findSome?_eq_of_unique {α β : Type} {f : α → Option β} :
    ∀ {l : List α} {k : Nat} {x : α} {v : β}, l[k]? = some x → f x = some v →
      (∀ j y, l[j]? = some y → j ≠ k → f y = none) → l.findSome? f = some v
  | [], _, _, _, hx, _, _ => by simp at hx
  | y :: l, 0, x, v, hx, hv, hu => by
    simp only [List.getElem?_cons_zero, Option.some.injEq] at hx
    subst hx; simp [List.findSome?_cons, hv]
  | y :: l, k + 1, x, v, hx, hv, hu => by
    have hy : f y = none := hu 0 y (by simp) (by omega)
    rw [List.findSome?_cons, hy]
    exact findSome?_eq_of_unique (by simpa using hx) hv fun j z hz hj =>
      hu (j + 1) z (by simpa using hz) (by omega)

namespace TickArraySequence

variable (seq : TickArraySequence N)

/-! ## §2. Well-formed windows and the window's ticks. -/

/-- The array index slot `k` holds in a well-formed window. -/
def slotArrayIndex (k : Nat) : Int :=
  if seq.aToB then seq.startArrayIndex - k else seq.startArrayIndex + k

/-- A well-formed window: every slot holds data, and slot `k` starts at
`(base - k) * ts * N` for `aToB`, `(base + k) * ts * N` otherwise, where
`base = startArrayIndex`. -/
def WellFormed : Prop :=
  ∀ k < seq.tickArrays.length, ∃ d, (seq.tickArrays[k]?).bind TickArray.data = some d ∧
    d.startTickIndex = seq.slotArrayIndex k * seq.tickSpacing * N

/-- The window's tick at `t`: the one the first array covering `t` holds. -/
def windowTick (t : Int) : Option TickData :=
  seq.tickArrays.findSome? fun ta => ta.data.bind fun d => d.tickAt seq.tickSpacing t

theorem getLocalArrayIndex_slotArrayIndex (k : Nat) :
    seq.getLocalArrayIndex (seq.slotArrayIndex k) seq.aToB = k := by
  unfold getLocalArrayIndex slotArrayIndex; split <;> omega

theorem slotArrayIndex_getLocalArrayIndex {a : Int}
    (h : 0 ≤ seq.getLocalArrayIndex a seq.aToB) :
    seq.slotArrayIndex (seq.getLocalArrayIndex a seq.aToB).toNat = a := by
  unfold getLocalArrayIndex slotArrayIndex at *; split <;> simp_all

theorem inBounds_iff_local (t : Int) :
    seq.isArrayIndexInBounds (fromTickIndex N t seq.tickSpacing) seq.aToB = true ↔
      0 ≤ seq.getLocalArrayIndex (t / seq.tickSpacing / N) seq.aToB ∧
        seq.getLocalArrayIndex (t / seq.tickSpacing / N) seq.aToB < seq.tickArrays.length := by
  simp [isArrayIndexInBounds]

variable {seq}

/-- Outside the slots `getTick` accepts, a well-formed window has no tick. -/
theorem windowTick_of_not_inBounds (hwf : seq.WellFormed) {t : Int}
    (h : seq.isArrayIndexInBounds (fromTickIndex N t seq.tickSpacing) seq.aToB = false) :
    seq.windowTick t = none := by
  unfold windowTick
  rw [List.findSome?_eq_none_iff]
  intro ta hta
  obtain ⟨j, hj, rfl⟩ := List.getElem_of_mem hta
  obtain ⟨d, hd, hs⟩ := hwf j hj
  simp only [List.getElem?_eq_getElem hj, Option.some_bind] at hd
  rw [hd, Option.some_bind, tickAt_of_start hs, if_neg]
  intro he
  have := (seq.inBounds_iff_local t).not.1 (by simp [h])
  rw [he, getLocalArrayIndex_slotArrayIndex] at this
  omega

/-- On a well-formed window, `getTick` in bounds returns the window's tick at
`t` and marks slot `k`, the local index of `t`'s array. -/
theorem getTick_eq_windowTick (hwf : seq.WellFormed) {t : Int}
    (h : seq.isArrayIndexInBounds (fromTickIndex N t seq.tickSpacing) seq.aToB = true) :
    ∃ d v, (seq.tickArrays[(seq.getLocalArrayIndex (t / seq.tickSpacing / N)
        seq.aToB).toNat]?).bind TickArray.data = some d ∧
      d.ticks.toList[(t / seq.tickSpacing % N).toNat]? = some v ∧
      seq.windowTick t = some v ∧
      ∀ tf, seq.getTick t tf = .ok v
        (tf.set (seq.getLocalArrayIndex (t / seq.tickSpacing / N) seq.aToB).toNat 1) := by
  have hN := N_pos N
  have hts := ts_pos seq.tickSpacing
  obtain ⟨h0, hL⟩ := (seq.inBounds_iff_local t).1 h
  set k := (seq.getLocalArrayIndex (t / seq.tickSpacing / N) seq.aToB).toNat with hk
  obtain ⟨d, hd, hs⟩ := hwf k (by omega)
  rw [slotArrayIndex_getLocalArrayIndex seq h0] at hs
  have hoff : (t / seq.tickSpacing % N).toNat < d.ticks.toList.length := by
    simpa using emod_toNat_lt (t / seq.tickSpacing)
  refine ⟨d, _, hd, List.getElem?_eq_getElem hoff, ?_, fun tf => ?_⟩
  · obtain ⟨x, hx, hxd⟩ : ∃ x, seq.tickArrays[k]? = some x ∧ x.data = some d := by
      simpa [Option.bind_eq_some] using hd
    refine findSome?_eq_of_unique hx ?_ fun j y hy hjk => ?_
    · rw [hxd, Option.some_bind, tickAt_of_start hs, if_pos rfl,
        List.getElem?_eq_getElem hoff]
    · obtain ⟨d', hd', hs'⟩ := hwf j (List.getElem?_eq_some_iff.1 hy).1
      rw [hy, Option.some_bind] at hd'
      rw [hd', Option.some_bind, tickAt_of_start hs', if_neg]
      intro he
      have := seq.getLocalArrayIndex_slotArrayIndex j
      rw [← he] at this
      omega
  · have hrange : seq.checkIfIndexIsInTickArrayRange d.startTickIndex t = true := by
      have := (mem_block_iff N seq.tickSpacing _ t).2 rfl
      simp only [checkIfIndexIsInTickArrayRange, hs, Bool.not_eq_true', Bool.or_eq_false_iff,
        decide_eq_false_iff_not, not_lt]
      omega
    simp only [getTick, h, Bool.not_true, Bool.false_eq_true, if_false,
      fromTickIndex_arrayIndex, ← hk, hd, hrange, Bool.not_true]
    rfl

/-! ## §3. `getTick` on a well-formed window, every tick index. -/

/-- **`getTick` on a well-formed window.**  With `a = ⌊⌊t/ts⌋/N⌋`: when `a`
is one of the window's array indices, `getTick t` returns entry
`⌊t/ts⌋ mod N` of slot `|base - a|` — the window's tick at `⌊t/ts⌋ * ts` — and
sets that slot's flag alone; otherwise it throws the out-of-bounds error and
leaves every flag as it was.  The flags are a reachable state: one per slot. -/
theorem getTick_in_window (hwf : seq.WellFormed) (touchedArrays : List Nat)
    (hlen : touchedArrays.length = seq.tickArrays.length) (t : Int) :
    let a := t / seq.tickSpacing / N
    let k := (seq.startArrayIndex - a).natAbs
    ((if seq.aToB then seq.startArrayIndex - seq.tickArrays.length < a ∧ a ≤ seq.startArrayIndex
        else seq.startArrayIndex ≤ a ∧ a < seq.startArrayIndex + seq.tickArrays.length) →
      ∃ d v touched', (seq.tickArrays[k]?).bind TickArray.data = some d ∧
        d.ticks.toList[(t / seq.tickSpacing % N).toNat]? = some v ∧
        seq.windowTick (t / seq.tickSpacing * seq.tickSpacing) = some v ∧
        seq.getTick t touchedArrays = .ok v touched' ∧
        touched'.length = touchedArrays.length ∧
        ∀ j, touched'[j]? = if j = k then some 1 else touchedArrays[j]?) ∧
    (¬ (if seq.aToB then
          seq.startArrayIndex - seq.tickArrays.length < a ∧ a ≤ seq.startArrayIndex
        else seq.startArrayIndex ≤ a ∧ a < seq.startArrayIndex + seq.tickArrays.length) →
      seq.getTick t touchedArrays =
        .error (.error "Provided tick index is out of bounds for this sequence.") touchedArrays) := by
  dsimp only
  have hts := ts_pos seq.tickSpacing
  have hiff : seq.isArrayIndexInBounds (fromTickIndex N t seq.tickSpacing) seq.aToB = true ↔
      if seq.aToB then seq.startArrayIndex - seq.tickArrays.length < t / seq.tickSpacing / N ∧
        t / seq.tickSpacing / N ≤ seq.startArrayIndex
      else seq.startArrayIndex ≤ t / seq.tickSpacing / N ∧
        t / seq.tickSpacing / N < seq.startArrayIndex + seq.tickArrays.length := by
    rw [inBounds_iff_local]; unfold getLocalArrayIndex; split <;> omega
  refine ⟨fun hin => ?_, fun hout =>
    getTick_of_not_inBounds seq _ (Bool.eq_false_iff.2 fun h => hout (hiff.1 h))⟩
  have h := hiff.2 hin
  obtain ⟨h0, hL⟩ := (seq.inBounds_iff_local t).1 h
  have hk : (seq.startArrayIndex - t / seq.tickSpacing / N).natAbs
      = (seq.getLocalArrayIndex (t / seq.tickSpacing / N) seq.aToB).toNat := by
    rcases Bool.eq_false_or_eq_true seq.aToB with hb | hb <;>
      simp only [getLocalArrayIndex, hb, if_true, if_false, Bool.false_eq_true] at h0 ⊢ <;> omega
  obtain ⟨d, v, hd, hv, -, hg⟩ := getTick_eq_windowTick hwf h
  have e : t / seq.tickSpacing * seq.tickSpacing / seq.tickSpacing = t / seq.tickSpacing :=
    Int.mul_ediv_cancel _ hts.ne'
  have h' : seq.isArrayIndexInBounds
      (fromTickIndex N (t / seq.tickSpacing * seq.tickSpacing) seq.tickSpacing) seq.aToB := by
    rw [inBounds_iff_local, e]; exact (seq.inBounds_iff_local t).1 h
  obtain ⟨d', v', hd', hv', hw', -⟩ := getTick_eq_windowTick hwf h'
  rw [e, hd, Option.some.injEq] at hd'
  subst hd'
  rw [e, hv, Option.some.injEq] at hv'
  subst hv'
  refine ⟨d, v, _, hk ▸ hd, hv, hw', hg touchedArrays, List.length_set .., fun j => ?_⟩
  rw [List.getElem?_set, hk]
  by_cases hj : j = (seq.getLocalArrayIndex (t / seq.tickSpacing / N) seq.aToB).toNat
  · subst hj; simp only [if_true]; rw [if_pos (by omega)]
  · rw [if_neg (Ne.symm hj), if_neg hj]

/-- A well-formed a→b window across tick 0 (spacing 2, `N = 2`): slot 0 holds
ticks 0 and 2, slot 1 ticks -4 and -2. -/
def sampleWindow : TickArraySequence 2 where
  tickArrays := [⟨⟨0⟩, some ⟨0, ⟨[⟨false⟩, ⟨true⟩], rfl⟩⟩⟩,
    ⟨⟨1⟩, some ⟨-4, ⟨[⟨true⟩, ⟨false⟩], rfl⟩⟩⟩]
  tickSpacing := 2
  aToB := true
  startArrayIndex := 0
  startArrayIndex_spec := ⟨_, rfl, by decide⟩

theorem sampleWindow_wellFormed : sampleWindow.WellFormed := by
  intro k hk
  match k, hk with
  | 0, _ => exact ⟨_, rfl, by decide⟩
  | 1, _ => exact ⟨_, rfl, by decide⟩

theorem getTick_in_window_sample :
    sampleWindow.WellFormed ∧ ([0, 0] : List Nat).length = sampleWindow.tickArrays.length ∧
    (let a := (-3 : Int) / sampleWindow.tickSpacing / 2
    let k := (sampleWindow.startArrayIndex - a).natAbs
    ((if sampleWindow.aToB then
          sampleWindow.startArrayIndex - sampleWindow.tickArrays.length < a ∧
            a ≤ sampleWindow.startArrayIndex
        else sampleWindow.startArrayIndex ≤ a ∧
          a < sampleWindow.startArrayIndex + sampleWindow.tickArrays.length) →
      ∃ d v touched', (sampleWindow.tickArrays[k]?).bind TickArray.data = some d ∧
        d.ticks.toList[((-3 : Int) / sampleWindow.tickSpacing % 2).toNat]? = some v ∧
        sampleWindow.windowTick ((-3 : Int) / sampleWindow.tickSpacing *
          sampleWindow.tickSpacing) = some v ∧
        sampleWindow.getTick (-3) [0, 0] = .ok v touched' ∧
        touched'.length = ([0, 0] : List Nat).length ∧
        ∀ j, touched'[j]? = if j = k then some 1 else ([0, 0] : List Nat)[j]?) ∧
    (¬ (if sampleWindow.aToB then
          sampleWindow.startArrayIndex - sampleWindow.tickArrays.length < a ∧
            a ≤ sampleWindow.startArrayIndex
        else sampleWindow.startArrayIndex ≤ a ∧
          a < sampleWindow.startArrayIndex + sampleWindow.tickArrays.length) →
      sampleWindow.getTick (-3) [0, 0] =
        .error (.error "Provided tick index is out of bounds for this sequence.") [0, 0])) :=
  ⟨sampleWindow_wellFormed, rfl,
    getTick_in_window sampleWindow_wellFormed [0, 0] rfl (-3)⟩

/-! ## §4. A window `getTick` does not defend against. -/

/-- A well-formed window's arrays start on multiples of `ts * N`. -/
theorem WellFormed.aligned (hw : seq.WellFormed) (k : Nat) (d : TickArrayData N)
    (hd : (seq.tickArrays[k]?).bind TickArray.data = some d) :
    ∃ s : Int, d.startTickIndex = s * seq.tickSpacing * N := by
  have hk : k < seq.tickArrays.length := by
    by_contra hk
    simp [List.getElem?_eq_none (not_lt.1 hk)] at hd
  obtain ⟨d', hd', hs⟩ := hw k hk
  obtain rfl : d = d' := Option.some.inj (hd.symm.trans hd')
  exact ⟨_, hs⟩

/-- **The inclusive bound is the range check's only slip.**  On ANY window
whose arrays start on multiples of `ts * N`, in any order or duplicated, a
tick `getTick t` returns is the tick the resolved slot's array holds at `t`,
except when `t` is the first tick past that array: there it is the array's
entry 0. -/
theorem getTick_ok_tickAt
    (hstart : ∀ (k : Nat) (d : TickArrayData N),
      (seq.tickArrays[k]?).bind TickArray.data = some d →
      ∃ s : Int, d.startTickIndex = s * seq.tickSpacing * N)
    {t : Int} {tf tf' : List Nat} {v : TickData} (h : seq.getTick t tf = .ok v tf') :
    ∃ d, (seq.tickArrays[(seq.getLocalArrayIndex (t / seq.tickSpacing / N)
        seq.aToB).toNat]?).bind TickArray.data = some d ∧
      (t < d.startTickIndex + seq.tickSpacing * N → d.tickAt seq.tickSpacing t = some v) ∧
      (t = d.startTickIndex + seq.tickSpacing * N → d.ticks.toList[0]? = some v) := by
  have hN := N_pos N
  obtain ⟨d, hd, hlo, -, rfl, -⟩ := seq.getTick_ok_inv h
  obtain ⟨s, hs⟩ := hstart _ d hd
  have hoff : (t / seq.tickSpacing % N).toNat < N := emod_toNat_lt _
  refine ⟨d, hd, fun hhi => ?_, fun heq => ?_⟩
  · rw [tickAt_of_start hs, if_pos ((mem_block_iff N _ s t).1 ⟨hs ▸ hlo, hs ▸ hhi⟩)]
    exact List.getElem?_eq_getElem (by simpa using hoff)
  · have : t / seq.tickSpacing % N = 0 := by
      rw [heq, hs, show s * seq.tickSpacing * N + seq.tickSpacing * N
        = (s + 1) * N * seq.tickSpacing by ring,
        Int.mul_ediv_cancel _ (ts_pos seq.tickSpacing).ne', Int.mul_emod_left]
    simp only [fromTickIndex, this, Int.toNat_zero]
    exact List.getElem?_eq_getElem (by simpa using hoff.trans_le' (by omega))

theorem getTick_ok_tickAt_sample :
    (∀ (k : Nat) (d : TickArrayData 2), (sampleWindow.tickArrays[k]?).bind TickArray.data = some d →
      ∃ s : Int, d.startTickIndex = s * sampleWindow.tickSpacing * 2) ∧
    sampleWindow.getTick (-3) [0, 0] = .ok ⟨true⟩ [0, 1] ∧
    ∃ d, (sampleWindow.tickArrays[(sampleWindow.getLocalArrayIndex
        ((-3 : Int) / sampleWindow.tickSpacing / 2) sampleWindow.aToB).toNat]?).bind
        TickArray.data = some d ∧
      ((-3 : Int) < d.startTickIndex + sampleWindow.tickSpacing * 2 →
        d.tickAt sampleWindow.tickSpacing (-3) = some ⟨true⟩) ∧
      ((-3 : Int) = d.startTickIndex + sampleWindow.tickSpacing * 2 →
        d.ticks.toList[0]? = some ⟨true⟩) :=
  ⟨sampleWindow_wellFormed.aligned, rfl, getTick_ok_tickAt sampleWindow_wellFormed.aligned
    (rfl : sampleWindow.getTick (-3) [0, 0] = .ok ⟨true⟩ [0, 1])⟩

/-- The array at tick 0, spacing 1, whose only initialized tick is tick 0. -/
def firstTickArray (n : Nat) : TickArrayData (n + 1) :=
  ⟨0, Mathlib.Vector.ofFn fun i => ⟨i.val = 0⟩⟩

/-- A window of two slots holding the same array. -/
def duplicatedWindow (n : Nat) : TickArraySequence (n + 1) where
  tickArrays := [⟨⟨0⟩, some (firstTickArray n)⟩, ⟨⟨1⟩, some (firstTickArray n)⟩]
  tickSpacing := 1
  aToB := false
  startArrayIndex := 0
  startArrayIndex_spec := ⟨firstTickArray n, rfl, by simp [fromTickIndex, firstTickArray]⟩

/-- For every `N`, `getTick N` on the duplicated window resolves slot 1, whose
array covers ticks `0 … N - 1`; the inclusive upper bound of
`checkIfIndexIsInTickArrayRange` accepts `N`, and the call returns the array's
tick 0, a tick the window does not hold at `N`. -/
theorem getTick_duplicatedWindow_returns_tick_zero (n : Nat) :
    (duplicatedWindow n).getTick (n + 1 : Nat) [0, 0] = .ok ⟨true⟩ [0, 1] ∧
    (firstTickArray n).tickAt 1 0 = some ⟨true⟩ ∧
    (firstTickArray n).tickAt 1 (n + 1 : Nat) = none ∧
    (duplicatedWindow n).windowTick (n + 1 : Nat) = none := by
  have hn : ((n : Int) + 1) ≠ 0 := by omega
  have hn' : (0 : Int) ≤ n + 1 := by omega
  have hout : (firstTickArray n).tickAt 1 (n + 1 : Nat) = none := by
    simp [firstTickArray, TickArrayData.tickAt]
  refine ⟨?_, by simp [firstTickArray, TickArrayData.tickAt], hout, ?_⟩
  · simp [getTick, duplicatedWindow, isArrayIndexInBounds, getLocalArrayIndex, fromTickIndex,
      checkIfIndexIsInTickArrayRange, firstTickArray, Int.ediv_self hn, hn']
  · simp only [windowTick, duplicatedWindow, List.findSome?_cons, Option.some_bind, hout,
      List.findSome?_nil]

end TickArraySequence

end Whirlpools
