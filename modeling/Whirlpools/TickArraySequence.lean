/-
  Whirlpools.TickArraySequence
  ────────────────────────────
  **THE TICK-ARRAY WINDOW OF ONE QUOTE.**

  `TickArraySequence` of `quotes/swap/tick-array-sequence.ts`.  The class has
  readonly fields (`tickArrays`, `tickSpacing`, `aToB`, and `startArrayIndex`,
  set once by the constructor) and one mutable field, `touchedArrays`.  The
  model splits them: a `TickArraySequence` value is the readonly part, and a
  method is a function of the touched flags returning an `EStateM.Result`,
  whose `.error` keeps the flags as they were when the method threw —
  `getTick` marks its slot BEFORE it checks the slot's data.

  The `while` loop of `findNextInitializedTickIndex` is `searchLoop`, by
  well-founded recursion on the number of the window's ordinals left in the
  direction of travel (`remaining`).

  Support lemmas:
    * `isArrayIndexInBounds_iff` — in bounds means `lowOrdinal ≤ ordinal < highOrdinal`;
    * `getTick_of_not_inBounds`, `stateAfter_getTick_of_inBounds` — the two
      shapes of a `getTick` call;
    * `getTick_ok_inv` — on ANY window, a returned tick is the resolved
      slot's entry `⌊t/ts⌋ mod N`, and the slot's range check passed;
    * `searchLoop_of_not_inBounds`, `searchLoop_of_inl`, `searchLoop_of_inr`
      — one unfolding of the loop.
-/
import Whirlpools.TickArrayIndex

namespace Whirlpools

open TickArrayIndex

/-- `TickArraySequence`, readonly part.  The constructor's check that slot 0
holds data, and the array index it caches from it, are `startArrayIndex_spec`. -/
structure TickArraySequence (N : Nat) [NeZero N] where
  tickArrays : List (TickArray N)
  tickSpacing : ℕ+
  aToB : Bool
  startArrayIndex : Int
  startArrayIndex_spec : ∃ d, (tickArrays[0]?).bind TickArray.data = some d ∧
    startArrayIndex = (fromTickIndex N d.startTickIndex tickSpacing).arrayIndex

/-- The state after a call, whether it returned or threw. -/
def stateAfter {ε σ α : Type} : EStateM.Result ε σ α → σ
  | .ok _ s => s
  | .error _ s => s

@[simp] theorem stateAfter_ok {ε σ α : Type} (a : α) (s : σ) :
    stateAfter (EStateM.Result.ok a s : EStateM.Result ε σ α) = s := rfl

@[simp] theorem stateAfter_error {ε σ α : Type} (e : ε) (s : σ) :
    stateAfter (EStateM.Result.error e s : EStateM.Result ε σ α) = s := rfl

/-- What a call returned or threw, without the state. -/
def outcome {ε σ α : Type} : EStateM.Result ε σ α → Except ε α
  | .ok a _ => .ok a
  | .error e _ => .error e

/-- What `findNextInitializedTickIndex` returns. -/
structure NextTickResult where
  nextIndex : Int
  nextTickData : Option TickData
  deriving DecidableEq, Repr

namespace TickArraySequence

variable {N : Nat} [NeZero N]

/-- `constructor`: throws unless slot 0 holds data, caches slot 0's array
index, and starts with every touched flag at `0`. -/
def constructor (tickArrays : List (TickArray N)) (tickSpacing : ℕ+) (aToB : Bool) :
    Except SdkError (TickArraySequence N × List Nat) :=
  match h : (tickArrays[0]?).bind TickArray.data with
  | none => .error (.error "TickArray index 0 must be initialized")
  | some d =>
    .ok (⟨tickArrays, tickSpacing, aToB,
      (fromTickIndex N d.startTickIndex tickSpacing).arrayIndex, d, h, rfl⟩,
      List.replicate tickArrays.length 0)

/-- A constructed sequence keeps the arrays it was given and starts with no
flag set. -/
theorem constructor_ok {tickArrays : List (TickArray N)} {tickSpacing : ℕ+} {aToB : Bool}
    {seq : TickArraySequence N} {touchedArrays : List Nat}
    (h : constructor tickArrays tickSpacing aToB = .ok (seq, touchedArrays)) :
    seq.tickArrays = tickArrays ∧ touchedArrays = List.replicate tickArrays.length 0 := by
  unfold constructor at h
  split at h
  · cases h
  · cases h; exact ⟨rfl, rfl⟩

variable (seq : TickArraySequence N)

/-- The constructor's check: the window has a slot 0. -/
theorem length_pos : 0 < seq.tickArrays.length := by
  obtain ⟨d, hd, -⟩ := seq.startArrayIndex_spec
  cases h : seq.tickArrays with
  | nil => simp [h] at hd
  | cons _ _ => simp

/-! ## §1. The private helpers and the touched-array accessors. -/

/-- `getLocalArrayIndex`: the window slot of an array index. -/
def getLocalArrayIndex (arrayIndex : Int) (aToB : Bool) : Int :=
  if aToB then seq.startArrayIndex - arrayIndex else arrayIndex - seq.startArrayIndex

/-- `isArrayIndexInBounds`: the index's slot is one of the window's. -/
def isArrayIndexInBounds (index : TickArrayIndex N) (aToB : Bool) : Bool :=
  let localArrayIndex := seq.getLocalArrayIndex index.arrayIndex aToB
  let seqLength := seq.tickArrays.length
  localArrayIndex ≥ 0 && localArrayIndex < seqLength

/-- `checkIfIndexIsInTickArrayRange`: `startTick ≤ tickIndex ≤ startTick + ts * N`
(the upper bound inclusive, as in the source). -/
def checkIfIndexIsInTickArrayRange (startTick tickIndex : Int) : Bool :=
  let upperBound := startTick + seq.tickSpacing * N
  !(tickIndex < startTick || tickIndex > upperBound)

/-- `checkArrayContainsTickIndex`. -/
def checkArrayContainsTickIndex (sequenceIndex : Int) (tickIndex : Int) : Bool :=
  match (if sequenceIndex < 0 then none else seq.tickArrays[sequenceIndex.toNat]?).bind
      TickArray.data with
  | none => false
  | some tickArray => seq.checkIfIndexIsInTickArrayRange tickArray.startTickIndex tickIndex

/-- `getNumOfTouchedArrays`. -/
def getNumOfTouchedArrays (touchedArrays : List Nat) : Nat :=
  (touchedArrays.filter fun val => val > 0).length

/-- `getTick`: resolve the index's slot, mark it touched, then check that the
slot holds data whose range contains the index. -/
def getTick (index : Int) (touchedArrays : List Nat) :
    EStateM.Result SdkError (List Nat) TickData :=
  let targetTaIndex := fromTickIndex N index seq.tickSpacing
  if !seq.isArrayIndexInBounds targetTaIndex seq.aToB then
    .error (.error "Provided tick index is out of bounds for this sequence.") touchedArrays
  else
    let localArrayIndex := seq.getLocalArrayIndex targetTaIndex.arrayIndex seq.aToB
    let tickArray := (seq.tickArrays[localArrayIndex.toNat]?).bind TickArray.data
    let touchedArrays := touchedArrays.set localArrayIndex.toNat 1
    match tickArray with
    | none =>
      .error (.whirlpoolsError s!"TickArray at index {localArrayIndex} is not initialized."
        .TickArrayIndexNotInitialized) touchedArrays
    | some tickArray =>
      if !seq.checkIfIndexIsInTickArrayRange tickArray.startTickIndex index then
        .error (.whirlpoolsError
          s!"TickArray at index {localArrayIndex} is unexpected for this sequence."
          .TickArraySequenceInvalid) touchedArrays
      else .ok (tickArray.ticks.get targetTaIndex.offsetIndex) touchedArrays

theorem getTick_of_not_inBounds {t : Int} (tf : List Nat)
    (h : seq.isArrayIndexInBounds (fromTickIndex N t seq.tickSpacing) seq.aToB = false) :
    seq.getTick t tf =
      .error (.error "Provided tick index is out of bounds for this sequence.") tf := by
  simp [getTick, h]

/-- A `getTick` call in bounds marks slot `k` whatever it does next. -/
theorem stateAfter_getTick_of_inBounds {t : Int} (tf : List Nat)
    (h : seq.isArrayIndexInBounds (fromTickIndex N t seq.tickSpacing) seq.aToB = true) :
    stateAfter (seq.getTick t tf) = tf.set
      (seq.getLocalArrayIndex (fromTickIndex N t seq.tickSpacing).arrayIndex seq.aToB).toNat 1 := by
  simp only [getTick, h, Bool.not_true, Bool.false_eq_true, if_false]
  split
  · rfl
  · split <;> rfl

/-- A tick `getTick` returns is entry `offsetIndex` of the resolved slot's
array, whose range check `start ≤ t ≤ start + ts * N` passed, and the slot is
marked. -/
theorem getTick_ok_inv {t : Int} {tf tf' : List Nat} {v : TickData}
    (h : seq.getTick t tf = .ok v tf') :
    ∃ d, (seq.tickArrays[(seq.getLocalArrayIndex (fromTickIndex N t seq.tickSpacing).arrayIndex
        seq.aToB).toNat]?).bind TickArray.data = some d ∧
      d.startTickIndex ≤ t ∧ t ≤ d.startTickIndex + seq.tickSpacing * N ∧
      v = d.ticks.get (fromTickIndex N t seq.tickSpacing).offsetIndex ∧
      tf' = tf.set (seq.getLocalArrayIndex (fromTickIndex N t seq.tickSpacing).arrayIndex
        seq.aToB).toNat 1 := by
  simp only [getTick] at h
  split at h
  · cases h
  · split at h
    · cases h
    · rename_i d hd
      split at h
      · cases h
      · rename_i hc
        cases h
        simp only [checkIfIndexIsInTickArrayRange, Bool.not_eq_true', Bool.not_eq_false',
          Bool.or_eq_true, decide_eq_true_eq, not_or, not_lt] at hc
        exact ⟨d, hd, hc.1, hc.2, rfl, rfl⟩

/-! ## §3. The window as a range of ordinals. -/

/-- The smallest ordinal of the window's arrays. -/
def lowOrdinal : Int :=
  if seq.aToB then (seq.startArrayIndex - seq.tickArrays.length + 1) * N
  else seq.startArrayIndex * N

/-- One past the largest ordinal of the window's arrays. -/
def highOrdinal : Int :=
  if seq.aToB then (seq.startArrayIndex + 1) * N
  else (seq.startArrayIndex + seq.tickArrays.length) * N

theorem isArrayIndexInBounds_iff (idx : TickArrayIndex N) :
    seq.isArrayIndexInBounds idx seq.aToB = true ↔
      seq.lowOrdinal ≤ idx.ordinal ∧ idx.ordinal < seq.highOrdinal := by
  have hN := N_pos N
  simp only [isArrayIndexInBounds, getLocalArrayIndex, lowOrdinal, highOrdinal,
    arrayIndex_eq, Bool.and_eq_true, decide_eq_true_eq]
  cases seq.aToB <;> simp only [if_true, if_false, Bool.false_eq_true]
  · rw [← Int.le_ediv_iff_mul_le hN, ← Int.ediv_lt_iff_lt_mul hN]; omega
  · rw [← Int.le_ediv_iff_mul_le hN, ← Int.ediv_lt_iff_lt_mul hN]; omega

/-! ## §4. `findNextInitializedTickIndex`. -/

/-- The loop's step (line 121): `toPrevInitializableTickIndex` when `aToB`,
else `toNextInitializableTickIndex`. -/
def advance (idx : TickArrayIndex N) : TickArrayIndex N :=
  if seq.aToB then idx.toPrevInitializableTickIndex else idx.toNextInitializableTickIndex

theorem advance_ordinal (idx : TickArrayIndex N) :
    (seq.advance idx).ordinal = if seq.aToB then idx.ordinal - 1 else idx.ordinal + 1 := by
  unfold advance
  split
  · exact toPrevInitializableTickIndex_ordinal idx
  · exact toNextInitializableTickIndex_ordinal idx

@[simp] theorem advance_tickSpacing (idx : TickArrayIndex N) :
    (seq.advance idx).tickSpacing = idx.tickSpacing := by
  unfold advance; split <;> rfl

/-- The window's ordinals the loop can still visit from `idx`. -/
def remaining (idx : TickArrayIndex N) : Nat :=
  if seq.aToB then (idx.ordinal - seq.lowOrdinal + 1).toNat
  else (seq.highOrdinal - idx.ordinal).toNat

theorem remaining_advance_lt {idx : TickArrayIndex N}
    (h : seq.isArrayIndexInBounds idx seq.aToB = true) :
    seq.remaining (seq.advance idx) < seq.remaining idx := by
  rw [isArrayIndexInBounds_iff] at h
  have ha := seq.advance_ordinal idx
  unfold remaining
  split <;> simp_all only [if_true, if_false, Bool.false_eq_true] <;> omega

/-- The result after the loop (lines 126–134): one spacing above the last
candidate for `aToB`, one tick below it otherwise, clamped to the tick range. -/
def lastIndexInArray (minTickIndex maxTickIndex : Int) (currTaIndex : TickArrayIndex N) :
    Int :=
  max (min (if seq.aToB then currTaIndex.toTickIndex + seq.tickSpacing
    else currTaIndex.toTickIndex - 1) maxTickIndex) minTickIndex

/-- One pass of the `while` body (lines 117–123): read the candidate's tick;
`.inl` the call's result when the tick is initialized or `getTick` throws,
`.inr` the next candidate and the flags otherwise. -/
def loopBody (currTaIndex : TickArrayIndex N) (touchedArrays : List Nat) :
    EStateM.Result SdkError (List Nat) NextTickResult ⊕ (TickArrayIndex N × List Nat) :=
  match seq.getTick currTaIndex.toTickIndex touchedArrays with
  | .error e touchedArrays => .inl (.error e touchedArrays)
  | .ok currTickData touchedArrays =>
    if currTickData.initialized then
      .inl (.ok ⟨currTaIndex.toTickIndex, some currTickData⟩ touchedArrays)
    else .inr (seq.advance currTaIndex, touchedArrays)

theorem loopBody_inr {c c' : TickArrayIndex N} {tf tf' : List Nat}
    (h : seq.loopBody c tf = .inr (c', tf')) :
    c' = seq.advance c ∧ ∃ v, seq.getTick c.toTickIndex tf = .ok v tf' ∧ v.initialized = false := by
  unfold loopBody at h
  split at h
  · cases h
  · rename_i v tf'' hg
    split at h
    · cases h
    · cases h; exact ⟨rfl, v, hg, by simpa using ‹¬v.initialized = true›⟩

/-- The loop's result keeps the flags its `getTick` left. -/
theorem loopBody_inl_state {c : TickArrayIndex N} {tf : List Nat}
    {r : EStateM.Result SdkError (List Nat) NextTickResult} (h : seq.loopBody c tf = .inl r) :
    stateAfter r = stateAfter (seq.getTick c.toTickIndex tf) := by
  unfold loopBody at h
  split at h
  · cases h; simp_all
  · split at h
    · cases h; simp_all
    · cases h

/-- The `while` loop of `findNextInitializedTickIndex` (lines 116–134). -/
def searchLoop (minTickIndex maxTickIndex : Int) (currTaIndex : TickArrayIndex N)
    (touchedArrays : List Nat) : EStateM.Result SdkError (List Nat) NextTickResult :=
  if h : seq.isArrayIndexInBounds currTaIndex seq.aToB then
    match hb : seq.loopBody currTaIndex touchedArrays with
    | .inl result => result
    | .inr (next, touchedArrays) => searchLoop minTickIndex maxTickIndex next touchedArrays
  else
    .ok ⟨seq.lastIndexInArray minTickIndex maxTickIndex currTaIndex, none⟩ touchedArrays
termination_by seq.remaining currTaIndex
decreasing_by exact (seq.loopBody_inr hb).1 ▸ seq.remaining_advance_lt h

theorem searchLoop_of_not_inBounds {m M : Int} {c : TickArrayIndex N} (tf : List Nat)
    (h : seq.isArrayIndexInBounds c seq.aToB = false) :
    seq.searchLoop m M c tf = .ok ⟨seq.lastIndexInArray m M c, none⟩ tf := by
  rw [searchLoop]; simp [h]

theorem searchLoop_of_inl {m M : Int} {c : TickArrayIndex N} {tf : List Nat}
    {r : EStateM.Result SdkError (List Nat) NextTickResult}
    (h : seq.isArrayIndexInBounds c seq.aToB = true) (hb : seq.loopBody c tf = .inl r) :
    seq.searchLoop m M c tf = r := by
  rw [searchLoop, dif_pos h]; split <;> simp_all

theorem searchLoop_of_inr {m M : Int} {c c' : TickArrayIndex N} {tf tf' : List Nat}
    (h : seq.isArrayIndexInBounds c seq.aToB = true) (hb : seq.loopBody c tf = .inr (c', tf')) :
    seq.searchLoop m M c tf = seq.searchLoop m M c' tf' := by
  rw [searchLoop, dif_pos h]; split <;> simp_all

/-- `findNextInitializedTickIndex`: for `aToB` the search includes `currIndex`,
otherwise it starts one spacing above; it throws if that start is already
outside the window. -/
def findNextInitializedTickIndex (minTickIndex maxTickIndex : Int) (currIndex : Int)
    (touchedArrays : List Nat) : EStateM.Result SdkError (List Nat) NextTickResult :=
  let searchIndex := if seq.aToB then currIndex else currIndex + seq.tickSpacing
  let currTaIndex := fromTickIndex N searchIndex seq.tickSpacing
  if !seq.isArrayIndexInBounds currTaIndex seq.aToB then
    let t := currTaIndex.toTickIndex
    .error (.whirlpoolsError
      s!"Swap input value traversed too many arrays. Out of bounds at attempt to traverse tick index - {t}."
      .TickArraySequenceInvalid) touchedArrays
  else seq.searchLoop minTickIndex maxTickIndex currTaIndex touchedArrays

end TickArraySequence

end Whirlpools
