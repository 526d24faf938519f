/-
  Whirlpools.Sequence.Search
  ──────────────────────────
  **THE NEXT-INITIALIZED-TICK SEARCH: IT STOPS, AND IT FINDS THE RIGHT TICK.**

  The `while` loop of `findNextInitializedTickIndex` moves its candidate one
  ordinal per pass (`advance_ordinal`) and runs while the candidate's array
  index is one of the window's, `highOrdinal - lowOrdinal = N * L` ordinals.

  Main results:
    * `searchLoop_terminates` — on ANY window, the loop is done after at most
      `N * L` passes of its body (`searchLoopWithin`, the loop allowed a
      number of passes, agrees with it), each pass steps one spacing, and the
      local slot index never decreases and rises by one every `N` steps;
    * `searchLoop_spec` — on a well-formed window, from every candidate the
      loop returns (never throws) the first initialized tick ahead of it, or
      the clamped window edge when there is none;
    * `findNextInitializedTickIndex_spec` — the method throws
      `TickArraySequenceInvalid` exactly when the rounded search start is not
      a tick of the window, and otherwise returns what `searchLoop_spec` says.
-/
import Whirlpools.Sequence.Window

namespace Whirlpools

open TickArrayIndex

/-! ## §1. Floor quotients of neighbouring ordinals. -/

theorem ediv_add_one_cases (N : Nat) [NeZero N] (q : Int) :
    (q + 1) / N = q / N ∨ (q + 1) / N = q / N + 1 := by
  have hN := N_pos N
  have h1 := Int.emod_nonneg q hN.ne'
  have h2 := Int.emod_lt_of_pos q hN
  have h3 := Int.ediv_add_emod q N
  by_cases h : q % N + 1 < N
  · exact .inl ((Int.ediv_emod_unique hN).2 ⟨by omega, by omega, h⟩).1
  · refine .inr ((Int.ediv_emod_unique hN).2 ⟨?_, le_refl 0, hN⟩).1
    rw [mul_add, mul_one]; omega

namespace TickArraySequence

variable {N : Nat} [NeZero N] (seq : TickArraySequence N)

/-! ## §2. The loop stops within `N * L` passes. -/

/-- The `while` loop allowed at most `fuel` passes of its body: `none` when it
would need more. -/
def searchLoopWithin (m M : Int) (fuel : Nat) (c : TickArrayIndex N) (tf : List Nat) :
    Option (EStateM.Result SdkError (List Nat) NextTickResult) :=
  if seq.isArrayIndexInBounds c seq.aToB then
    match fuel, seq.loopBody c tf with
    | 0, _ => none
    | _ + 1, .inl r => some r
    | fuel + 1, .inr (c', tf') => searchLoopWithin m M fuel c' tf'
  else some (.ok ⟨seq.lastIndexInArray m M c, none⟩ tf)

theorem highOrdinal_sub_lowOrdinal :
    seq.highOrdinal - seq.lowOrdinal = N * seq.tickArrays.length := by
  unfold highOrdinal lowOrdinal; split <;> ring

theorem remaining_pos {c : TickArrayIndex N} (h : seq.isArrayIndexInBounds c seq.aToB = true) :
    0 < seq.remaining c := by
  rw [isArrayIndexInBounds_iff] at h
  unfold remaining; split <;> omega

theorem remaining_le {c : TickArrayIndex N} (h : seq.isArrayIndexInBounds c seq.aToB = true) :
    seq.remaining c ≤ N * seq.tickArrays.length := by
  rw [isArrayIndexInBounds_iff] at h
  have := seq.highOrdinal_sub_lowOrdinal
  unfold remaining; split <;> omega

/-- With as many passes as candidates remain, the bounded loop is the loop. -/
theorem searchLoopWithin_eq (m M : Int) :
    ∀ (fuel : Nat) (c : TickArrayIndex N) (tf : List Nat),
      (seq.isArrayIndexInBounds c seq.aToB = true → seq.remaining c ≤ fuel) →
      seq.searchLoopWithin m M fuel c tf = some (seq.searchLoop m M c tf)
  | fuel, c, tf, hr => by
    cases h : seq.isArrayIndexInBounds c seq.aToB
    · rw [searchLoop_of_not_inBounds seq tf h]; unfold searchLoopWithin; simp [h]
    · have hpos := seq.remaining_pos h
      have hle := hr h
      cases hb : seq.loopBody c tf with
      | inl r =>
        rw [searchLoop_of_inl seq h hb, searchLoopWithin.eq_def, if_pos h]
        obtain ⟨fuel, rfl⟩ : ∃ f, fuel = f + 1 := ⟨fuel - 1, by omega⟩
        simp [hb]
      | inr p =>
        obtain ⟨c', tf'⟩ := p
        rw [searchLoop_of_inr seq h hb, searchLoopWithin.eq_def, if_pos h]
        obtain ⟨fuel, rfl⟩ : ∃ f, fuel = f + 1 := ⟨fuel - 1, by omega⟩
        have hlt := (seq.loopBody_inr hb).1 ▸ seq.remaining_advance_lt h
        simp only [hb]
        exact searchLoopWithin_eq m M fuel c' tf' fun _ => by omega

theorem getLocalArrayIndex_advance (c : TickArrayIndex N) :
    seq.getLocalArrayIndex (seq.advance c).arrayIndex seq.aToB
        = seq.getLocalArrayIndex c.arrayIndex seq.aToB ∨
      seq.getLocalArrayIndex (seq.advance c).arrayIndex seq.aToB
        = seq.getLocalArrayIndex c.arrayIndex seq.aToB + 1 := by
  have ha := seq.advance_ordinal c
  rw [arrayIndex_eq, arrayIndex_eq c]
  unfold getLocalArrayIndex
  split <;> simp_all only [if_true, if_false, Bool.false_eq_true]
  · have := ediv_add_one_cases N (c.ordinal - 1)
    rw [sub_add_cancel] at this; omega
  · have := ediv_add_one_cases N c.ordinal; omega

theorem advance_iterate_ordinal (c : TickArrayIndex N) (n : Nat) :
    (seq.advance^[n] c).ordinal = if seq.aToB then c.ordinal - n else c.ordinal + n := by
  induction n with
  | zero => split <;> simp
  | succ n ih =>
    rw [Function.iterate_succ_apply', advance_ordinal, ih]
    split <;> push_cast <;> ring

theorem getLocalArrayIndex_advance_iterate (c : TickArrayIndex N) :
    seq.getLocalArrayIndex (seq.advance^[N] c).arrayIndex seq.aToB
      = seq.getLocalArrayIndex c.arrayIndex seq.aToB + 1 := by
  have hN := N_pos N
  rw [arrayIndex_eq, arrayIndex_eq c, advance_iterate_ordinal]
  unfold getLocalArrayIndex
  split
  · rw [show c.ordinal - N = c.ordinal + (-1) * N by ring, Int.add_mul_ediv_right _ _ hN.ne']
    ring
  · rw [show c.ordinal + N = c.ordinal + 1 * N by ring, Int.add_mul_ediv_right _ _ hN.ne']
    ring

/-- **The loop stops.**  On any window and from any candidate, the `while`
loop of `findNextInitializedTickIndex` is done — returning, `getTick`
throwing, or the candidate leaving the window — within `N * L` passes of its
body.  Each pass moves the candidate one spacing in the direction of travel,
so its local slot index never decreases and rises by one every `N` steps. -/
theorem searchLoop_terminates (minTickIndex maxTickIndex : Int) :
    (∀ c tf, seq.searchLoopWithin minTickIndex maxTickIndex (N * seq.tickArrays.length) c tf =
      some (seq.searchLoop minTickIndex maxTickIndex c tf)) ∧
    (∀ c tf c' tf', seq.loopBody c tf = .inr (c', tf') →
      c' = (if seq.aToB then c.toPrevInitializableTickIndex
        else c.toNextInitializableTickIndex) ∧
      c'.toTickIndex = if seq.aToB then c.toTickIndex - c.tickSpacing
        else c.toTickIndex + c.tickSpacing) ∧
    (∀ c, seq.getLocalArrayIndex (seq.advance c).arrayIndex seq.aToB
        = seq.getLocalArrayIndex c.arrayIndex seq.aToB ∨
      seq.getLocalArrayIndex (seq.advance c).arrayIndex seq.aToB
        = seq.getLocalArrayIndex c.arrayIndex seq.aToB + 1) ∧
    (∀ c, seq.getLocalArrayIndex (seq.advance^[N] c).arrayIndex seq.aToB
      = seq.getLocalArrayIndex c.arrayIndex seq.aToB + 1) := by
  refine ⟨fun c tf => seq.searchLoopWithin_eq _ _ _ c tf seq.remaining_le,
    fun c tf c' tf' hb => ?_, seq.getLocalArrayIndex_advance,
    seq.getLocalArrayIndex_advance_iterate⟩
  obtain ⟨rfl, -⟩ := seq.loopBody_inr hb
  refine ⟨rfl, ?_⟩
  rw [toTickIndex_eq, toTickIndex_eq, advance_ordinal, advance_tickSpacing]
  split <;> ring

theorem searchLoop_terminates_sample :
    NeZero 2 ∧
    (∀ c tf, sampleWindow.searchLoopWithin (-100) 100 (2 * sampleWindow.tickArrays.length) c tf =
      some (sampleWindow.searchLoop (-100) 100 c tf)) ∧
    (∀ c tf c' tf', sampleWindow.loopBody c tf = .inr (c', tf') →
      c' = (if sampleWindow.aToB then c.toPrevInitializableTickIndex
        else c.toNextInitializableTickIndex) ∧
      c'.toTickIndex = if sampleWindow.aToB then c.toTickIndex - c.tickSpacing
        else c.toTickIndex + c.tickSpacing) ∧
    (∀ c, sampleWindow.getLocalArrayIndex (sampleWindow.advance c).arrayIndex sampleWindow.aToB
        = sampleWindow.getLocalArrayIndex c.arrayIndex sampleWindow.aToB ∨
      sampleWindow.getLocalArrayIndex (sampleWindow.advance c).arrayIndex sampleWindow.aToB
        = sampleWindow.getLocalArrayIndex c.arrayIndex sampleWindow.aToB + 1) ∧
    (∀ c, sampleWindow.getLocalArrayIndex (sampleWindow.advance^[2] c).arrayIndex sampleWindow.aToB
      = sampleWindow.getLocalArrayIndex c.arrayIndex sampleWindow.aToB + 1) :=
  ⟨inferInstance, searchLoop_terminates sampleWindow (-100) 100⟩

/-! ## §3. On a well-formed window the loop finds the next initialized tick. -/

variable {seq}

/-- Ordinal `q` is on the search side of `q0`, `q0` included. -/
def Ahead (seq : TickArraySequence N) (q0 q : Int) : Prop :=
  if seq.aToB then q ≤ q0 else q0 ≤ q

theorem ahead_refl (q : Int) : seq.Ahead q q := by
  unfold Ahead; split <;> exact le_rfl

/-- The ordinal arithmetic of the direction of travel, for both directions
at once: what is ahead of `q` is `q` or ahead of the next ordinal; past the
window's far end lies nothing of the window; the next ordinal of a window
ordinal is in the window or just past its far end, and in that range an
ordinal outside the window is the one just past the far end. -/
theorem direction_arith (q q' : Int) :
    let next := if seq.aToB then q - 1 else q + 1
    let exit := if seq.aToB then seq.lowOrdinal - 1 else seq.highOrdinal
    let lo := seq.lowOrdinal - (if seq.aToB then 1 else 0)
    let hi := seq.highOrdinal + (if seq.aToB then 0 else 1)
    (seq.Ahead q q' → q' = q ∨ seq.Ahead next q') ∧ (seq.Ahead next q' → seq.Ahead q q') ∧
    (seq.Ahead exit q' → ¬ (seq.lowOrdinal ≤ q' ∧ q' < seq.highOrdinal)) ∧
    (seq.lowOrdinal ≤ q ∧ q < seq.highOrdinal → lo ≤ next ∧ next < hi) ∧
    (lo ≤ q → q < hi → ¬ (seq.lowOrdinal ≤ q ∧ q < seq.highOrdinal) → q = exit) := by
  unfold Ahead
  split_ifs <;> omega

/-- What is ahead of `q` is `q`, or ahead of the next ordinal. -/
theorem ahead_cases {q q' : Int} (h : seq.Ahead q q') :
    q' = q ∨ seq.Ahead (if seq.aToB then q - 1 else q + 1) q' :=
  (direction_arith q q').1 h

theorem ahead_of_ahead_next {q q' : Int}
    (h : seq.Ahead (if seq.aToB then q - 1 else q + 1) q') : seq.Ahead q q' :=
  (direction_arith q q').2.1 h

/-- The window's edge in the direction of travel, as the search reports it:
its lowest tick for `aToB`, one below the tick after it otherwise. -/
def windowEdge (seq : TickArraySequence N) : Int :=
  if seq.aToB then seq.lowOrdinal * seq.tickSpacing
  else seq.highOrdinal * seq.tickSpacing - 1

/-- What a search from ordinal `q0` returns: the first initialized tick ahead
of `q0`, every tick before it uninitialized; or, with no tick, the clamped
edge, every tick of the window ahead of `q0` uninitialized. -/
def SearchPost (seq : TickArraySequence N) (minTickIndex maxTickIndex q0 : Int)
    (r : NextTickResult) : Prop :=
  (∀ v, r.nextTickData = some v → ∃ q, r.nextIndex = q * seq.tickSpacing ∧ seq.Ahead q0 q ∧
    seq.windowTick (q * seq.tickSpacing) = some v ∧ v.initialized = true ∧
    ∀ q', seq.Ahead q0 q' → ¬ seq.Ahead q q' →
      ∃ v', seq.windowTick (q' * seq.tickSpacing) = some v' ∧ v'.initialized = false) ∧
  (r.nextTickData = none →
    r.nextIndex = max (min seq.windowEdge maxTickIndex) minTickIndex ∧
    ∀ q', seq.Ahead q0 q' → ∀ v', seq.windowTick (q' * seq.tickSpacing) = some v' →
      v'.initialized = false)

theorem windowTick_of_ordinal_in (hwf : seq.WellFormed) {q : Int}
    (hq : seq.lowOrdinal ≤ q ∧ q < seq.highOrdinal) :
    ∃ v, seq.windowTick (q * seq.tickSpacing) = some v ∧
      ∀ tf, seq.getTick (q * seq.tickSpacing) tf = .ok v
        (tf.set (seq.getLocalArrayIndex (q / N) seq.aToB).toNat 1) := by
  have h : seq.isArrayIndexInBounds (fromTickIndex N (q * seq.tickSpacing) seq.tickSpacing)
      seq.aToB = true := by
    rw [isArrayIndexInBounds_iff, fromTickIndex_mul_ordinal]; exact hq
  obtain ⟨d, v, -, -, hw, hg⟩ := getTick_eq_windowTick hwf h
  rw [Int.mul_ediv_cancel _ (ts_pos seq.tickSpacing).ne'] at hg
  exact ⟨v, hw, hg⟩

theorem windowTick_of_ordinal_out (hwf : seq.WellFormed) {q : Int}
    (hq : ¬ (seq.lowOrdinal ≤ q ∧ q < seq.highOrdinal)) :
    seq.windowTick (q * seq.tickSpacing) = none := by
  refine windowTick_of_not_inBounds hwf (Bool.eq_false_iff.2 fun h => hq ?_)
  rwa [isArrayIndexInBounds_iff, fromTickIndex_mul_ordinal] at h

/-- The search stops at an initialized tick. -/
theorem searchPost_found {m M q : Int} {w : TickData}
    (hw : seq.windowTick (q * seq.tickSpacing) = some w) (hi : w.initialized = true) :
    seq.SearchPost m M q ⟨q * seq.tickSpacing, some w⟩ := by
  refine ⟨fun v hv => ?_, fun h => by cases h⟩
  cases hv
  exact ⟨q, rfl, ahead_refl q, hw, hi, fun q' h1 h2 => absurd h1 h2⟩

/-- An uninitialized tick at `q` extends what the search from the next ordinal
returns to a search from `q`. -/
theorem searchPost_step {m M q : Int} {w : TickData} {r : NextTickResult}
    (hw : seq.windowTick (q * seq.tickSpacing) = some w) (hi : w.initialized = false)
    (hr : seq.SearchPost m M (if seq.aToB then q - 1 else q + 1) r) :
    seq.SearchPost m M q r := by
  obtain ⟨hsome, hnone⟩ := hr
  refine ⟨fun v hv => ?_, fun hv => ?_⟩
  · obtain ⟨p, hp, ha, hwp, hip, hbefore⟩ := hsome v hv
    refine ⟨p, hp, ahead_of_ahead_next ha, hwp, hip, fun q' h1 h2 => ?_⟩
    · rcases ahead_cases h1 with rfl | h1
      · exact ⟨w, hw, hi⟩
      · exact hbefore q' h1 h2
  · obtain ⟨hidx, hall⟩ := hnone hv
    refine ⟨hidx, fun q' h1 v' hv' => ?_⟩
    rcases ahead_cases h1 with rfl | h1
    · rw [hw, Option.some.injEq] at hv'; exact hv' ▸ hi
    · exact hall q' h1 v' hv'

/-- A candidate just past the window's far end reports the clamped edge. -/
theorem searchPost_exit (hwf : seq.WellFormed) {m M : Int} {c : TickArrayIndex N}
    (hc : c.tickSpacing = seq.tickSpacing)
    (hend : c.ordinal = if seq.aToB then seq.lowOrdinal - 1 else seq.highOrdinal) :
    seq.SearchPost m M c.ordinal ⟨seq.lastIndexInArray m M c, none⟩ := by
  refine ⟨(fun v hv => by cases hv), fun _ => ⟨?_, fun q' h1 v' hv' => ?_⟩⟩
  · unfold lastIndexInArray windowEdge
    rw [toTickIndex_eq, hc, hend]
    split <;> ring_nf
  · rw [windowTick_of_ordinal_out hwf ((direction_arith c.ordinal q').2.2.1 (hend ▸ h1))] at hv'
    cases hv'

/-- The next candidate after one of the window is one of the window or just
past its far end. -/
theorem advance_ordinal_range {c : TickArrayIndex N}
    (hin : seq.lowOrdinal ≤ c.ordinal ∧ c.ordinal < seq.highOrdinal) :
    seq.lowOrdinal - (if seq.aToB then 1 else 0) ≤ (seq.advance c).ordinal ∧
      (seq.advance c).ordinal < seq.highOrdinal + (if seq.aToB then 0 else 1) := by
  rw [advance_ordinal]
  exact (direction_arith c.ordinal c.ordinal).2.2.2.1 hin

/-- In that range, a candidate outside the window is just past its far end. -/
theorem ordinal_eq_exit {q : Int} (hlo : seq.lowOrdinal - (if seq.aToB then 1 else 0) ≤ q)
    (hhi : q < seq.highOrdinal + (if seq.aToB then 0 else 1))
    (hout : ¬ (seq.lowOrdinal ≤ q ∧ q < seq.highOrdinal)) :
    q = if seq.aToB then seq.lowOrdinal - 1 else seq.highOrdinal :=
  (direction_arith q q).2.2.2.2 hlo hhi hout

/-- **The loop's contract on a well-formed window.**  From a candidate of the
window, or one just past its far end, the loop returns — it never throws —
and its result is `SearchPost` of the candidate's ordinal. -/
theorem searchLoop_spec (hwf : seq.WellFormed) (m M : Int) (c : TickArrayIndex N)
    (hc : c.tickSpacing = seq.tickSpacing)
    (hlo : seq.lowOrdinal - (if seq.aToB then 1 else 0) ≤ c.ordinal)
    (hhi : c.ordinal < seq.highOrdinal + (if seq.aToB then 0 else 1)) (tf : List Nat) :
    ∃ r tf', seq.searchLoop m M c tf = .ok r tf' ∧ seq.SearchPost m M c.ordinal r := by
  have htick : c.toTickIndex = c.ordinal * seq.tickSpacing := by rw [toTickIndex_eq, hc]
  cases h : seq.isArrayIndexInBounds c seq.aToB
  · have hout := (seq.isArrayIndexInBounds_iff c).not.1 (by simp [h])
    exact ⟨_, tf, searchLoop_of_not_inBounds seq tf h,
      searchPost_exit hwf hc (ordinal_eq_exit hlo hhi hout)⟩
  · have hin := (seq.isArrayIndexInBounds_iff c).1 h
    obtain ⟨w, hw, hg⟩ := windowTick_of_ordinal_in hwf hin
    cases hi : w.initialized
    · have hb : seq.loopBody c tf = .inr (seq.advance c,
          tf.set (seq.getLocalArrayIndex (c.ordinal / N) seq.aToB).toNat 1) := by
        simp [loopBody, htick, hg, hi]
      rw [searchLoop_of_inr seq h hb]
      obtain ⟨r, tf', hr, hpost⟩ := searchLoop_spec hwf m M (seq.advance c)
        (by rw [advance_tickSpacing, hc]) (advance_ordinal_range hin).1
        (advance_ordinal_range hin).2 _
      exact ⟨r, tf', hr, searchPost_step hw hi (seq.advance_ordinal c ▸ hpost)⟩
    · have hb : seq.loopBody c tf = .inl (.ok ⟨c.ordinal * seq.tickSpacing, some w⟩
          (tf.set (seq.getLocalArrayIndex (c.ordinal / N) seq.aToB).toNat 1)) := by
        simp [loopBody, htick, hg, hi]
      exact ⟨_, _, searchLoop_of_inl seq h hb, searchPost_found hw hi⟩
termination_by seq.remaining c
decreasing_by exact seq.remaining_advance_lt h

theorem ahead_iff_mul {q0 q : Int} : seq.Ahead q0 q ↔
    if seq.aToB then q * seq.tickSpacing ≤ q0 * seq.tickSpacing
    else q0 * seq.tickSpacing ≤ q * seq.tickSpacing := by
  have hts := ts_pos seq.tickSpacing
  unfold Ahead; split <;> exact (mul_le_mul_right hts).symm

/-- **`findNextInitializedTickIndex` on a well-formed window.**  Let `c0` be
the search start (`currIndex` for a→b, `currIndex + ts` for b→a) rounded
down to the spacing.  The method throws `TickArraySequenceInvalid` exactly
when the window holds no tick at `c0`.  Otherwise it returns, and either
`nextIndex` is the first multiple of `ts` from `c0` in the direction of travel
whose window tick is initialized — returned as `nextTickData`, every multiple
between `c0` and it holding an uninitialized tick — or `nextTickData` is
`null`, `nextIndex` is the window's edge clamped to
`[minTickIndex, maxTickIndex]`, and every tick of the window from `c0` on is
uninitialized. -/
theorem findNextInitializedTickIndex_spec (hwf : seq.WellFormed)
    (minTickIndex maxTickIndex currIndex : Int) (touchedArrays : List Nat) :
    let ts : Int := seq.tickSpacing
    let c0 := (if seq.aToB then currIndex else currIndex + ts) / ts * ts
    (seq.windowTick c0 = none →
      seq.findNextInitializedTickIndex minTickIndex maxTickIndex currIndex touchedArrays =
        .error (.whirlpoolsError
          s!"Swap input value traversed too many arrays. Out of bounds at attempt to traverse tick index - {c0}."
          .TickArraySequenceInvalid) touchedArrays) ∧
    (seq.windowTick c0 ≠ none →
      ∃ r touched', seq.findNextInitializedTickIndex minTickIndex maxTickIndex currIndex
          touchedArrays = .ok r touched' ∧
        (∀ v, r.nextTickData = some v →
          ts ∣ r.nextIndex ∧ (if seq.aToB then r.nextIndex ≤ c0 else c0 ≤ r.nextIndex) ∧
          seq.windowTick r.nextIndex = some v ∧ v.initialized = true ∧
          ∀ k, ts ∣ k →
            (if seq.aToB then r.nextIndex < k ∧ k ≤ c0 else c0 ≤ k ∧ k < r.nextIndex) →
            ∃ v', seq.windowTick k = some v' ∧ v'.initialized = false) ∧
        (r.nextTickData = none →
          r.nextIndex = max (min (if seq.aToB
              then (seq.startArrayIndex - seq.tickArrays.length + 1) * ts * N
              else (seq.startArrayIndex + seq.tickArrays.length) * ts * N - 1)
            maxTickIndex) minTickIndex ∧
          ∀ k, ts ∣ k → (if seq.aToB then k ≤ c0 else c0 ≤ k) →
            ∀ v', seq.windowTick k = some v' → v'.initialized = false)) := by
  dsimp only
  have hts := ts_pos seq.tickSpacing
  generalize hs : (if seq.aToB then currIndex else currIndex + (seq.tickSpacing : Int)) = s
  have hunf : seq.findNextInitializedTickIndex minTickIndex maxTickIndex currIndex touchedArrays
      = if !seq.isArrayIndexInBounds (fromTickIndex N s seq.tickSpacing) seq.aToB then
          .error (.whirlpoolsError
            s!"Swap input value traversed too many arrays. Out of bounds at attempt to traverse tick index - {s / seq.tickSpacing * seq.tickSpacing}."
            .TickArraySequenceInvalid) touchedArrays
        else seq.searchLoop minTickIndex maxTickIndex (fromTickIndex N s seq.tickSpacing)
          touchedArrays := by
    subst hs; simp only [findNextInitializedTickIndex, toTickIndex_fromTickIndex]
  have hiff := seq.isArrayIndexInBounds_iff (fromTickIndex N s seq.tickSpacing)
  rw [fromTickIndex_ordinal] at hiff
  rw [hunf]
  by_cases hin : seq.lowOrdinal ≤ s / seq.tickSpacing ∧ s / seq.tickSpacing < seq.highOrdinal
  · obtain ⟨w, hw, -⟩ := windowTick_of_ordinal_in hwf hin
    refine ⟨fun h => by simp [hw] at h, fun _ => ?_⟩
    obtain ⟨r, tf', hr, hsome, hnone⟩ := searchLoop_spec hwf minTickIndex maxTickIndex
      (fromTickIndex N s seq.tickSpacing) rfl
      (by rw [fromTickIndex_ordinal]; split <;> omega)
      (by rw [fromTickIndex_ordinal]; split <;> omega) touchedArrays
    rw [fromTickIndex_ordinal] at hsome hnone
    refine ⟨r, tf', by rw [hiff.2 hin]; exact hr, fun v hv => ?_, fun hv => ?_⟩
    · obtain ⟨q, hq, ha, hwq, hi, hbefore⟩ := hsome v hv
      refine ⟨hq ▸ Dvd.intro_left _ rfl, hq ▸ ahead_iff_mul.1 ha, hq ▸ hwq, hi,
        fun k hk hk' => ?_⟩
      obtain ⟨q', rfl⟩ := hk
      rw [mul_comm (seq.tickSpacing : Int) q'] at hk' ⊢
      rw [hq] at hk'
      refine hbefore q' (ahead_iff_mul.2 ?_) (fun h => absurd (ahead_iff_mul.1 h) ?_)
      all_goals rcases Bool.eq_false_or_eq_true seq.aToB with hb | hb <;>
        simp only [hb, if_true, if_false, Bool.false_eq_true] at hk' ⊢ <;> omega
    · obtain ⟨hidx, hall⟩ := hnone hv
      refine ⟨hidx.trans ?_, fun k hk hk' v' hv' => ?_⟩
      · unfold windowEdge lowOrdinal highOrdinal; split <;> ring_nf
      · obtain ⟨q', rfl⟩ := hk
        rw [mul_comm] at hv' hk'
        exact hall q' (ahead_iff_mul.2 hk') v' hv'
  · have hnone := windowTick_of_ordinal_out hwf hin
    refine ⟨fun _ => ?_, fun h => absurd hnone h⟩
    rw [show seq.isArrayIndexInBounds (fromTickIndex N s seq.tickSpacing) seq.aToB = false
      from Bool.eq_false_iff.2 fun h => hin (hiff.1 h)]
    rfl


theorem findNextInitializedTickIndex_sample :
    sampleWindow.WellFormed ∧
    (let ts : Int := sampleWindow.tickSpacing
    let c0 := (if sampleWindow.aToB then 3 else 3 + ts) / ts * ts
    (sampleWindow.windowTick c0 = none →
      sampleWindow.findNextInitializedTickIndex (-100) 100 3 [0, 0] =
        .error (.whirlpoolsError
          s!"Swap input value traversed too many arrays. Out of bounds at attempt to traverse tick index - {c0}."
          .TickArraySequenceInvalid) [0, 0]) ∧
    (sampleWindow.windowTick c0 ≠ none →
      ∃ r touched', sampleWindow.findNextInitializedTickIndex (-100) 100 3
          [0, 0] = .ok r touched' ∧
        (∀ v, r.nextTickData = some v →
          ts ∣ r.nextIndex ∧ (if sampleWindow.aToB then r.nextIndex ≤ c0 else c0 ≤ r.nextIndex) ∧
          sampleWindow.windowTick r.nextIndex = some v ∧ v.initialized = true ∧
          ∀ k, ts ∣ k →
            (if sampleWindow.aToB then r.nextIndex < k ∧ k ≤ c0 else c0 ≤ k ∧ k < r.nextIndex) →
            ∃ v', sampleWindow.windowTick k = some v' ∧ v'.initialized = false) ∧
        (r.nextTickData = none →
          r.nextIndex = max (min (if sampleWindow.aToB
              then (sampleWindow.startArrayIndex - sampleWindow.tickArrays.length + 1) * ts * 2
              else (sampleWindow.startArrayIndex + sampleWindow.tickArrays.length) * ts * 2 - 1)
            100) (-100) ∧
          ∀ k, ts ∣ k → (if sampleWindow.aToB then k ≤ c0 else c0 ≤ k) →
            ∀ v', sampleWindow.windowTick k = some v' → v'.initialized = false))) :=
  ⟨sampleWindow_wellFormed, findNextInitializedTickIndex_spec sampleWindow_wellFormed (-100) 100 3 [0, 0]⟩

end TickArraySequence

end Whirlpools
