/-
  Whirlpools.Sequence.AnyWindow
  ─────────────────────────────
  **WHAT HOLDS ON EVERY WINDOW, WELL FORMED OR NOT.**

  `Window` and `Search` prove the sequence's contract on the windows the
  callers build.  The sequence is also handed windows it only partly checks
  (the misordered or duplicated windows `checkIfIndexIsInTickArrayRange`
  defends against).  This file says what the code does on those too, with no
  assumption on the window.

  Main results:
    * `touchedArrays_only_grow` — from the constructor, every reachable flag
      vector is a 0/1 vector of length `L`, a touched slot is never cleared,
      and `getNumOfTouchedArrays` never decreases along a run;
    * `findNextInitializedTickIndex_scan` — the search is the linear scan
      it looks like: `getTick` at `c0, c0 ∓ ts, …` until an initialized
      tick, `getTick`'s error, or a tick outside the window.
-/
import Whirlpools.Sequence.Touched

namespace Whirlpools

open TickArrayIndex

/-! ## §1. The flags only grow. -/

/-- The flags a call can leave: `tf` with some of its entries set to `1`. -/
def Grows (tf tf' : List Nat) : Prop :=
  tf'.length = tf.length ∧ ∀ j, tf'[j]? = tf[j]? ∨ (j < tf.length ∧ tf'[j]? = some 1)

namespace Grows

theorem refl (tf : List Nat) : Grows tf tf := ⟨rfl, fun _ => .inl rfl⟩

theorem trans {a b c : List Nat} (h1 : Grows a b) (h2 : Grows b c) : Grows a c := by
  refine ⟨h2.1.trans h1.1, fun j => ?_⟩
  rcases h2.2 j with h | ⟨hj, h⟩
  · rcases h1.2 j with h' | ⟨hj', h'⟩
    · exact .inl (h.trans h')
    · exact .inr ⟨hj', h.trans h'⟩
  · exact .inr ⟨h1.1 ▸ hj, h⟩

theorem set (tf : List Nat) (k : Nat) : Grows tf (tf.set k 1) := by
  refine ⟨List.length_set .., fun j => ?_⟩
  rw [List.getElem?_set]
  split_ifs with h1 h2
  · exact .inr ⟨h1 ▸ h2, rfl⟩
  · exact .inl (List.getElem?_eq_none (by omega)).symm
  · exact .inl rfl

end Grows

namespace TickArraySequence

variable {N : Nat} [NeZero N] (seq : TickArraySequence N)

theorem getTick_grows (t : Int) (tf : List Nat) : Grows tf (stateAfter (seq.getTick t tf)) := by
  cases h : seq.isArrayIndexInBounds (fromTickIndex N t seq.tickSpacing) seq.aToB
  · rw [getTick_of_not_inBounds seq tf h]; exact Grows.refl tf
  · rw [stateAfter_getTick_of_inBounds seq tf h]; exact Grows.set tf _

theorem searchLoop_grows (m M : Int) (c : TickArrayIndex N) (tf : List Nat) :
    Grows tf (stateAfter (seq.searchLoop m M c tf)) := by
  cases h : seq.isArrayIndexInBounds c seq.aToB
  · rw [searchLoop_of_not_inBounds seq tf h]; exact Grows.refl tf
  · cases hb : seq.loopBody c tf with
    | inl r =>
      rw [searchLoop_of_inl seq h hb, loopBody_inl_state seq hb]
      exact seq.getTick_grows _ tf
    | inr p =>
      obtain ⟨c', tf'⟩ := p
      obtain ⟨rfl, v, hv, -⟩ := seq.loopBody_inr hb
      have hg := seq.getTick_grows c.toTickIndex tf
      rw [hv, stateAfter_ok] at hg
      rw [searchLoop_of_inr seq h hb]
      exact hg.trans (searchLoop_grows m M (seq.advance c) tf')
termination_by seq.remaining c
decreasing_by exact seq.remaining_advance_lt h

theorem exec_grows (m M : Int) (call : Call) (tf : List Nat) :
    Grows tf (seq.exec m M call tf) := by
  cases call with
  | getTick index => exact seq.getTick_grows index tf
  | findNextInitializedTickIndex currIndex =>
    simp only [exec, findNextInitializedTickIndex]
    split <;> split
    all_goals first | exact seq.searchLoop_grows m M _ tf | exact Grows.refl tf

theorem run_grows (m M : Int) : ∀ (calls : List Call) (tf : List Nat),
    Grows tf (seq.run m M calls tf)
  | [], tf => Grows.refl tf
  | call :: calls, tf => (seq.exec_grows m M call tf).trans (run_grows m M calls _)

theorem run_append (m M : Int) (calls₁ calls₂ : List Call) (tf : List Nat) :
    seq.run m M (calls₁ ++ calls₂) tf = seq.run m M calls₂ (seq.run m M calls₁ tf) :=
  List.foldl_append _ _ _ _

theorem getNumOfTouchedArrays_le_of_grows :
    ∀ (tf tf' : List Nat), Grows tf tf' → getNumOfTouchedArrays tf ≤ getNumOfTouchedArrays tf'
  | [], _, _ => Nat.zero_le _
  | _ :: _, [], h => absurd h.1 (by simp)
  | a :: as, b :: bs, ⟨hl, hj⟩ => by
    have ih := getNumOfTouchedArrays_le_of_grows as bs
      ⟨by simpa using hl, fun j => by simpa using hj (j + 1)⟩
    have h0 : b = a ∨ b = 1 := by simpa using hj 0
    simp only [getNumOfTouchedArrays, List.filter_cons, decide_eq_true_eq] at ih ⊢
    split_ifs <;> (try simp only [List.length_cons]) <;> omega

variable {seq}

/-- **The touched flags only grow.**  From the constructor, along any run of
`getTick` and `findNextInitializedTickIndex` calls on any window, returned or
thrown: every flag vector is a 0/1 vector of length `L`, a slot touched
after the calls `calls₁` is still touched after any calls `calls₂` that
follow, and `getNumOfTouchedArrays` does not decrease. -/
theorem touchedArrays_only_grow (tickArrays : List (TickArray N)) (tickSpacing : ℕ+)
    (aToB : Bool) (touchedArrays : List Nat)
    (hnew : constructor tickArrays tickSpacing aToB = .ok (seq, touchedArrays))
    (minTickIndex maxTickIndex : Int) (calls₁ calls₂ : List Call) :
    let tf₁ := seq.run minTickIndex maxTickIndex calls₁ touchedArrays
    let tf₂ := seq.run minTickIndex maxTickIndex (calls₁ ++ calls₂) touchedArrays
    tf₂.length = seq.tickArrays.length ∧ (∀ v ∈ tf₂, v = 0 ∨ v = 1) ∧
      (∀ j : Nat, tf₁[j]? = some 1 → tf₂[j]? = some 1) ∧
      getNumOfTouchedArrays tf₁ ≤ getNumOfTouchedArrays tf₂ := by
  obtain ⟨hta, rfl⟩ := constructor_ok hnew
  have h₁ := seq.run_grows minTickIndex maxTickIndex calls₁ (List.replicate tickArrays.length 0)
  have h₁₂ := seq.run_grows minTickIndex maxTickIndex calls₂
    (seq.run minTickIndex maxTickIndex calls₁ (List.replicate tickArrays.length 0))
  have h₂ := h₁.trans h₁₂
  simp only [run_append]
  refine ⟨by rw [h₂.1, List.length_replicate, hta], fun v hv => ?_, fun j hj => ?_,
    getNumOfTouchedArrays_le_of_grows _ _ h₁₂⟩
  · obtain ⟨j, hj, rfl⟩ := List.getElem_of_mem hv
    rcases h₂.2 j with h | ⟨-, h⟩ <;> rw [List.getElem?_eq_getElem hj] at h
    · rw [List.getElem?_replicate_of_lt (by rw [h₂.1] at hj; simpa using hj)] at h
      exact .inl (Option.some.inj h)
    · exact .inr (Option.some.inj h)
  · rcases h₁₂.2 j with h | ⟨-, h⟩
    · exact h.trans hj
    · exact h

theorem touchedArrays_only_grow_sample :
    constructor sampleWindow.tickArrays 2 true = .ok (sampleWindow, [0, 0]) ∧
    (let tf₁ := sampleWindow.run (-100) 100 [.getTick 2] [0, 0]
    let tf₂ := sampleWindow.run (-100) 100 ([.getTick 2] ++ [.findNextInitializedTickIndex 3])
      [0, 0]
    tf₂.length = sampleWindow.tickArrays.length ∧ (∀ v ∈ tf₂, v = 0 ∨ v = 1) ∧
      (∀ j : Nat, tf₁[j]? = some 1 → tf₂[j]? = some 1) ∧
      getNumOfTouchedArrays tf₁ ≤ getNumOfTouchedArrays tf₂) :=
  ⟨rfl, touchedArrays_only_grow sampleWindow.tickArrays 2 true [0, 0] rfl (-100) 100 _ _⟩

/-! ## §2. The search is a scan with `getTick`. -/

variable (seq)

/-- What one pass of the loop can do: return what `getTick` threw, or the
initialized tick it read. -/
theorem loopBody_inl {c : TickArrayIndex N} {tf : List Nat}
    {r : EStateM.Result SdkError (List Nat) NextTickResult} (h : seq.loopBody c tf = .inl r) :
    (∃ e s, seq.getTick c.toTickIndex tf = .error e s ∧ r = .error e s) ∨
      ∃ v s, seq.getTick c.toTickIndex tf = .ok v s ∧ v.initialized = true ∧
        r = .ok ⟨c.toTickIndex, some v⟩ s := by
  unfold loopBody at h
  split at h
  · cases h; exact .inl ⟨_, _, ‹_›, rfl⟩
  · split at h
    · cases h; exact .inr ⟨_, _, ‹_›, ‹_›, rfl⟩
    · cases h

@[simp] theorem advance_iterate_tickSpacing (c : TickArrayIndex N) (n : Nat) :
    (seq.advance^[n] c).tickSpacing = c.tickSpacing := by
  induction n with
  | zero => rfl
  | succ n ih => rw [Function.iterate_succ_apply', advance_tickSpacing, ih]

/-- How a scan ends at candidate `d`: outside the window, where the search
reports the clamped edge; or inside it, where the search throws what
`getTick` throws, or returns the initialized tick `getTick` reads. -/
def ScanEnds (m M : Int) (d : TickArrayIndex N) (res : Except SdkError NextTickResult) :
    Prop :=
  if seq.isArrayIndexInBounds d seq.aToB then
    (∃ e, outcome (seq.getTick d.toTickIndex []) = .error e ∧ res = .error e) ∨
      ∃ v, outcome (seq.getTick d.toTickIndex []) = .ok v ∧ v.initialized = true ∧
        res = .ok ⟨d.toTickIndex, some v⟩
  else res = .ok ⟨seq.lastIndexInArray m M d, none⟩

/-- From any candidate, on any window, the loop reads `n` uninitialized
candidates with `getTick` and ends as `ScanEnds` says at the next one. -/
theorem searchLoop_scan (m M : Int) (c : TickArrayIndex N) (tf : List Nat) :
    ∃ n : Nat, (∀ i < n, ∃ v, outcome (seq.getTick (seq.advance^[i] c).toTickIndex []) = .ok v ∧
        v.initialized = false) ∧
      seq.ScanEnds m M (seq.advance^[n] c) (outcome (seq.searchLoop m M c tf)) := by
  have hg := seq.getTick_outcome_indep c.toTickIndex tf []
  cases h : seq.isArrayIndexInBounds c seq.aToB
  · refine ⟨0, fun i hi => absurd hi (Nat.not_lt_zero i), ?_⟩
    rw [searchLoop_of_not_inBounds seq tf h]
    simp only [ScanEnds, Function.iterate_zero, id, h]
    rfl
  · cases hb : seq.loopBody c tf with
    | inl r =>
      refine ⟨0, fun i hi => absurd hi (Nat.not_lt_zero i), ?_⟩
      rw [searchLoop_of_inl seq h hb]
      simp only [ScanEnds, Function.iterate_zero, id, h, if_true]
      rcases seq.loopBody_inl hb with ⟨e, s, hge, rfl⟩ | ⟨v, s, hgv, hi, rfl⟩
      · exact .inl ⟨e, by rw [← hg, hge]; rfl, rfl⟩
      · exact .inr ⟨v, by rw [← hg, hgv]; rfl, hi, rfl⟩
    | inr p =>
      obtain ⟨c', tf'⟩ := p
      obtain ⟨rfl, v, hv, hi⟩ := seq.loopBody_inr hb
      obtain ⟨n, hpre, hend⟩ := searchLoop_scan m M (seq.advance c) tf'
      refine ⟨n + 1, fun i hi' => ?_, ?_⟩
      · cases i with
        | zero => exact ⟨v, by rw [Function.iterate_zero, id, ← hg, hv]; rfl, hi⟩
        | succ i => rw [Function.iterate_succ_apply]; exact hpre i (by omega)
      · rw [Function.iterate_succ_apply, searchLoop_of_inr seq h hb]
        exact hend
termination_by seq.remaining c
decreasing_by exact seq.remaining_advance_lt h

/-- **The search is a scan with `getTick`, on every window.**  Let `c0` be the
search start rounded down to the spacing and `c0 ∓ i * ts` its `i`-th
candidate.  When `c0` is outside the window the search throws
`TickArraySequenceInvalid`.  Otherwise, for some `n`, `getTick` reads the
candidates before the `n`-th as uninitialized, and at the `n`-th the search
reports the clamped edge if it is outside the window (never the first),
throws what `getTick` throws there, or returns the initialized tick
`getTick` reads there. -/
theorem findNextInitializedTickIndex_scan (seq : TickArraySequence N)
    (minTickIndex maxTickIndex currIndex : Int)
    (touchedArrays : List Nat) :
    let ts : Int := seq.tickSpacing
    let c0 := (if seq.aToB then currIndex else currIndex + ts) / ts * ts
    let cand := fun i : Nat => if seq.aToB then c0 - i * ts else c0 + i * ts
    let inWindow := fun t : Int =>
      seq.isArrayIndexInBounds (fromTickIndex N t seq.tickSpacing) seq.aToB
    let res := outcome (seq.findNextInitializedTickIndex minTickIndex maxTickIndex currIndex
      touchedArrays)
    (inWindow c0 = false → res = .error (.whirlpoolsError
        s!"Swap input value traversed too many arrays. Out of bounds at attempt to traverse tick index - {c0}."
        .TickArraySequenceInvalid)) ∧
    (inWindow c0 = true → ∃ n : Nat,
      (∀ i < n, ∃ v, outcome (seq.getTick (cand i) touchedArrays) = .ok v ∧
        v.initialized = false) ∧
      (inWindow (cand n) = false → 0 < n ∧ res = .ok ⟨max (min (if seq.aToB then cand n + ts
        else cand n - 1) maxTickIndex) minTickIndex, none⟩) ∧
      (inWindow (cand n) = true →
        (∃ e, outcome (seq.getTick (cand n) touchedArrays) = .error e ∧ res = .error e) ∨
        ∃ v, outcome (seq.getTick (cand n) touchedArrays) = .ok v ∧ v.initialized = true ∧
          res = .ok ⟨cand n, some v⟩)) := by
  dsimp only
  generalize hs : (if seq.aToB then currIndex else currIndex + (seq.tickSpacing : Int)) = s
  obtain ⟨c, hc⟩ : ∃ c, c = fromTickIndex N s seq.tickSpacing := ⟨_, rfl⟩
  have hunf : seq.findNextInitializedTickIndex minTickIndex maxTickIndex currIndex touchedArrays
      = if !seq.isArrayIndexInBounds c seq.aToB then
          .error (.whirlpoolsError
            s!"Swap input value traversed too many arrays. Out of bounds at attempt to traverse tick index - {c.toTickIndex}."
            .TickArraySequenceInvalid) touchedArrays
        else seq.searchLoop minTickIndex maxTickIndex c touchedArrays := by
    subst hs hc; rfl
  -- the `i`-th candidate is `c` advanced `i` times
  have hc0 : s / seq.tickSpacing * seq.tickSpacing = c.toTickIndex := by
    rw [hc, toTickIndex_fromTickIndex]
  have hcand : ∀ i : Nat, (seq.advance^[i] c).toTickIndex =
      if seq.aToB then c.toTickIndex - i * seq.tickSpacing
      else c.toTickIndex + i * seq.tickSpacing := by
    intro i
    rw [toTickIndex_eq, toTickIndex_eq, advance_iterate_ordinal, advance_iterate_tickSpacing,
      hc, fromTickIndex_tickSpacing]
    split <;> ring
  have hfrom : ∀ i : Nat,
      fromTickIndex N (seq.advance^[i] c).toTickIndex seq.tickSpacing = seq.advance^[i] c := by
    intro i
    subst hc
    have := fromTickIndex_toTickIndex (seq.advance^[i] (fromTickIndex N s seq.tickSpacing))
    rwa [advance_iterate_tickSpacing, fromTickIndex_tickSpacing] at this
  have hfrom0 : fromTickIndex N c.toTickIndex seq.tickSpacing = c := hfrom 0
  simp only [hc0, ← hcand, hfrom, hfrom0, hunf]
  refine ⟨fun hout => by rw [hout]; rfl, fun hin => ?_⟩
  obtain ⟨n, hpre, hend⟩ := seq.searchLoop_scan minTickIndex maxTickIndex c touchedArrays
  simp only [hin, Bool.not_true, Bool.false_eq_true, if_false]
  refine ⟨n, fun i hi => ?_, fun hout => ⟨?_, ?_⟩, fun hin' => ?_⟩
  · rw [seq.getTick_outcome_indep _ touchedArrays []]; exact hpre i hi
  · rcases n with _ | n
    · simp only [Function.iterate_zero, id, hin, reduceCtorEq] at hout
    · omega
  · simpa only [ScanEnds, hout, Bool.false_eq_true, if_false] using hend
  · simp only [ScanEnds, hin', if_true] at hend
    rwa [seq.getTick_outcome_indep _ touchedArrays []]

theorem findNextInitializedTickIndex_scan_sample :
    NeZero 2 ∧
    (let ts : Int := sampleWindow.tickSpacing
    let c0 := (if sampleWindow.aToB then 3 else 3 + ts) / ts * ts
    let cand := fun i : Nat => if sampleWindow.aToB then c0 - i * ts else c0 + i * ts
    let inWindow := fun t : Int =>
      sampleWindow.isArrayIndexInBounds (fromTickIndex 2 t sampleWindow.tickSpacing) sampleWindow.aToB
    let res := outcome (sampleWindow.findNextInitializedTickIndex (-100) 100 3
      [0, 0])
    (inWindow c0 = false → res = .error (.whirlpoolsError
        s!"Swap input value traversed too many arrays. Out of bounds at attempt to traverse tick index - {c0}."
        .TickArraySequenceInvalid)) ∧
    (inWindow c0 = true → ∃ n : Nat,
      (∀ i < n, ∃ v, outcome (sampleWindow.getTick (cand i) [0, 0]) = .ok v ∧
        v.initialized = false) ∧
      (inWindow (cand n) = false → 0 < n ∧ res = .ok ⟨max (min (if sampleWindow.aToB then cand n + ts
        else cand n - 1) 100) (-100), none⟩) ∧
      (inWindow (cand n) = true →
        (∃ e, outcome (sampleWindow.getTick (cand n) [0, 0]) = .error e ∧ res = .error e) ∨
        ∃ v, outcome (sampleWindow.getTick (cand n) [0, 0]) = .ok v ∧ v.initialized = true ∧
          res = .ok ⟨cand n, some v⟩))) :=
  ⟨inferInstance, findNextInitializedTickIndex_scan sampleWindow (-100) 100 3 [0, 0]⟩

end TickArraySequence

end Whirlpools
