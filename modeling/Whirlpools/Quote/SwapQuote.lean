/-
  Whirlpools.Quote.SwapQuote
  ──────────────────────────
  **THE SWAP QUOTE'S PRE-CHECK GUARDS THE SEQUENCE.**

  `swapQuoteByInputToken` and `swapQuoteByOutputToken` fetch the tick arrays
  of the swap's direction and call `checkIfAllTickArraysInitialized` on them
  before `simulateSwap` builds a `TickArraySequence` from the same arrays.
  The check goes through `TickArrayUtil.getUninitializedArrays`
  (`utils/public/tick-array-utils.ts`), which is not in the source and is
  modelled from the published SDK: each array's index, or `-1` when it holds
  data, keeping the non-negative ones.
  web3's base-58 encoding of an address is a parameter, `toBase58`.

  The check's index bookkeeping is `getUninitializedArrays_eq`: the indices
  kept are the positions holding `null`, in order.

  Main results:
    * `checkIfAllTickArraysInitialized_eq` — the check passes iff every array
      holds data, and otherwise its message lists exactly the arrays without
      data, in window order;
    * `checkIfAllTickArraysInitialized_guards_sequence` — on arrays that pass
      the check, the sequence is built, and no call of any run on it throws
      `TickArrayIndexNotInitialized`.
-/
import Whirlpools.Sequence.AnyWindow

namespace Whirlpools

open TickArrayIndex

/-! ## §1. `getUninitializedArrays` and the check. -/

namespace TickArrayUtil

variable {N : Nat}

/-- Modelled from the published SDK: `TickArrayUtil.getUninitializedArrays`
(`utils/public/tick-array-utils.ts`, absent from the source), which maps each
array to its index, or to `-1` when it holds data, and keeps the non-negative
entries. -/
def getUninitializedArrays (tickArrays : List (Option (TickArrayData N))) : List Int :=
  (tickArrays.mapIdx fun index value => if value.isNone then (index : Int) else -1).filter
    fun index => index ≥ 0

/-- The indices kept are the positions holding `null`, in order. -/
theorem getUninitializedArrays_eq (tickArrays : List (Option (TickArrayData N))) :
    getUninitializedArrays tickArrays =
      (tickArrays.enum.filter fun p => p.2.isNone).map fun p => (p.1 : Int) := by
  rw [getUninitializedArrays, List.mapIdx_eq_enum_map, List.filter_map]
  have hkeep : (fun index : Int => decide (index ≥ 0)) ∘ Function.uncurry
      (fun (index : Nat) (value : Option (TickArrayData N)) =>
        if value.isNone then (index : Int) else -1) = fun p => p.2.isNone := by
    funext ⟨i, v⟩
    cases v <;> simp [Function.uncurry]
  rw [hkeep]
  refine List.map_congr_left fun p hp => ?_
  simp [Function.uncurry, (List.mem_filter.1 hp).2]

end TickArrayUtil

variable {N : Nat}

/-- `checkIfAllTickArraysInitialized`.  An index the library returns always
names an array (`getUninitializedArrays_eq`), so the lookup's default is never
read. -/
def checkIfAllTickArraysInitialized (toBase58 : PublicKey → String)
    (tickArrays : List (TickArray N)) : Except SdkError Unit :=
  let uninitializedIndices := TickArrayUtil.getUninitializedArrays (tickArrays.map TickArray.data)
  if uninitializedIndices.length > 0 then
    let uninitializedArrays := String.intercalate ", " (uninitializedIndices.map fun index =>
      ((tickArrays[index.toNat]?).map fun ta => toBase58 ta.address).getD "")
    .error (.error s!"TickArray addresses - [{uninitializedArrays}] need to be initialized.")
  else .ok ()

/-- The positions the check looks up are those of the arrays without data, so
the lookups read back those arrays, in order. -/
theorem uninitializedIndices_map (f : TickArray N → String) (tickArrays : List (TickArray N)) :
    (TickArrayUtil.getUninitializedArrays (tickArrays.map TickArray.data)).map
        (fun index => ((tickArrays[index.toNat]?).map f).getD "") =
      (tickArrays.filter fun ta => ta.data.isNone).map f := by
  rw [TickArrayUtil.getUninitializedArrays_eq, List.enum_map, List.filter_map, List.map_map,
    List.map_map]
  have hsnd : (tickArrays.filter fun ta => ta.data.isNone) =
      (tickArrays.enum.filter fun p => p.2.data.isNone).map Prod.snd := by
    conv_lhs => rw [← List.enum_map_snd tickArrays, List.filter_map]
    rfl
  rw [hsnd, List.map_map]
  refine List.map_congr_left fun p hp => ?_
  have hp' := List.mem_enum_iff_getElem?.1 (List.mem_filter.1 hp).1
  simp [hp']

theorem length_getUninitializedArrays (tickArrays : List (TickArray N)) :
    (TickArrayUtil.getUninitializedArrays (tickArrays.map TickArray.data)).length =
      (tickArrays.filter fun ta => ta.data.isNone).length := by
  simpa using congrArg List.length (uninitializedIndices_map (fun _ => "") tickArrays)

/-- **The check names exactly the arrays without data.**  For every list of
arrays, `checkIfAllTickArraysInitialized` passes iff every array holds data;
otherwise it throws the message listing the base-58 addresses of the arrays
that hold none, in window order, joined by ", ". -/
theorem checkIfAllTickArraysInitialized_eq (toBase58 : PublicKey → String)
    (tickArrays : List (TickArray N)) :
    let uninitializedArrays := String.intercalate ", "
      ((tickArrays.filter fun ta => ta.data.isNone).map fun ta => toBase58 ta.address)
    checkIfAllTickArraysInitialized toBase58 tickArrays =
      if tickArrays.all fun ta => ta.data.isSome then .ok ()
      else .error (.error s!"TickArray addresses - [{uninitializedArrays}] need to be initialized.")
      := by
  intro uninitializedArrays
  simp only [checkIfAllTickArraysInitialized, uninitializedIndices_map,
    length_getUninitializedArrays]
  by_cases hall : (tickArrays.all fun ta => ta.data.isSome) = true
  · -- every array holds data: nothing is listed
    have hnil : (tickArrays.filter fun ta => ta.data.isNone) = [] := by
      simpa [List.filter_eq_nil_iff, List.all_eq_true, Option.isSome_iff_ne_none] using hall
    rw [if_neg (by simp [hnil]), if_pos hall]
  · have hne : (tickArrays.filter fun ta => ta.data.isNone) ≠ [] := by
      simpa [List.filter_eq_nil_iff, List.all_eq_true, Option.isSome_iff_ne_none] using hall
    rw [if_pos (List.length_pos.2 hne), if_neg hall]

/-- Slots 0 and 2 of three hold no data. -/
example : checkIfAllTickArraysInitialized (fun pk => toString pk.key)
    ([⟨⟨7⟩, none⟩, ⟨⟨9⟩, some ⟨0, ⟨[⟨false⟩], rfl⟩⟩⟩, ⟨⟨11⟩, none⟩] : List (TickArray 1)) =
      .error (.error "TickArray addresses - [7, 11] need to be initialized.") :=
  rfl

/-- A check that passes leaves no array without data. -/
theorem all_isSome_of_check {toBase58 : PublicKey → String} {tickArrays : List (TickArray N)}
    (h : checkIfAllTickArraysInitialized toBase58 tickArrays = .ok ()) :
    ∀ ta ∈ tickArrays, ta.data.isSome := by
  simp only [checkIfAllTickArraysInitialized, length_getUninitializedArrays] at h
  split_ifs at h with hlen
  simpa [List.filter_eq_nil_iff, Option.isSome_iff_ne_none] using hlen

/-! ## §2. No call throws `TickArrayIndexNotInitialized` after the check.

`getTick` throws it only for a slot inside the window without data; the
search throws only what `getTick` throws (`searchLoop_scan`). -/

theorem except_map_ne_error {ε α β : Type} {x : Except ε α} {e : ε} (f : α → β)
    (h : x ≠ .error e) : x.map f ≠ .error e := by
  cases x <;> simp_all [Except.map]

namespace TickArraySequence

variable [NeZero N] (seq : TickArraySequence N)

section Initialized

variable (hall : ∀ ta ∈ seq.tickArrays, ta.data.isSome)
include hall

theorem getTick_ne_notInitialized (t : Int) (tf : List Nat) (message : String) :
    outcome (seq.getTick t tf) ≠ .error (.whirlpoolsError message .TickArrayIndexNotInitialized) := by
  simp only [getTick]
  split
  · simp [outcome]
  · rename_i hb
    split
    · rename_i hnone
      -- an in-bounds slot exists, and it holds data
      simp only [isArrayIndexInBounds, Bool.not_eq_true', Bool.and_eq_false_iff,
        decide_eq_false_iff_not, not_le, not_lt, not_or] at hb
      have hk : (seq.getLocalArrayIndex (fromTickIndex N t seq.tickSpacing).arrayIndex
          seq.aToB).toNat < seq.tickArrays.length := by omega
      rw [List.getElem?_eq_getElem hk, Option.some_bind] at hnone
      exact absurd (hall _ (List.getElem_mem hk)) (by rw [hnone]; simp)
    · split <;> simp [outcome]

theorem searchLoop_ne_notInitialized (m M : Int) (c : TickArrayIndex N) (tf : List Nat)
    (message : String) :
    outcome (seq.searchLoop m M c tf) ≠
      .error (.whirlpoolsError message .TickArrayIndexNotInitialized) := by
  obtain ⟨n, -, hend⟩ := seq.searchLoop_scan m M c tf
  unfold ScanEnds at hend
  split_ifs at hend
  · rcases hend with ⟨e, he, hres⟩ | ⟨v, -, -, hres⟩ <;> rw [hres]
    · rintro ⟨⟩
      exact seq.getTick_ne_notInitialized hall _ _ message he
    · exact nofun
  · rw [hend]
    exact nofun

theorem findNextInitializedTickIndex_ne_notInitialized (m M currIndex : Int) (tf : List Nat)
    (message : String) :
    outcome (seq.findNextInitializedTickIndex m M currIndex tf) ≠
      .error (.whirlpoolsError message .TickArrayIndexNotInitialized) := by
  simp only [findNextInitializedTickIndex]
  split <;> split
  all_goals first
    | exact seq.searchLoop_ne_notInitialized hall m M _ tf message
    | simp [outcome]

theorem answers_ne_notInitialized (m M : Int) (calls : List Call) (tf : List Nat) :
    ∀ r ∈ seq.answers m M calls tf, ∀ message,
      r ≠ .error (.whirlpoolsError message .TickArrayIndexNotInitialized) := by
  induction calls generalizing tf with
  | nil => nofun
  | cons call calls ih =>
    simp only [answers, List.mem_cons]
    rintro r (rfl | hr) message
    · cases call with
      | getTick index =>
        exact except_map_ne_error _ (seq.getTick_ne_notInitialized hall index tf message)
      | findNextInitializedTickIndex currIndex =>
        exact except_map_ne_error _
          (seq.findNextInitializedTickIndex_ne_notInitialized hall m M currIndex tf message)
    · exact ih _ r hr message

end Initialized

/-- **The quote's pre-check rules out uninitialized arrays for the whole
quote.**  For every list of arrays that passes `checkIfAllTickArraysInitialized`
and is not empty, every spacing and both directions, the sequence constructor
succeeds, and in every run of `getTick` and `findNextInitializedTickIndex`
calls on the sequence, with any clamp bounds, no call throws
`TickArrayIndexNotInitialized`. -/
theorem checkIfAllTickArraysInitialized_guards_sequence (toBase58 : PublicKey → String)
    (tickArrays : List (TickArray N)) (tickSpacing : ℕ+) (aToB : Bool)
    (hcheck : checkIfAllTickArraysInitialized toBase58 tickArrays = .ok ())
    (hne : tickArrays ≠ []) :
    ∃ seq touchedArrays, constructor tickArrays tickSpacing aToB = .ok (seq, touchedArrays) ∧
      ∀ (minTickIndex maxTickIndex : Int) (calls : List Call),
        ∀ r ∈ seq.answers minTickIndex maxTickIndex calls touchedArrays, ∀ message,
          r ≠ .error (.whirlpoolsError message .TickArrayIndexNotInitialized) := by
  have hall := all_isSome_of_check hcheck
  cases hc : constructor tickArrays tickSpacing aToB with
  | error e =>
    -- the constructor throws only when slot 0 holds no data
    obtain ⟨ta, rest, rfl⟩ := List.exists_cons_of_ne_nil hne
    unfold constructor at hc
    split at hc
    · rename_i h0
      rw [List.getElem?_cons_zero, Option.some_bind] at h0
      exact absurd (hall ta (List.mem_cons_self ta rest)) (by rw [h0]; simp)
    · cases hc
  | ok p =>
    obtain ⟨seq, touchedArrays⟩ := p
    obtain ⟨hta, -⟩ := constructor_ok hc
    exact ⟨seq, touchedArrays, rfl, fun m M calls =>
      seq.answers_ne_notInitialized (hta ▸ hall) m M calls touchedArrays⟩

theorem checkIfAllTickArraysInitialized_guards_sequence_sample :
    NeZero 2 ∧
    checkIfAllTickArraysInitialized (fun pk => toString pk.key) sampleWindow.tickArrays = .ok () ∧
    sampleWindow.tickArrays ≠ [] ∧
    ∃ seq touchedArrays, constructor sampleWindow.tickArrays 2 true = .ok (seq, touchedArrays) ∧
      ∀ (minTickIndex maxTickIndex : Int) (calls : List Call),
        ∀ r ∈ seq.answers minTickIndex maxTickIndex calls touchedArrays, ∀ message,
          r ≠ .error (.whirlpoolsError message .TickArrayIndexNotInitialized) :=
  ⟨inferInstance, rfl, nofun,
    checkIfAllTickArraysInitialized_guards_sequence (fun pk => toString pk.key) _ 2 true rfl nofun⟩

end TickArraySequence

end Whirlpools
