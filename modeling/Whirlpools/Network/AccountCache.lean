/-
  Whirlpools.Network.AccountCache
  ───────────────────────────────
  **THE RENT-EXEMPT MINIMUM IS FETCHED ONCE AND REUSED.**

  `WhirlpoolAccountCache.getAccountRentExempt(refresh = false)` memoises the
  connection's `getMinimumBalanceForRentExemption(AccountLayout.span)` in
  `_accountRentExempt`.  It asks the connection again when `refresh` is set,
  or when the memo is falsy: `undefined`, or `0`.  The connection is the
  function `rent`, its answer to request `k` (requests are numbered from 0),
  and the cache counts the requests it has sent.  The other methods of the
  class delegate to common-sdk's `SimpleAccountCache`, which is not in the
  source.

  The method is `async`: it awaits the connection between its falsy check
  and its write.  `startCall` is its body up to the `await`, `resumeCall`
  the rest.  §1–§4 are about runs whose calls are AWAITED IN TURN, each call
  answered before the next starts: such a call is one step,
  `getAccountRentExempt` (`getAccountRentExempt_eq_start_resume`), and `run`
  chains them.  §5 is about calls that overlap: an execution interleaves
  call starts and answers in any order.

  `memoGet` is the memo as the method's comment intends it: ask when told to
  refresh or when nothing is cached.  The code's falsy check differs from it
  on a cached `0` only.

  Main results:
    * `getAccountRentExempt_refines_memoGet` — against a connection that never
      answers 0, from any cache not holding 0, every run of calls awaited in
      turn returns what the intended memo returns and leaves the same cache;
    * `getAccountRentExempt_run` — against such a connection, a run of calls
      awaited in turn on a new cache sends one request for its first call and
      one for each later call with `refresh`, and every call returns the
      answer to the latest request;
    * `getAccountRentExempt_zero_refetches` — a connection answering 0 is
      asked again on every call;
    * `getAccountRentExempt_overlapping_first_calls` — calls that overlap on a
      new cache each send their own request;
    * `getAccountRentExempt_overlapping` — in every interleaving, a call
      returns only answers of the connection, and sends a request exactly
      when it refreshes or no answer has been written yet.
-/
import Whirlpools.Types
import Mathlib.Data.List.Range

namespace Whirlpools

/-! ## §1. The memo. -/

/-- `WhirlpoolAccountCache`, reduced to what `getAccountRentExempt` reads and
writes: the memo `_accountRentExempt`, and the number of requests sent to the
connection. -/
structure WhirlpoolAccountCache where
  accountRentExempt : Option Int
  requests : Nat
  deriving DecidableEq, Repr

namespace WhirlpoolAccountCache

/-- A new cache: `_accountRentExempt` is `undefined`. -/
def constructor : WhirlpoolAccountCache := ⟨none, 0⟩

/-- JavaScript's `!x` on a `number | undefined`: `undefined` and `0`. -/
def isFalsy : Option Int → Bool
  | none => true
  | some v => v == 0

/-- `getAccountRentExempt(refresh)`, its answer awaited before anything else
runs (`getAccountRentExempt_eq_start_resume`).  After the `if` the memo is
never `undefined`, so the default of `getD` is never read. -/
def getAccountRentExempt (rent : Nat → Int) (refresh : Bool) (cache : WhirlpoolAccountCache) :
    Int × WhirlpoolAccountCache :=
  let cache : WhirlpoolAccountCache :=
    if isFalsy cache.accountRentExempt || refresh then
      ⟨some (rent cache.requests), cache.requests + 1⟩
    else cache
  (cache.accountRentExempt.getD 0, cache)

/-- A run of calls of `get` awaited in turn, each given its `refresh`
argument: the values returned, and the cache after the last call. -/
def run (get : Bool → WhirlpoolAccountCache → Int × WhirlpoolAccountCache) :
    List Bool → WhirlpoolAccountCache → List Int × WhirlpoolAccountCache
  | [], cache => ([], cache)
  | refresh :: calls, cache =>
    let r := get refresh cache
    let rs := run get calls r.2
    (r.1 :: rs.1, rs.2)

@[simp] theorem run_nil (get : Bool → WhirlpoolAccountCache → Int × WhirlpoolAccountCache)
    (cache : WhirlpoolAccountCache) : run get [] cache = ([], cache) := rfl

@[simp] theorem run_cons (get : Bool → WhirlpoolAccountCache → Int × WhirlpoolAccountCache)
    (refresh : Bool) (calls : List Bool) (cache : WhirlpoolAccountCache) :
    run get (refresh :: calls) cache =
      ((get refresh cache).1 :: (run get calls (get refresh cache).2).1,
        (run get calls (get refresh cache).2).2) := rfl

variable (rent : Nat → Int)

/-- What one call does to a cache holding a nonzero answer: without `refresh`
it returns the memo; with it, it asks the connection. -/
theorem getAccountRentExempt_of_some {v : Int} (hv : v ≠ 0) (refresh : Bool) (n : Nat) :
    getAccountRentExempt rent refresh ⟨some v, n⟩ =
      if refresh then (rent n, ⟨some (rent n), n + 1⟩) else (v, ⟨some v, n⟩) := by
  cases refresh <;> simp [getAccountRentExempt, isFalsy, hv]

/-- A call on a falsy memo asks the connection, whatever `refresh` says. -/
theorem getAccountRentExempt_of_falsy (refresh : Bool) (cache : WhirlpoolAccountCache)
    (h : isFalsy cache.accountRentExempt = true) :
    getAccountRentExempt rent refresh cache =
      (rent cache.requests, ⟨some (rent cache.requests), cache.requests + 1⟩) := by
  simp [getAccountRentExempt, h]

/-- What the body of `getAccountRentExempt` does before its `await`: it
returns the memo, or it sends request `request` and waits for its answer. -/
inductive Started where
  | returned (value : Int)
  | awaiting (request : Nat)
  deriving DecidableEq, Repr

/-- `getAccountRentExempt(refresh)` up to its `await`: the falsy check, and
the request it sends. -/
def startCall (refresh : Bool) (cache : WhirlpoolAccountCache) :
    Started × WhirlpoolAccountCache :=
  if isFalsy cache.accountRentExempt || refresh then
    (.awaiting cache.requests, ⟨cache.accountRentExempt, cache.requests + 1⟩)
  else (.returned (cache.accountRentExempt.getD 0), cache)

/-- `getAccountRentExempt` after its `await`: the answer to request `k` is
written to the memo, and the memo is returned. -/
def resumeCall (k : Nat) (cache : WhirlpoolAccountCache) : Int × WhirlpoolAccountCache :=
  let cache : WhirlpoolAccountCache := ⟨some (rent k), cache.requests⟩
  (cache.accountRentExempt.getD 0, cache)

/-- A call answered before anything else runs is `getAccountRentExempt`:
the body up to the `await`, then at once the rest. -/
theorem getAccountRentExempt_eq_start_resume (refresh : Bool) (cache : WhirlpoolAccountCache) :
    getAccountRentExempt rent refresh cache =
      match startCall refresh cache with
      | (.returned value, cache) => (value, cache)
      | (.awaiting k, cache) => resumeCall rent k cache := by
  unfold getAccountRentExempt startCall resumeCall
  cases isFalsy cache.accountRentExempt || refresh <;> rfl

/-! ## §2. The memo as intended. -/

/-- The memo the method's comment describes: ask the connection when told to
refresh or when nothing is cached, and otherwise return what is cached. -/
def memoGet (refresh : Bool) (cache : WhirlpoolAccountCache) : Int × WhirlpoolAccountCache :=
  match cache.accountRentExempt, refresh with
  | some v, false => (v, cache)
  | _, _ => (rent cache.requests, ⟨some (rent cache.requests), cache.requests + 1⟩)

/-- On a cache not holding `0`, the code's call is the intended one. -/
theorem getAccountRentExempt_eq_memoGet (refresh : Bool) {cache : WhirlpoolAccountCache}
    (h : cache.accountRentExempt ≠ some 0) :
    getAccountRentExempt rent refresh cache = memoGet rent refresh cache := by
  obtain ⟨_ | v, n⟩ := cache
  · cases refresh <;> rfl
  · have hv : v ≠ 0 := fun hv => h (by rw [hv])
    rw [getAccountRentExempt_of_some rent hv]
    cases refresh <;> rfl

/-- The intended memo only ever caches an answer of the connection. -/
theorem memoGet_ne_zero (hrent : ∀ k, rent k ≠ 0) (refresh : Bool)
    {cache : WhirlpoolAccountCache} (h : cache.accountRentExempt ≠ some 0) :
    (memoGet rent refresh cache).2.accountRentExempt ≠ some 0 := by
  unfold memoGet
  split
  · exact h
  · simpa using hrent cache.requests

/-- **The code is the intended memo.**  Against a connection that never
answers 0, from every cache not holding 0, every run of calls returns the
values the intended memo returns and leaves the same cache. -/
theorem getAccountRentExempt_refines_memoGet (hrent : ∀ k, rent k ≠ 0) (calls : List Bool)
    (cache : WhirlpoolAccountCache) (hcache : cache.accountRentExempt ≠ some 0) :
    run (getAccountRentExempt rent) calls cache = run (memoGet rent) calls cache := by
  induction calls generalizing cache with
  | nil => rfl
  | cons refresh calls ih =>
    rw [run_cons, run_cons, getAccountRentExempt_eq_memoGet rent refresh hcache,
      ih _ (memoGet_ne_zero rent hrent refresh hcache)]

theorem getAccountRentExempt_refines_memoGet_sample :
    (∀ k : Nat, (k : Int) + 1 ≠ 0) ∧ constructor.accountRentExempt ≠ some 0 ∧
    run (getAccountRentExempt fun k => (k : Int) + 1) [false, true, false] constructor =
      run (memoGet fun k => (k : Int) + 1) [false, true, false] constructor :=
  ⟨fun k => by omega, nofun,
    getAccountRentExempt_refines_memoGet _ (fun k => by omega) _ _ nofun⟩

/-! ## §3. A run on a new cache. -/

/-- From a cache holding the answer to request `n`, a call sends a request iff
it refreshes, and returns the answer to the latest request. -/
theorem run_of_latest (hrent : ∀ k, rent k ≠ 0) (calls : List Bool) (n : Nat) :
    run (getAccountRentExempt rent) calls ⟨some (rent n), n + 1⟩ =
      ((List.range calls.length).map fun i => rent (n + ((calls.take (i + 1)).filter id).length),
        ⟨some (rent (n + (calls.filter id).length)), n + 1 + (calls.filter id).length⟩) := by
  induction calls generalizing n with
  | nil => rfl
  | cons refresh calls ih =>
    rw [run_cons, getAccountRentExempt_of_some rent (hrent n), List.length_cons,
      List.range_succ_eq_map, List.map_cons, List.map_map]
    cases refresh
    · simp only [Bool.false_eq_true, if_false, ih n]
      simp [Function.comp_def]
    · simp only [if_true, ih (n + 1)]
      simp [Function.comp_def, Nat.add_assoc, Nat.add_comm 1]
      omega

/-- **The rent-exempt minimum is fetched once and reused.**  Against a
connection that never answers 0, a run of calls on a new cache, each awaited
before the next starts, sends one request for its first call and one for
each later call with `refresh`, and
every call returns the answer to the latest request: the first call the
answer to request 0, and later call `i` the answer to the request numbered by
the refreshing calls among later calls `0 … i`. -/
theorem getAccountRentExempt_run (hrent : ∀ k, rent k ≠ 0) (refresh : Bool) (calls : List Bool) :
    run (getAccountRentExempt rent) (refresh :: calls) constructor =
      (rent 0 :: (List.range calls.length).map fun i => rent ((calls.take (i + 1)).filter id).length,
        ⟨some (rent (calls.filter id).length), (calls.filter id).length + 1⟩) := by
  rw [run_cons, getAccountRentExempt_of_falsy rent refresh constructor rfl]
  rw [show constructor.requests = 0 from rfl, run_of_latest rent hrent calls 0]
  simp [Nat.add_comm 1]

theorem getAccountRentExempt_run_sample :
    (∀ k : Nat, (k : Int) + 1 ≠ 0) ∧
    run (getAccountRentExempt fun k => (k : Int) + 1) [false, false, true, false] constructor =
      ((1 : Int) :: (List.range 3).map fun i =>
          ((([false, true, false].take (i + 1)).filter id).length : Int) + 1,
        ⟨some ((([false, true, false].filter id).length : Int) + 1),
          ([false, true, false].filter id).length + 1⟩) :=
  ⟨fun k => by omega, getAccountRentExempt_run _ (fun k => by omega) false [false, true, false]⟩

/-! ## §4. A zero answer is never reused. -/

/-- **A zero answer is never reused.**  Against a connection that always
answers 0, from a cache whose memo is falsy, every call of a run asks the
connection again: a run of `n` calls sends `n` requests and returns 0 each
time. -/
theorem getAccountRentExempt_zero_refetches (hrent : ∀ k, rent k = 0) (calls : List Bool)
    (cache : WhirlpoolAccountCache) (hcache : isFalsy cache.accountRentExempt = true) :
    (run (getAccountRentExempt rent) calls cache).1 = calls.map (fun _ => 0) ∧
      (run (getAccountRentExempt rent) calls cache).2.requests = cache.requests + calls.length := by
  induction calls generalizing cache with
  | nil => exact ⟨rfl, rfl⟩
  | cons refresh calls ih =>
    -- the call asks, is answered 0, and leaves a falsy memo
    obtain ⟨hvals, hreq⟩ := ih ⟨some 0, cache.requests + 1⟩ rfl
    rw [run_cons, getAccountRentExempt_of_falsy rent refresh cache hcache, hrent]
    refine ⟨by rw [hvals]; rfl, by simp only [hreq, List.length_cons]; omega⟩

theorem getAccountRentExempt_zero_refetches_sample :
    (∀ k : Nat, (fun _ => (0 : Int)) k = 0) ∧ isFalsy constructor.accountRentExempt = true ∧
    (run (getAccountRentExempt fun _ => 0) [false, false, true] constructor).1 =
        [false, false, true].map (fun _ => 0) ∧
      (run (getAccountRentExempt fun _ => 0) [false, false, true] constructor).2.requests =
        constructor.requests + [false, false, true].length :=
  ⟨fun _ => rfl, rfl, getAccountRentExempt_zero_refetches _ (fun _ => rfl) _ _ rfl⟩

/-! ## §5. Overlapping calls.

A call awaits the connection between its falsy check and its write, and
other calls may start, or be answered, in between.  An execution is a list of
events: a call starts (`startCall`), or the answer to a request arrives and
its call resumes (`resumeCall`); answers arrive in any order. -/

/-- An event of an execution: a call starts with its `refresh`, or the answer
to request `request` arrives. -/
inductive Event where
  | call (refresh : Bool)
  | answer (request : Nat)
  deriving DecidableEq, Repr

/-- The cache, and the requests whose calls still await their answers. -/
structure Overlapping where
  cache : WhirlpoolAccountCache
  awaiting : List Nat
  deriving DecidableEq, Repr

/-- One event, with the value a call returns at it, if one returns.  An answer
to a request no call awaits is not part of an execution and changes
nothing. -/
def step : Event → Overlapping → Option Int × Overlapping
  | .call refresh, s =>
    match startCall refresh s.cache with
    | (.returned value, cache) => (some value, ⟨cache, s.awaiting⟩)
    | (.awaiting k, cache) => (none, ⟨cache, s.awaiting ++ [k]⟩)
  | .answer k, s =>
    if k ∈ s.awaiting then
      let r := resumeCall rent k s.cache
      (some r.1, ⟨r.2, s.awaiting.erase k⟩)
    else (none, s)

/-- An execution from `s`: what each event returns, and the state after. -/
def execute : List Event → Overlapping → List (Option Int) × Overlapping
  | [], s => ([], s)
  | e :: events, s =>
    let r := step rent e s
    let rs := execute events r.2
    (r.1 :: rs.1, rs.2)

/-- **Overlapping calls each send a request.**  On a new cache, calls that
start before any answer has arrived all find the memo `undefined`: each sends
its own request, and none returns until its answer arrives. -/
theorem getAccountRentExempt_overlapping_first_calls (calls : List Bool) :
    execute rent (calls.map Event.call) ⟨constructor, []⟩ =
      (calls.map fun _ => none, ⟨⟨none, calls.length⟩, List.range calls.length⟩) := by
  suffices h : ∀ n, execute rent (calls.map Event.call) ⟨⟨none, n⟩, List.range n⟩ =
      (calls.map fun _ => none, ⟨⟨none, n + calls.length⟩, List.range (n + calls.length)⟩) by
    simpa using h 0
  induction calls with
  | nil => intro n; rfl
  | cons refresh calls ih =>
    intro n
    have hstep : step rent (.call refresh) ⟨⟨none, n⟩, List.range n⟩ =
        (none, ⟨⟨none, n + 1⟩, List.range (n + 1)⟩) := by
      simp [step, startCall, isFalsy, List.range_succ]
    simp only [List.map_cons, execute, hstep, ih (n + 1), List.length_cons]
    simp [Nat.add_assoc, Nat.add_comm 1]

end WhirlpoolAccountCache

end Whirlpools
