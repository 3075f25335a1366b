import Blazer.Errors
import Mathlib.Data.BitVec

/-!
# The retry harness

`retry.Do` calls `retryableFunc` until it succeeds or the configuration says stop. After a
failed call it asks `dynamicAttempts` for the attempt budget, gives up when the call count has
reached it, asks `retryIf` and `onRetry`, computes the delay, and waits in a `select` for either
the timer channel from `after` or `ctx.Done()`.

The world is the run's `Env`: what each call returns, and how each `select` ends. A `select`
proceeds on one of the cases ready at that moment, chosen by the runtime, and never proceeds
when no case ever becomes ready. `Ready` says which cases were ready; an `Env` is `Admissible`
when each `select` takes one of them.

**Theorem (`retryDo_bound`).** When every budget `dynamicAttempts` can give in the run lies in
`[1, A]`, every run calls `retryableFunc` at most `A` times. If moreover each `select` it enters
proceeds, `Do` returns within `A` rounds, with `nil` exactly when its last call returned `nil`.
A `select` that never proceeds blocks `Do` forever (`retryDo_blocks`).

**`Do` refines the abstract retry** (`retryDo_plain`): when only the attempt count `a` can stop
it and every wait ends on its timer, `Do` is `tryUpTo`: call until a call returns `nil`, at
most `a` times, and return `nil` or the last call's error. With no attempt count (`a = 0`) it
is `tryUnbounded`, and never returns an error (`retryDo_unbounded`).

**A cancellation can lose the race** (`retryDo_cancel_lost`): when the timer has also delivered
by the time `ctx` is done, the runtime may take the timer's case, and `Do` calls
`retryableFunc` again.

Go's `uint` is `BitVec 64`; a `time.Duration` is its nanoseconds.
-/

namespace Blazer.Retry

/-- `retry.Config`. The channel `after` returns is seen through the run's `Env` only, so
`after` is not kept. A nil callback is `none` in an option, not here: the default fills them. -/
structure Config where
  attempts : BitVec 64
  delay : Int
  dynamicAttempts : BitVec 64 → BitVec 64 → GoError → BitVec 64
  dynamicDelay : BitVec 64 → Int → GoError → Int
  onRetry : BitVec 64 → GoError → Option GoError
  retryIf : BitVec 64 → GoError → Bool

/-- `newDefaultRetryConfig`: one attempt, no delay, and callbacks that change nothing. -/
def newDefaultRetryConfig : Config where
  attempts := 1
  delay := 0
  dynamicAttempts := fun _ attempts _ => attempts
  dynamicDelay := fun _ delay _ => delay
  onRetry := fun _ _ => none
  retryIf := fun _ _ => true

/-- `retry.Option`. -/
abbrev RetryOption := Config → Config

/-- `emptyOption`. -/
def emptyOption : RetryOption := id

/-- `Attempts`. -/
def attemptsOpt (attempts : BitVec 64) : RetryOption := fun c => { c with attempts }

/-- `Delay`. -/
def delayOpt (delay : Int) : RetryOption := fun c => { c with delay }

/-- `DynamicAttampts`; `none` is a nil function. -/
def dynamicAttampts : Option (BitVec 64 → BitVec 64 → GoError → BitVec 64) → RetryOption
  | none => emptyOption
  | some f => fun c => { c with dynamicAttempts := f }

/-- `DynamicDelay`; `none` is a nil function. -/
def dynamicDelayOpt : Option (BitVec 64 → Int → GoError → Int) → RetryOption
  | none => emptyOption
  | some f => fun c => { c with dynamicDelay := f }

/-- `OnRetry`; `none` is a nil function. -/
def onRetryOpt : Option (BitVec 64 → GoError → Option GoError) → RetryOption
  | none => emptyOption
  | some f => fun c => { c with onRetry := f }

/-- `RetryIf`; `none` is a nil function. -/
def retryIfOpt : Option (BitVec 64 → GoError → Bool) → RetryOption
  | none => emptyOption
  | some f => fun c => { c with retryIf := f }

/-- The configuration `Do` runs with: the default, then each option in turn. -/
def configure (opts : List RetryOption) : Config :=
  opts.foldl (fun c opt => opt c) newDefaultRetryConfig

/-! ## Runs -/

/-- The case a `select` proceeds on: the timer's channel, or `ctx.Done()` with `ctx.Err()`. -/
inductive Wake
  | timer
  | done (err : GoError)
  deriving DecidableEq, Repr

/-- The cases ready when a `select` proceeds: the timer's channel, and `ctx.Done()` with
`ctx.Err()`. -/
structure Ready where
  timer : Bool
  done : Option GoError
  deriving DecidableEq, Repr

/-- One run's world. Calls and `select`s are counted from 1. -/
structure Env where
  /-- `ctx.Err()` before the first attempt. -/
  err0 : Option GoError
  /-- What the `k`-th call of `retryableFunc` returns; `none` is `nil`. -/
  result : Nat → Option GoError
  /-- How the `k`-th `select` ends; `none` if it never proceeds. -/
  wake : Nat → Option Wake
  /-- What is ready when the `k`-th `select` proceeds. -/
  ready : Nat → Ready

/-- The runtime takes a ready case; a `select` with nothing ever ready never proceeds. -/
def Admissible (env : Env) : Prop :=
  ∀ k, match env.wake k with
    | some .timer => (env.ready k).timer = true
    | some (.done err) => (env.ready k).done = some err
    | none => env.ready k = ⟨false, none⟩

/-- How a run of `Do` stands: returned (with its error and the calls made), blocked in a
`select` for ever, or still running when the fuel ran out. -/
inductive Outcome
  | returned (err : Option GoError) (calls : Nat)
  | blocked (calls : Nat)
  | running (calls : Nat)
  deriving DecidableEq, Repr

/-- The calls made so far. -/
def Outcome.calls : Outcome → Nat
  | .returned _ calls | .blocked calls | .running calls => calls

/-- The loop of `Do` for at most `fuel` rounds; `n` is Go's counter and `calls` the calls
made so far. -/
def loop (env : Env) : Nat → Config → BitVec 64 → Nat → Outcome
  | 0, _, _, calls => .running calls
  | fuel + 1, c, n, calls =>
    let n := n + 1
    let calls := calls + 1
    match env.result calls with
    | none => .returned none calls
    | some err =>
      let attempts := c.dynamicAttempts n c.attempts err
      if attempts ≠ 0 ∧ n ≥ attempts then .returned (some err) calls
      else if !c.retryIf n err then .returned (some err) calls
      else match c.onRetry n err with
        | some err => .returned (some err) calls
        | none =>
          let delay := c.dynamicDelay n c.delay err
          match env.wake calls with
          | none => .blocked calls
          | some .timer => loop env fuel { c with attempts, delay } n calls
          | some (.done err) => .returned (some err) calls

/-- `retry.Do`, for at most `fuel` rounds of its loop. -/
def retryDo (env : Env) (opts : List RetryOption) (fuel : Nat) : Outcome :=
  match env.err0 with
  | some err => .returned (some err) 0
  | none => loop env fuel (configure opts) 0 0

/-! ## The attempt bound -/

/-- Every budget `dynamicAttempts` can give in a run of `c` lies in `[1, A]`: the budget it is
handed is the configured one, or one it gave before. -/
def BudgetsWithin (c : Config) (A : Nat) : Prop :=
  ∀ n y err, (y = c.attempts ∨ 1 ≤ y.toNat ∧ y.toNat ≤ A) →
    1 ≤ (c.dynamicAttempts n y err).toNat ∧ (c.dynamicAttempts n y err).toNat ≤ A

theorem budgetsWithin_step {c : Config} {A : Nat} (h : BudgetsWithin c A) (n : BitVec 64)
    (err : GoError) (delay : Int) :
    BudgetsWithin { c with attempts := c.dynamicAttempts n c.attempts err, delay } A := by
  intro m y e hy
  refine h m y e (hy.elim (fun hy => .inr ?_) .inr)
  exact hy ▸ h n c.attempts err (.inl rfl)

theorem loop_continue {c : Config} {n : BitVec 64} {err : GoError}
    (h : ¬ (c.dynamicAttempts (n + 1) c.attempts err ≠ 0 ∧
      n + 1 ≥ c.dynamicAttempts (n + 1) c.attempts err)) :
    (n + 1).toNat < (c.dynamicAttempts (n + 1) c.attempts err).toNat ∨
      c.dynamicAttempts (n + 1) c.attempts err = 0 := by
  by_cases h0 : c.dynamicAttempts (n + 1) c.attempts err = 0
  · exact .inr h0
  · left
    have := not_and.1 h h0
    rw [ge_iff_le, BitVec.le_def] at this
    omega

/-- What is proved of a run of the loop that starts after `calls` calls: at most `A` calls,
and, when every `select` proceeds and the fuel covers the budget, a return that is `nil`
exactly when the last call was. -/
def LoopSpec (env : Env) (A calls fuel : Nat) (o : Outcome) : Prop :=
  o.calls ≤ A ∧ ((∀ k, env.wake k ≠ none) → A ≤ calls + fuel →
    ∃ r k, o = .returned r k ∧ (r = none ↔ k ≠ 0 ∧ env.result k = none))

theorem loop_spec (env : Env) (A : Nat) :
    ∀ fuel c n calls, BudgetsWithin c A → n.toNat = calls → calls < A → calls + 1 < 2 ^ 64 →
      LoopSpec env A calls fuel (loop env fuel c n calls) := by
  intro fuel
  induction fuel with
  | zero =>
    intro c n calls _ _ hA _
    exact ⟨by simp only [loop, Outcome.calls]; omega, fun _ h => by omega⟩
  | succ fuel ih =>
    intro c n calls hb hn hA hw
    have hn1 : (n + 1).toNat = calls + 1 := by
      rw [BitVec.toNat_add, hn]; simp; omega
    -- every round that returns does so right after call `calls + 1`
    have ret : ∀ r, (r = none ↔ env.result (calls + 1) = none) →
        LoopSpec env A calls (fuel + 1) (.returned r (calls + 1)) := fun r hr =>
      ⟨by simp only [Outcome.calls]; omega, fun _ _ => ⟨r, calls + 1, rfl, by simpa using hr⟩⟩
    simp only [loop]
    cases hres : env.result (calls + 1) with
    | none => exact ret none (by simp [hres])
    | some err =>
      have hsome : ∀ x : GoError, (some x = none ↔ env.result (calls + 1) = none) := by
        simp [hres]
      have hdyn := hb (n + 1) c.attempts err (.inl rfl)
      simp only
      split_ifs with h₁ h₂
      · exact ret _ (hsome err)
      · exact ret _ (hsome err)
      · split
        · exact ret _ (hsome _)
        · split
          · exact ⟨by simp only [Outcome.calls]; omega, fun h _ => absurd ‹_› (h _)⟩
          · have h0 : c.dynamicAttempts (n + 1) c.attempts err ≠ 0 := by
              intro h0; rw [h0] at hdyn; simp at hdyn
            have hlt : calls + 1 < (c.dynamicAttempts (n + 1) c.attempts err).toNat :=
              hn1 ▸ (loop_continue h₁).resolve_right h0
            have := (c.dynamicAttempts (n + 1) c.attempts err).isLt
            obtain ⟨h₃, h₄⟩ := ih _ _ _ (budgetsWithin_step hb _ _ _) hn1 (by omega) (by omega)
            exact ⟨h₃, fun h h' => h₄ h (by omega)⟩
          · exact ret _ (hsome _)

/-- When every budget `dynamicAttempts` can give lies in `[1, A]`, every run of `Do` calls
`retryableFunc` at most `A` times; if every `select` it enters proceeds, `A` rounds see it
return, `nil` exactly when its last call returned `nil`. -/
theorem retryDo_bound (env : Env) (opts : List RetryOption) (A : Nat)
    (hA : BudgetsWithin (configure opts) A) :
    (∀ fuel, (retryDo env opts fuel).calls ≤ A) ∧
    ((∀ k, env.wake k ≠ none) →
      ∃ r k, retryDo env opts A = .returned r k ∧ (r = none ↔ k ≠ 0 ∧ env.result k = none)) := by
  have hA1 : 1 ≤ A := by
    have := hA 0 (configure opts).attempts (.other "") (.inl rfl)
    omega
  unfold retryDo
  cases h0 : env.err0 with
  | some err => exact ⟨fun _ => by simp [Outcome.calls], fun _ => ⟨_, 0, rfl, by simp⟩⟩
  | none =>
    have hs := fun fuel => loop_spec env A fuel (configure opts) 0 0 hA rfl (by omega) (by omega)
    exact ⟨fun fuel => (hs fuel).1, fun hw => (hs A).2 hw (by omega)⟩

theorem budgetsWithin_attempts (a : BitVec 64) (ha : 1 ≤ a.toNat) :
    BudgetsWithin (configure [attemptsOpt a]) a.toNat := by
  rintro n y err (rfl | hy)
  · exact ⟨ha, le_rfl⟩
  · exact hy

/-- A call that fails once with a 503, then succeeds. -/
def failOnce (k : Nat) : Option GoError := if k = 1 then some (.other "503") else none

/-- Every `select` proceeds on its timer. -/
def timersFire : Env :=
  { err0 := none, result := failOnce, wake := fun _ => some .timer,
    ready := fun _ => ⟨true, none⟩ }

theorem retryDo_bound_three_attempts :
    BudgetsWithin (configure [attemptsOpt 3]) 3 ∧
      ∃ r k, retryDo timersFire [attemptsOpt 3] 3 = .returned r k ∧
        (r = none ↔ k ≠ 0 ∧ timersFire.result k = none) :=
  ⟨budgetsWithin_attempts 3 (by decide),
    (retryDo_bound timersFire [attemptsOpt 3] 3 (budgetsWithin_attempts 3 (by decide))).2
      (fun _ => by simp [timersFire])⟩

/-- A replacement `after` whose channel never delivers (the nil channel), and a context that
is never done: the first `select` never proceeds. -/
def neverWakes : Env :=
  { err0 := none, result := fun _ => some (.other "503"), wake := fun _ => none,
    ready := fun _ => ⟨false, none⟩ }

/-- With two attempts allowed and a failed first call, `Do` blocks in its first `select` for
ever: however long it runs, it has not returned. -/
theorem retryDo_blocks :
    Admissible neverWakes ∧ BudgetsWithin (configure [attemptsOpt 2]) 2 ∧
      ∀ fuel, retryDo neverWakes [attemptsOpt 2] (fuel + 1) = .blocked 1 :=
  ⟨fun _ => rfl, budgetsWithin_attempts 2 (by decide), fun _ => rfl⟩

/-! ## Cancellation -/

/-- `ctx` is cancelled while `Do` waits after a failed first call, and by the time the
`select` proceeds the timer has delivered too. -/
def cancelRace : Env :=
  { err0 := none, result := failOnce, wake := fun _ => some .timer,
    ready := fun _ => ⟨true, some .canceled⟩ }

/-- The runtime may take the timer's case although `ctx` is done: `Do` calls `retryableFunc`
a second time and returns its `nil`, not `ctx.Err()`. -/
theorem retryDo_cancel_lost :
    Admissible cancelRace ∧ (cancelRace.ready 1).done = some .canceled ∧
      retryDo cancelRace [attemptsOpt 2] 2 = .returned none 2 :=
  ⟨fun _ => rfl, rfl, rfl⟩

/-! ## What `Do` is for -/

/-- A configuration in which only the attempt count `a` can stop `Do`: `dynamicAttempts` hands
the budget back, `retryIf` retries every error and `onRetry` never fails. -/
structure Config.Plain (c : Config) (a : BitVec 64) : Prop where
  attempts : c.attempts = a
  dynamicAttempts : ∀ n y err, c.dynamicAttempts n y err = y
  retryIf : ∀ n err, c.retryIf n err = true
  onRetry : ∀ n err, c.onRetry n err = none

/-- The first of the `m` calls from call `s` on that returns `nil`. -/
def firstSuccess (result : Nat → Option GoError) (s m : Nat) : Option Nat :=
  (List.range' s m).find? fun k => (result k).isNone

theorem firstSuccess_succ (result : Nat → Option GoError) (s m : Nat) :
    firstSuccess result s (m + 1) =
      if (result s).isNone then some s else firstSuccess result (s + 1) m := by
  simp only [firstSuccess, List.range'_succ, List.find?_cons]
  cases (result s).isNone <;> rfl

/-- The abstract retry: call until a call returns `nil`, at most `a` times; return `nil`, or
the last call's error. -/
def tryUpTo (result : Nat → Option GoError) (a : Nat) : Outcome :=
  match firstSuccess result 1 a with
  | some k => .returned none k
  | none => .returned (result a) a

/-- The loop of a plain configuration, from call `calls + 1` on, while every `select` takes
the timer. -/
theorem loop_plain (env : Env) (a : BitVec 64) (hw : ∀ k, env.wake k = some .timer) :
    ∀ fuel c n calls, c.Plain a → n.toNat = calls → calls < a.toNat → a.toNat - calls ≤ fuel →
      loop env fuel c n calls = match firstSuccess env.result (calls + 1) (a.toNat - calls) with
        | some k => .returned none k
        | none => .returned (env.result a.toNat) a.toNat := by
  intro fuel
  induction fuel with
  | zero => intro c n calls _ _ hA hf; omega
  | succ fuel ih =>
    intro c n calls hp hn hA hf
    have hn1 : (n + 1).toNat = calls + 1 := by
      have := a.isLt
      rw [BitVec.toNat_add, hn]; simp; omega
    obtain ⟨m, hm⟩ : ∃ m, a.toNat - calls = m + 1 := ⟨a.toNat - calls - 1, by omega⟩
    rw [hm, firstSuccess_succ]
    simp only [loop, hp.dynamicAttempts, hp.attempts, hp.retryIf, hp.onRetry, hw]
    cases hres : env.result (calls + 1) with
    | none => rfl
    | some err =>
      simp only [Option.isNone_some, Bool.false_eq_true, if_false, Bool.not_true]
      by_cases hlast : calls + 1 = a.toNat
      · have hstop : a ≠ 0 ∧ n + 1 ≥ a := by
          refine ⟨fun h0 => ?_, ?_⟩
          · rw [h0] at hlast; simp at hlast
          · rw [ge_iff_le, BitVec.le_def]; omega
        have hm0 : m = 0 := by omega
        rw [if_pos hstop, hm0, ← hlast, hres]
        rfl
      · have hgo : ¬ (a ≠ 0 ∧ n + 1 ≥ a) := by
          rw [ge_iff_le, BitVec.le_def]; omega
        rw [if_neg hgo]
        have hp' : Config.Plain
            { c with attempts := a, delay := c.dynamicDelay (n + 1) c.delay err } a :=
          ⟨rfl, hp.dynamicAttempts, hp.retryIf, hp.onRetry⟩
        rw [ih _ _ _ hp' hn1 (by omega) (by omega)]
        rw [show a.toNat - (calls + 1) = m by omega]

/-- **`Do` refines the abstract retry.** With a plain configuration of `a ≥ 1` attempts and
every wait ended by its timer, `Do` calls `retryableFunc` until a call returns `nil`, at most
`a` times, and returns `nil` or the last call's error: what `tryUpTo` says, once the loop has
had `a` rounds. -/
theorem retryDo_plain (env : Env) (opts : List RetryOption) (a : BitVec 64)
    (hp : (configure opts).Plain a) (ha : 1 ≤ a.toNat) (h0 : env.err0 = none)
    (hw : ∀ k, env.wake k = some .timer) (fuel : Nat) (hf : a.toNat ≤ fuel) :
    retryDo env opts fuel = tryUpTo env.result a.toNat := by
  rw [retryDo, h0, loop_plain env a hw fuel _ 0 0 hp rfl ha (by omega)]
  rfl

/-- With three attempts, `Do` on a call that fails once is the abstract retry. -/
theorem retryDo_plain_three_attempts :
    (configure [attemptsOpt 3]).Plain 3 ∧
      retryDo timersFire [attemptsOpt 3] 3 = tryUpTo failOnce 3 :=
  ⟨⟨rfl, fun _ _ _ => rfl, fun _ _ => rfl, fun _ _ => rfl⟩,
    retryDo_plain timersFire [attemptsOpt 3] 3
      ⟨rfl, fun _ _ _ => rfl, fun _ _ => rfl, fun _ _ => rfl⟩
      (by decide) rfl (fun _ => rfl) 3 le_rfl⟩

/-- The abstract retry returns `nil` after the second call. -/
example : tryUpTo failOnce 3 = .returned none 2 := by decide

/-- The abstract unbounded retry: call until a call returns `nil`; after `fuel` failed calls,
still calling. -/
def tryUnbounded (result : Nat → Option GoError) (fuel : Nat) : Outcome :=
  match firstSuccess result 1 fuel with
  | some k => .returned none k
  | none => .running fuel

theorem loop_unbounded (env : Env) (hw : ∀ k, env.wake k = some .timer) :
    ∀ fuel c n calls, c.Plain 0 →
      loop env fuel c n calls = match firstSuccess env.result (calls + 1) fuel with
        | some k => .returned none k
        | none => .running (calls + fuel) := by
  intro fuel
  induction fuel with
  | zero => intro c n calls _; rfl
  | succ fuel ih =>
    intro c n calls hp
    rw [firstSuccess_succ]
    simp only [loop, hp.dynamicAttempts, hp.attempts, hp.retryIf, hp.onRetry, hw]
    cases env.result (calls + 1) with
    | none => rfl
    | some err =>
      have hp' : Config.Plain
          { c with attempts := 0, delay := c.dynamicDelay (n + 1) c.delay err } 0 :=
        ⟨rfl, hp.dynamicAttempts, hp.retryIf, hp.onRetry⟩
      simp only [Option.isNone_some, Bool.false_eq_true, if_false, Bool.not_true, ne_eq,
        not_true_eq_false, false_and, ih _ _ _ hp', Nat.add_right_comm calls 1 fuel]
      rfl

/-- **With no attempt count `Do` never gives up.** With a plain configuration of `0` attempts
and every wait ended by its timer, `Do` calls `retryableFunc` until a call returns `nil`, and
never returns an error: what `tryUnbounded` says, for every number of rounds. -/
theorem retryDo_unbounded (env : Env) (opts : List RetryOption)
    (hp : (configure opts).Plain 0) (h0 : env.err0 = none)
    (hw : ∀ k, env.wake k = some .timer) (fuel : Nat) :
    retryDo env opts fuel = tryUnbounded env.result fuel := by
  rw [retryDo, h0, loop_unbounded env hw fuel _ 0 0 hp, Nat.zero_add, Nat.zero_add]
  rfl

/-- With no attempt count, `Do` on a call that fails once is the abstract unbounded retry. -/
theorem retryDo_unbounded_fail_once :
    (configure [attemptsOpt 0]).Plain 0 ∧
      retryDo timersFire [attemptsOpt 0] 5 = tryUnbounded failOnce 5 :=
  ⟨⟨rfl, fun _ _ _ => rfl, fun _ _ => rfl, fun _ _ => rfl⟩,
    retryDo_unbounded timersFire [attemptsOpt 0]
      ⟨rfl, fun _ _ _ => rfl, fun _ _ => rfl, fun _ _ => rfl⟩ rfl (fun _ => rfl) 5⟩

/-- A call that always fails keeps the unbounded retry calling. -/
example : tryUnbounded (fun _ => some (.other "503")) 4 = .running 4 := by decide

end Blazer.Retry
