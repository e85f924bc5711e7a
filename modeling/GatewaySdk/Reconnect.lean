import GatewaySdk.Config
import Mathlib.Algebra.Order.Ring.Rat
import Mathlib.Data.Rat.Floor

/-!
# The reconnect policy

`ReconnectPolicy` of `reconnect_policy.h`/`reconnect_policy.cpp`: the attempt counter, the
`enabled` switch, and the capped exponential backoff with jitter.  The random jitter factor is
an input: `getNextDelay` takes the draw of `uniform_real_distribution(-f, f)`.  The counter is
a `uint32_t`, so its increment wraps at `2^32`; durations are signed millisecond counts.

From the second attempt on, the delay is capped at `maxDelay`, and with jitter every delay is
clamped to `[1, maxDelay]`; but the first attempt after a reset returns `initialDelay` as it
is, so a configuration whose initial delay exceeds its maximum waits longer on the first
attempt than the cap allows, and less on the second.
-/

namespace GatewaySdk

/-- The state of a `ReconnectPolicy`: the settings copied from `ReconnectConfig` and the
attempt counter. -/
structure ReconnectPolicy where
  enabled : Bool
  initialDelay : Nat
  maxDelay : Nat
  backoffMultiplier : ℚ
  jitterEnabled : Bool
  maxJitterFraction : ℚ
  maxAttempts : Nat
  resubscribe : Bool
  attemptCount : Nat
  deriving DecidableEq, Repr

namespace ReconnectPolicy

/-- `ReconnectPolicy(const ReconnectConfig&)`. -/
def ofConfig (config : ReconnectConfig) : ReconnectPolicy :=
  { enabled := config.enabled
    initialDelay := config.initialDelay
    maxDelay := config.maxDelay
    backoffMultiplier := config.backoffMultiplier
    jitterEnabled := config.jitterEnabled
    maxJitterFraction := config.maxJitterFraction
    maxAttempts := config.maxAttempts
    resubscribe := config.resubscribeOnReconnect
    attemptCount := 0 }

/-- `ReconnectPolicy::shouldReconnect`. -/
def shouldReconnect (policy : ReconnectPolicy) : Bool :=
  if !policy.enabled then false
  else if 0 < policy.maxAttempts && policy.maxAttempts ≤ policy.attemptCount then false
  else true

/-- `ReconnectPolicy::reset`. -/
def reset (policy : ReconnectPolicy) : ReconnectPolicy :=
  { policy with attemptCount := 0 }

/-- `ReconnectPolicy::setEnabled`. -/
def setEnabled (policy : ReconnectPolicy) (enabled : Bool) : ReconnectPolicy :=
  { policy with enabled }

/-- `static_cast<long long>` of a double: truncation toward zero. -/
def truncate (value : ℚ) : Int :=
  if 0 ≤ value then value.floor else value.ceil

/-- `ReconnectPolicy::calculateDelay`: the initial delay for the first attempt, then
`initialDelay × multiplier^(attempt − 1)` capped at the maximum delay. -/
def calculateDelay (policy : ReconnectPolicy) : Int :=
  if policy.attemptCount ≤ 1 then policy.initialDelay
  else
    truncate (min ((policy.initialDelay : ℚ) *
      policy.backoffMultiplier ^ (policy.attemptCount - 1)) policy.maxDelay)

/-- `ReconnectPolicy::addJitter` with the draw `draw` of the jitter distribution: the delay
scaled by `1 + draw`, clamped to `[1, maxDelay]`. -/
def addJitter (policy : ReconnectPolicy) (draw : ℚ) (delay : Int) : Int :=
  if !policy.jitterEnabled || policy.maxJitterFraction ≤ 0 then delay
  else min (max 1 (truncate (delay * (1 + draw)))) policy.maxDelay

/-- `ReconnectPolicy::getNextDelay`: no delay once attempts are not allowed, otherwise count
the attempt and compute its delay. -/
def getNextDelay (policy : ReconnectPolicy) (draw : ℚ) : ReconnectPolicy × Int :=
  if !policy.shouldReconnect then (policy, 0)
  else
    let counted := { policy with attemptCount := (policy.attemptCount + 1) % 2 ^ 32 }
    let delay := counted.calculateDelay
    (counted, if counted.jitterEnabled then counted.addJitter draw delay else delay)

@[simp] theorem reset_attemptCount (policy : ReconnectPolicy) : policy.reset.attemptCount = 0 :=
  rfl

@[simp] theorem setEnabled_enabled (policy : ReconnectPolicy) (enabled : Bool) :
    (policy.setEnabled enabled).enabled = enabled :=
  rfl

@[simp] theorem reset_enabled (policy : ReconnectPolicy) : policy.reset.enabled = policy.enabled :=
  rfl

theorem shouldReconnect_eq_true (policy : ReconnectPolicy) :
    policy.shouldReconnect = true ↔
      policy.enabled = true ∧ (policy.maxAttempts = 0 ∨ policy.attemptCount < policy.maxAttempts) := by
  unfold shouldReconnect
  cases policy.enabled <;> simp only [Bool.not_false, Bool.not_true] <;> split_ifs <;> simp_all <;>
    omega

/-- `getNextDelay` changes only the attempt counter, and only when an attempt is allowed. -/
theorem getNextDelay_fst (policy : ReconnectPolicy) (draw : ℚ) :
    (policy.getNextDelay draw).1 =
      if policy.shouldReconnect then { policy with attemptCount := (policy.attemptCount + 1) % 2 ^ 32 }
      else policy := by
  unfold getNextDelay
  cases policy.shouldReconnect <;> rfl

@[simp] theorem getNextDelay_enabled (policy : ReconnectPolicy) (draw : ℚ) :
    (policy.getNextDelay draw).1.enabled = policy.enabled := by
  rw [getNextDelay_fst]
  split <;> rfl

/-- Truncation keeps a value at or below a non-negative integer bound. -/
theorem truncate_le {value : ℚ} {bound : Int} (below : value ≤ bound) (nonneg : 0 ≤ bound) :
    truncate value ≤ bound := by
  unfold truncate
  split
  case isTrue =>
    show ⌊value⌋ ≤ bound
    rw [Int.floor_le_iff]
    linarith
  case isFalse negative =>
    have numNeg : value.num < 0 := Rat.num_neg.mpr (not_le.mp negative)
    have quotient := Int.ediv_neg' numNeg (show (0 : Int) < value.den by exact_mod_cast value.den_pos)
    unfold Rat.ceil
    split <;> omega

/-- The delay of an allowed attempt: the counter moves first, then the delay is computed,
with jitter when it is enabled. -/
theorem getNextDelay_snd {policy : ReconnectPolicy} (allowed : policy.shouldReconnect = true)
    (draw : ℚ) :
    (policy.getNextDelay draw).2 =
      let counted := { policy with attemptCount := (policy.attemptCount + 1) % 2 ^ 32 }
      if counted.jitterEnabled then counted.addJitter draw counted.calculateDelay
      else counted.calculateDelay := by
  simp [getNextDelay, allowed]

/-- From the second attempt on, `calculateDelay` is capped at `maxDelay`. -/
theorem calculateDelay_le_maxDelay (policy : ReconnectPolicy) (later : 2 ≤ policy.attemptCount) :
    policy.calculateDelay ≤ policy.maxDelay := by
  unfold calculateDelay
  rw [if_neg (by omega)]
  exact truncate_le (min_le_right _ _) (Int.natCast_nonneg _)

/-- Jitter clamps every delay to `[1, maxDelay]`, whatever the draw. -/
theorem addJitter_mem (policy : ReconnectPolicy) (jitter : policy.jitterEnabled = true)
    (positive : 0 < policy.maxJitterFraction) (atLeastOne : 1 ≤ policy.maxDelay) (draw : ℚ)
    (delay : Int) :
    1 ≤ policy.addJitter draw delay ∧ policy.addJitter draw delay ≤ policy.maxDelay := by
  have kept : ¬ policy.maxJitterFraction ≤ 0 := not_le.mpr positive
  simp only [addJitter, jitter, Bool.not_true, Bool.false_or, decide_eq_true_eq, kept, if_false]
  omega

/-- The first attempt after a reset waits `initialDelay`, whatever `maxDelay` is. -/
theorem getNextDelay_first {policy : ReconnectPolicy} (allowed : policy.shouldReconnect = true)
    (fresh : policy.attemptCount = 0) (steady : policy.jitterEnabled = false) (draw : ℚ) :
    (policy.getNextDelay draw).2 = policy.initialDelay := by
  simp [getNextDelay_snd allowed, steady, calculateDelay, fresh]

/-- Every later attempt, up to the wrap of the counter, waits at most `maxDelay`, with or
without jitter. -/
theorem getNextDelay_capped {policy : ReconnectPolicy} (allowed : policy.shouldReconnect = true)
    (later : 1 ≤ policy.attemptCount) (noWrap : policy.attemptCount + 1 < 2 ^ 32) (draw : ℚ) :
    (policy.getNextDelay draw).2 ≤ policy.maxDelay := by
  have capped := calculateDelay_le_maxDelay
    { policy with attemptCount := (policy.attemptCount + 1) % 2 ^ 32 }
    (by simp only [Nat.mod_eq_of_lt noWrap]; omega)
  rw [getNextDelay_snd allowed]
  dsimp only
  split
  · unfold addJitter
    split
    · exact capped
    · exact min_le_right _ _
  · exact capped

/-- With jitter, every attempt waits between `1` and `maxDelay`, for every draw. -/
theorem getNextDelay_jittered {policy : ReconnectPolicy} (allowed : policy.shouldReconnect = true)
    (jitter : policy.jitterEnabled = true) (positive : 0 < policy.maxJitterFraction)
    (atLeastOne : 1 ≤ policy.maxDelay) (draw : ℚ) :
    1 ≤ (policy.getNextDelay draw).2 ∧ (policy.getNextDelay draw).2 ≤ policy.maxDelay := by
  rw [getNextDelay_snd allowed]
  dsimp only
  rw [if_pos jitter]
  exact addJitter_mem _ jitter positive atLeastOne _ _

/-- With `initialDelay = 2000` above `maxDelay = 1000` and no jitter, the first attempt waits
2000 ms, above the cap, and the second 1000 ms, less than the first. -/
theorem first_delay_exceeds_maxDelay :
    ((ofConfig { initialDelay := 2000, maxDelay := 1000, jitterEnabled := false }).getNextDelay
        0).2 = 2000 ∧
      (((ofConfig { initialDelay := 2000, maxDelay := 1000, jitterEnabled := false }).getNextDelay
        0).1.getNextDelay 0).2 = 1000 := by
  norm_num [ofConfig, getNextDelay, shouldReconnect, calculateDelay, truncate]
  rfl

end ReconnectPolicy

end GatewaySdk
