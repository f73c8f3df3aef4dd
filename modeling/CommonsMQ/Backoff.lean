import Mathlib.Algebra.Order.Floor.Ring
import CommonsMQ.Lib.FixedWidth
import CommonsMQ.Connection

/-! # The waits between two dials

`backoffDuration` converts before `retryDelay` caps. While the exact product fits into
64 bits the two commute; beyond, the delay is negative, the cap has nothing to cap, and
the wait falls back to a millisecond.
-/

namespace CommonsMQ

open FixedWidth

/-- `initial * multiplier^attempt`, one factor for each earlier attempt. -/
def backoffDuration (initial : Int) (multiplier : ℚ) (attempt : Nat) : Int :=
  ofRat ((· * multiplier)^[attempt] (initial : ℚ))

def retryDelay (cfg : Config) (attempt : Nat) : Int :=
  let d := backoffDuration cfg.initialRetryInterval cfg.retryMultiplier attempt
  if cfg.maxRetryInterval < d then cfg.maxRetryInterval else d

/-- What `sleepWithJitterCtx` sleeps at least. -/
def sleepBase (d : Int) : Int := if d ≤ 0 then 1000000 else d

/-- The bound of the random draw. -/
def jitterCeil (d : Int) : Int :=
  let ceil := (sleepBase d).tdiv 10
  if ceil ≤ 0 then 1 else ceil

/-- The duration of the timer that `sleepWithJitterCtx` arms, given its random draw. -/
def sleepWithJitterCtx (d draw : Int) : Int := wrap (sleepBase d + draw)

/-- What the documentation says of attempt `n`. -/
def plannedDelay (cfg : Config) (n : Nat) : Int :=
  min ⌊(cfg.initialRetryInterval : ℚ) * cfg.retryMultiplier ^ n⌋ cfg.maxRetryInterval

namespace ClientConfig

variable (client : ClientConfig)

theorem initialRetryInterval_pos : 0 < client.cfg.initialRetryInterval := by
  obtain ⟨raw, defaulted⟩ := client.defaulted
  rw [← defaulted, Config.applyDefaults]
  simp only
  split <;> omega

theorem maxRetryInterval_pos : 0 < client.cfg.maxRetryInterval := by
  obtain ⟨raw, defaulted⟩ := client.defaulted
  rw [← defaulted, Config.applyDefaults]
  simp only
  split <;> omega

theorem one_le_retryMultiplier : 1 ≤ client.cfg.retryMultiplier := by
  obtain ⟨raw, defaulted⟩ := client.defaulted
  rw [← defaulted, Config.applyDefaults]
  simp only
  split
  · norm_num
  · exact not_lt.mp ‹_›

/-- The exact delay before attempt `n + 1`. -/
def growth (n : Nat) : ℚ := (client.cfg.initialRetryInterval : ℚ) * client.cfg.retryMultiplier ^ n

theorem growth_mono {m n : Nat} (le : m ≤ n) : client.growth m ≤ client.growth n := by
  have positive : (0 : ℚ) ≤ client.cfg.initialRetryInterval := by
    exact_mod_cast client.initialRetryInterval_pos.le
  exact mul_le_mul_of_nonneg_left (pow_le_pow_right₀ client.one_le_retryMultiplier le) positive

theorem one_le_growth (n : Nat) : 1 ≤ client.growth n := by
  have positive : (1 : ℚ) ≤ client.cfg.initialRetryInterval := by
    exact_mod_cast client.initialRetryInterval_pos
  have start : 1 ≤ client.growth 0 := by simpa [growth] using positive
  exact start.trans (client.growth_mono n.zero_le)

theorem growth_floor_pos (n : Nat) : 0 < ⌊client.growth n⌋ :=
  Int.floor_pos.mpr (client.one_le_growth n)

theorem backoffDuration_eq (n : Nat) :
    backoffDuration client.cfg.initialRetryInterval client.cfg.retryMultiplier n =
      ofRat (client.growth n) := by
  rw [backoffDuration, mul_right_iterate_apply, growth]

theorem retryDelay_of_fits {n : Nat} (fits : ⌊client.growth n⌋ < limit) :
    retryDelay client.cfg n = plannedDelay client.cfg n := by
  have nonneg : 0 ≤ client.growth n := zero_le_one.trans (client.one_le_growth n)
  have converted := ofRat_of_fits nonneg fits
  simp only [retryDelay, client.backoffDuration_eq, converted, plannedDelay]
  change _ = min ⌊client.growth n⌋ _
  split <;> omega

theorem retryDelay_of_overflow {n : Nat} (overflow : limit ≤ ⌊client.growth n⌋) :
    retryDelay client.cfg n = minValue := by
  have nonneg : 0 ≤ client.growth n := zero_le_one.trans (client.one_le_growth n)
  have converted := ofRat_of_overflow nonneg overflow
  have cap := client.maxRetryInterval_pos
  have least : minValue < 0 := by decide
  simp only [retryDelay, client.backoffDuration_eq, converted]
  split <;> omega

theorem plannedDelay_pos (n : Nat) : 0 < plannedDelay client.cfg n :=
  lt_min (client.growth_floor_pos n) client.maxRetryInterval_pos

theorem plannedDelay_mono {m n : Nat} (le : m ≤ n) :
    plannedDelay client.cfg m ≤ plannedDelay client.cfg n :=
  min_le_min_right _ (Int.floor_le_floor (client.growth_mono le))

end ClientConfig

section Jitter

variable {d draw : Int}

theorem sleepBase_of_pos (positive : 0 < d) : sleepBase d = d := if_neg (by omega)

theorem jitterCeil_of_pos (positive : 0 < d) : jitterCeil d = max (d / 10) 1 := by
  have same : d.tdiv 10 = d / 10 := Int.tdiv_eq_ediv_of_nonneg positive.le
  simp only [jitterCeil, sleepBase_of_pos positive, same]
  split <;> omega

/-- The timer stays in its window, unless the sum overflows. -/
theorem sleepWithJitterCtx_of_fits (positive : 0 < d) (nonneg : 0 ≤ draw)
    (fits : d + draw < limit) : sleepWithJitterCtx d draw = d + draw := by
  rw [sleepWithJitterCtx, sleepBase_of_pos positive]
  exact wrap_of_fits (by omega) fits

theorem sleepWithJitterCtx_neg (positive : 0 < d) (fits : d < limit) (drawn : draw < limit)
    (overflow : limit ≤ d + draw) : sleepWithJitterCtx d draw < 0 := by
  rw [sleepWithJitterCtx, sleepBase_of_pos positive]
  exact wrap_neg_of_overflow overflow (by omega)

end Jitter

/-- The delay of attempt `n` is the planned one, positive and no less than the earlier
    ones, and the timer adds at most a tenth to it. -/
structure BacksOff (cfg : Config) (n : Nat) : Prop where
  planned : retryDelay cfg n = plannedDelay cfg n
  positive : 0 < retryDelay cfg n
  grows : ∀ m ≤ n, retryDelay cfg m ≤ retryDelay cfg n
  timer : ∀ draw, 0 ≤ draw → draw < jitterCeil (retryDelay cfg n) →
    retryDelay cfg n ≤ sleepWithJitterCtx (retryDelay cfg n) draw ∧
      sleepWithJitterCtx (retryDelay cfg n) draw < retryDelay cfg n + max (retryDelay cfg n / 10) 1

/-- Backoff works as documented exactly for the attempts whose uncapped delay fits into
    64 bits, as long as the delay with its greatest jitter does. -/
theorem backsOff_iff (client : ClientConfig) (n : Nat) :
    BacksOff client.cfg n ↔
      ⌊(client.cfg.initialRetryInterval : ℚ) * client.cfg.retryMultiplier ^ n⌋ < 2 ^ 63 ∧
        plannedDelay client.cfg n + max (plannedDelay client.cfg n / 10) 1 ≤ 2 ^ 63 := by
  change _ ↔ ⌊client.growth n⌋ < limit ∧
    plannedDelay client.cfg n + max (plannedDelay client.cfg n / 10) 1 ≤ limit
  have positive := client.plannedDelay_pos n
  constructor
  · intro backsOff
    have fits : ⌊client.growth n⌋ < limit := by
      by_contra overflow
      have negative := client.retryDelay_of_overflow (not_lt.mp overflow)
      have least : minValue < 0 := by decide
      have delay := backsOff.positive
      omega
    have short : plannedDelay client.cfg n < limit := (min_le_left _ _).trans_lt fits
    refine ⟨fits, ?_⟩
    by_contra overflow
    have ceil := jitterCeil_of_pos positive
    have timer := backsOff.timer (jitterCeil (plannedDelay client.cfg n) - 1)
    rw [backsOff.planned] at timer
    have negative : sleepWithJitterCtx (plannedDelay client.cfg n)
        (jitterCeil (plannedDelay client.cfg n) - 1) < 0 :=
      sleepWithJitterCtx_neg positive short (by omega) (by omega)
    have window := (timer (by omega) (by omega)).1
    omega
  · rintro ⟨fits, room⟩
    have delay := client.retryDelay_of_fits fits
    refine ⟨delay, by omega, fun m le => ?_, fun draw nonneg drawn => ?_⟩
    · have earlier := client.retryDelay_of_fits
        ((Int.floor_le_floor (client.growth_mono le)).trans_lt fits)
      rw [delay, earlier]
      exact client.plannedDelay_mono le
    · rw [delay] at drawn ⊢
      rw [jitterCeil_of_pos positive] at drawn
      rw [sleepWithJitterCtx_of_fits positive nonneg (by omega)]
      omega

/-- Default intervals, and more attempts than the default. -/
def ClientConfig.persistent : ClientConfig where
  cfg := Config.applyDefaults
    { queueManagerName := "QM1", connectionName := "localhost(1414)", channelName := "APP"
      maxRetries := 50 }
  defaulted := ⟨_, rfl⟩
  valid := (Config.complaints_applyDefaults _).mpr
    ⟨by decide, by decide, by decide, by decide⟩

/-- The 34th wait: two seconds, doubled 33 times, do not fit, and the loop waits a
    millisecond instead of thirty seconds. -/
theorem cap_lost_after_overflow :
    33 + 1 < ClientConfig.persistent.cfg.attempts ∧
      plannedDelay ClientConfig.persistent.cfg 33 = 30000000000 ∧
      retryDelay ClientConfig.persistent.cfg 33 = -2 ^ 63 ∧
      sleepWithJitterCtx (retryDelay ClientConfig.persistent.cfg 33) 0 = 1000000 ∧
      ¬BacksOff ClientConfig.persistent.cfg 33 := by
  have planned : plannedDelay ClientConfig.persistent.cfg 33 = 30000000000 := by decide +kernel
  have delay : retryDelay ClientConfig.persistent.cfg 33 = -2 ^ 63 := by decide +kernel
  refine ⟨by decide, planned, delay, ?_, fun backsOff => ?_⟩
  · rw [delay]
    decide
  · have positive := backsOff.positive
    omega

end CommonsMQ
