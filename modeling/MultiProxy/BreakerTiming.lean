import MultiProxy.ChannelHistory

/-!
# The timing of the circuit breaker

A channel that was marked any number of times, and a later look at it. The
counter and the time of the last failure say all that the history has to say.
-/

namespace MultiProxy.BreakerTiming

open MultiProxy.RustRuntime MultiProxy.UpstreamDsn MultiProxy.ChannelHealth
open MultiProxy.ChannelHistory

set_option autoImplicit false

/-- Seconds that a row of failures of this length keeps a channel away. -/
def window (failures : Nat) : Nat := min (3 ^ failures) 300

theorem window_monotone {fewer more : Nat} (order : fewer ≤ more) : window fewer ≤ window more := by
  have power : 3 ^ fewer ≤ 3 ^ more := Nat.pow_le_pow_right (by decide) order
  simp only [window]
  omega

theorem window_le (failures : Nat) : window failures ≤ 300 := Nat.min_le_right _ _

/-- The state of a channel that was new before these reports. -/
abbrev reported (id : Nat) (dsn : Dsn) (reports : List Report) : Channel :=
  replay (Channel.new id dsn) reports

section History

variable (id : Nat) (dsn : Dsn) (reports : List Report)

theorem reported_backoff :
    (reported id dsn reports).backoff = window (trailing reports) := by
  rw [backoff_value, replay_failure_count]
  exact saturated_power _

theorem power_fits (channel : Channel) : 3 ^ (min channel.failureCount 6).toNat ≤ u64Max := by
  have capped : (min channel.failureCount 6).toNat ≤ 6 := by
    by_cases few : channel.failureCount ≤ 6
    · have same : min channel.failureCount 6 = channel.failureCount := if_pos few
      rw [same]
      exact UInt32.le_iff_toNat_le.mp few
    · have same : min channel.failureCount 6 = 6 := if_neg few
      rw [same]
      exact le_rfl
  have power : 3 ^ (min channel.failureCount 6).toNat ≤ 3 ^ 6 :=
    Nat.pow_le_pow_right (by decide) capped
  exact power.trans (by decide)

theorem retries_behind_healthy {front : List Report} {last : Report} (healthy : last.healthy = true)
    (now : Instant) : (reported id dsn (front ++ [last])).shouldRetry now = true := by
  simp [Channel.shouldRetry, Channel.mark, Channel.markHealthy, healthy]

theorem retries_behind_failure {front : List Report} {last : Report}
    (unhealthy : last.healthy = false) (now : Instant) :
    (reported id dsn (front ++ [last])).shouldRetry now = true ↔
      window (trailing (front ++ [last])) ≤ asSecs (elapsed now last.time) := by
  rw [← reported_backoff id dsn (front ++ [last])]
  simp [Channel.shouldRetry, Channel.mark, Channel.markUnhealthy, unhealthy]

theorem retries_iff (now : Instant) :
    (reported id dsn reports).shouldRetry now = true ↔
      reports = [] ∨ ∃ last, reports.getLast? = some last ∧
        (last.healthy = true ∨
          window (trailing reports) ≤ asSecs (elapsed now last.time)) := by
  rcases last_or_none reports with rfl | ⟨front, last, rfl⟩
  · simp [Channel.shouldRetry, Channel.new]
  · cases healthy : last.healthy with
    | true =>
        apply iff_of_true (retries_behind_healthy id dsn healthy now)
        exact Or.inr ⟨last, List.getLast?_concat, Or.inl healthy⟩
    | false =>
        rw [retries_behind_failure id dsn healthy now]
        simp [healthy]

/-- Healthy marks and the time that passes never shut the breaker again. -/
theorem retries_until_failure {channel : Channel} {later : List Report} {earlier now : Instant}
    (healthy : ∀ report ∈ later, report.healthy = true) (order : earlier ≤ now)
    (retry : channel.shouldRetry earlier = true) :
    (replay channel later).shouldRetry now = true := by
  rcases last_or_none later with rfl | ⟨front, last, rfl⟩
  · exact Channel.should_retry_later order retry
  · have lastHealthy := healthy last (by simp)
    simp [Channel.shouldRetry, Channel.mark, Channel.markHealthy, lastHealthy]

def lastFailed : Option Report := (reports.filter fun report => !report.healthy).getLast?

theorem retries_after_limit {now : Instant} {failed : Report}
    (latest : lastFailed reports = some failed)
    (waited : 300 ≤ asSecs (elapsed now failed.time)) :
    (reported id dsn reports).shouldRetry now = true := by
  rcases last_or_none reports with rfl | ⟨front, last, rfl⟩
  · cases latest
  · cases healthy : last.healthy with
    | true => exact retries_behind_healthy id dsn healthy now
    | false =>
        have same : last = failed := by simpa [lastFailed, healthy] using latest
        rw [retries_behind_failure id dsn healthy now, same]
        exact (window_le _).trans waited

theorem unhealthy_has_failure (unhealthy : (reported id dsn reports).health = .unhealthy) :
    (reported id dsn reports).lastFailure ≠ none := by
  rcases last_or_none reports with rfl | ⟨front, last, rfl⟩
  · cases unhealthy
  · cases healthy : last.healthy with
    | true => simp [Channel.mark, Channel.markHealthy, healthy] at unhealthy
    | false => simp [Channel.mark, Channel.markUnhealthy, healthy]

/-- What the breaker does, told from the history of a channel alone. -/
structure TimingLaw : Prop where
  retries : ∀ now, (reported id dsn reports).shouldRetry now = true ↔
    reports = [] ∨ ∃ last, reports.getLast? = some last ∧
      (last.healthy = true ∨ min (3 ^ trailing reports) 300 ≤ asSecs (elapsed now last.time))
  counter_saturates :
    (reported id dsn reports).failureCount.toNat = min (trailing reports) u32Max
  power_exact : saturatingPow 3 (min (reported id dsn reports).failureCount 6).toNat =
    3 ^ (min (reported id dsn reports).failureCount 6).toNat
  window_grows : ∀ others, trailing reports ≤ trailing others →
    (reported id dsn reports).backoff ≤ (reported id dsn others).backoff
  stays_open : ∀ later earlier now, (∀ report ∈ later, report.healthy = true) → earlier ≤ now →
    (reported id dsn reports).shouldRetry earlier = true →
      (reported id dsn (reports ++ later)).shouldRetry now = true
  never_past_limit : ∀ now failed, lastFailed reports = some failed →
    300 ≤ asSecs (elapsed now failed.time) →
      (reported id dsn reports).shouldRetry now = true
  failure_known : (reported id dsn reports).health = .unhealthy →
    (reported id dsn reports).lastFailure ≠ none

/-- The law holds for every history of marks and every later moment. -/
theorem breaker_timing_law : TimingLaw id dsn reports where
  retries := retries_iff id dsn reports
  counter_saturates := replay_failure_count id dsn reports
  power_exact := Nat.min_eq_left (power_fits _)
  window_grows := by
    intro others longer
    rw [reported_backoff, reported_backoff]
    exact window_monotone longer
  stays_open := by
    intro later earlier now healthy order retry
    rw [reported, replay_append]
    exact retries_until_failure healthy order retry
  never_past_limit := by
    intro now failed latest waited
    exact retries_after_limit id dsn reports latest waited
  failure_known := unhealthy_has_failure id dsn reports

end History

end MultiProxy.BreakerTiming
