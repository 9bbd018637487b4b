import MultiProxy.ChannelHealth

/-!
# What a channel's state says about its marks

A channel that was marked again and again since it was new tells how its last
marks went: none, a healthy one, or a row of unhealthy ones and their number.
-/

namespace MultiProxy.ChannelHistory

open MultiProxy.RustRuntime MultiProxy.UpstreamDsn MultiProxy.ChannelHealth

set_option autoImplicit false

/-- What one mark says, and when. -/
structure Report where
  healthy : Bool
  time : Instant
  deriving DecidableEq, Repr

def replay (channel : Channel) (reports : List Report) : Channel :=
  reports.foldl (fun channel report => channel.mark report.healthy report.time) channel

/-- How many of the last reports, one behind the other, were unhealthy. -/
def trailing (reports : List Report) : Nat :=
  (reports.reverse.takeWhile fun report => !report.healthy).length

@[simp] theorem replay_nil (channel : Channel) : replay channel [] = channel := rfl

@[simp] theorem replay_snoc (channel : Channel) (reports : List Report) (last : Report) :
    replay channel (reports ++ [last]) = (replay channel reports).mark last.healthy last.time := by
  simp [replay]

theorem replay_append (channel : Channel) (reports later : List Report) :
    replay channel (reports ++ later) = replay (replay channel reports) later := by
  simp [replay]

@[simp] theorem trailing_nil : trailing [] = 0 := rfl

theorem trailing_snoc (reports : List Report) (last : Report) :
    trailing (reports ++ [last]) = if last.healthy then 0 else trailing reports + 1 := by
  rw [trailing, List.reverse_append]
  cases healthy : last.healthy <;> simp [trailing, healthy]

@[simp] theorem replay_id (channel : Channel) (reports : List Report) :
    (replay channel reports).id = channel.id := by
  induction reports generalizing channel with
  | nil => rfl
  | cons report rest ih => exact (ih _).trans (Channel.mark_id _ _ _)

@[simp] theorem replay_dsn (channel : Channel) (reports : List Report) :
    (replay channel reports).dsn = channel.dsn := by
  induction reports generalizing channel with
  | nil => rfl
  | cons report rest ih => exact (ih _).trans (Channel.mark_dsn _ _ _)

/-- The counter is the length of the row, as far as 32 bits hold it. -/
theorem replay_failure_count (id : Nat) (dsn : Dsn) (reports : List Report) :
    (replay (Channel.new id dsn) reports).failureCount.toNat = min (trailing reports) u32Max := by
  induction reports using List.reverseRecOn with
  | nil => rfl
  | append_singleton front last ih =>
      rw [replay_snoc, trailing_snoc]
      cases healthy : last.healthy with
      | true => rfl
      | false =>
          have counted := saturating_add_value (replay (Channel.new id dsn) front).failureCount 1
          have one : (1 : UInt32).toNat = 1 := rfl
          rw [ih, one] at counted
          simp only [Channel.mark, Channel.markUnhealthy, Bool.false_eq_true, if_false, counted]
          omega

theorem replay_failures (channel : Channel) (reports : List Report)
    (failed : ∀ report ∈ reports, report.healthy = false) :
    (replay channel reports).failureCount.toNat =
        min (channel.failureCount.toNat + reports.length) u32Max ∧
      (replay channel reports).health =
        if reports.length = 0 then channel.health else .unhealthy := by
  have fits : channel.failureCount.toNat ≤ u32Max := by
    have small := channel.failureCount.toNat_lt
    simp only [u32Max]
    omega
  induction reports using List.reverseRecOn with
  | nil => simp [fits]
  | append_singleton front last ih =>
      have unhealthy := failed last (by simp)
      have before := (ih fun report member => failed report (by simp [member])).1
      have counted := saturating_add_value (replay channel front).failureCount 1
      have one : (1 : UInt32).toNat = 1 := rfl
      rw [before, one] at counted
      rw [replay_snoc, unhealthy]
      constructor
      · simp only [Channel.mark, Channel.markUnhealthy, Bool.false_eq_true, if_false, counted,
          List.length_append, List.length_singleton]
        omega
      · simp [Channel.mark, Channel.markUnhealthy]

theorem last_or_none (reports : List Report) :
    reports = [] ∨ ∃ front last, reports = front ++ [last] := by
  cases reports using List.reverseRecOn with
  | nil => exact .inl rfl
  | append_singleton front last => exact .inr ⟨front, last, rfl⟩

/-- The state that goes with a history. -/
structure Determined (channel : Channel) (reports : List Report) : Prop where
  unknown : (channel.health = .unknown ∧ channel.failureCount = 0 ∧ channel.lastFailure = none) ↔
    reports = []
  healthy : (channel.health = .healthy ∧ channel.failureCount = 0) ↔
    ∃ last, reports.getLast? = some last ∧ last.healthy = true
  unhealthy : (channel.health = .unhealthy ∧
      channel.lastFailure = reports.getLast?.map Report.time ∧
        channel.failureCount.toNat = min (trailing reports) u32Max) ↔ 1 ≤ trailing reports

theorem replay_determined (id : Nat) (dsn : Dsn) (reports : List Report) :
    Determined (replay (Channel.new id dsn) reports) reports := by
  have counted := replay_failure_count id dsn reports
  rcases last_or_none reports with rfl | ⟨front, last, rfl⟩
  · constructor
    · simp [Channel.new]
    · simp [Channel.new]
    · simp [Channel.new]
  · cases healthy : last.healthy with
    | true =>
        constructor
        · simp [Channel.mark, Channel.markHealthy, healthy]
        · simp [Channel.mark, Channel.markHealthy, healthy]
        · simp [Channel.mark, Channel.markHealthy, healthy, trailing_snoc]
    | false =>
        rw [replay_snoc] at counted
        constructor
        · simp [Channel.mark, Channel.markUnhealthy, healthy]
        · simp [Channel.mark, Channel.markUnhealthy, healthy]
        · simp only [replay_snoc, counted]
          simp [Channel.mark, Channel.markUnhealthy, healthy, trailing_snoc]

theorem backoff_value (channel : Channel) :
    channel.backoff = min (3 ^ channel.failureCount.toNat) 300 := by
  unfold Channel.backoff
  generalize channel.failureCount = count
  by_cases many : 5 < count
  · have atLeast : 6 ≤ count.toNat := UInt32.lt_iff_toNat_lt.mp many
    have power : 3 ^ 6 ≤ 3 ^ count.toNat := Nat.pow_le_pow_right (by decide) atLeast
    rw [if_pos many, Nat.min_eq_right (by omega)]
  · have few : count.toNat ≤ 5 := UInt32.le_iff_toNat_le.mp (UInt32.not_lt.mp many)
    have power : 3 ^ count.toNat ≤ 3 ^ 5 := Nat.pow_le_pow_right (by decide) few
    have below : count ≤ 6 := UInt32.le_iff_toNat_le.mpr (Nat.le_trans few (by decide))
    have capped : min count 6 = count := if_pos below
    have fits : 3 ^ count.toNat ≤ u64Max := Nat.le_trans power (by decide)
    rw [if_neg many, capped, saturatingPow, Nat.min_eq_left fits]

theorem saturated_power (count : Nat) : min (3 ^ min count u32Max) 300 = min (3 ^ count) 300 := by
  rcases Nat.le_total count u32Max with fits | saturated
  · rw [Nat.min_eq_left fits]
  · have many : 6 ≤ u32Max := by decide
    have power : 3 ^ 6 ≤ 3 ^ u32Max := Nat.pow_le_pow_right (by decide) many
    have larger : 3 ^ u32Max ≤ 3 ^ count := Nat.pow_le_pow_right (by decide) saturated
    rw [Nat.min_eq_right saturated, Nat.min_eq_right (by omega), Nat.min_eq_right (by omega)]

end MultiProxy.ChannelHistory
