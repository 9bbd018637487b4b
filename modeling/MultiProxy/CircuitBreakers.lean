import Mathlib

/-!
Circuit breakers. A breaker counts the failures in a row and lets the next attempt
pass once a window has gone by that depends on their number. Attempts that are only
made when the breaker lets them are paced by the windows, and a row of failures takes
at least as long as the windows between them together.
-/

namespace MultiProxy.CircuitBreakers

set_option autoImplicit false

structure Attempt (Time : Type*) where
  succeeded : Bool
  time : Time

/-- The length of the current row of failures, and the time of the last failure. -/
structure Breaker (Time : Type*) where
  row : Nat
  last : Option Time

variable {Time : Type*}

namespace Breaker

def fresh : Breaker Time where
  row := 0
  last := none

def record (breaker : Breaker Time) (attempt : Attempt Time) : Breaker Time :=
  if attempt.succeeded then { breaker with row := 0 }
  else { row := breaker.row + 1, last := some attempt.time }

def behind (attempts : List (Attempt Time)) : Breaker Time := attempts.foldl record fresh

def Permits [Add Time] [LE Time] (window : Nat → Time) (breaker : Breaker Time) (now : Time) :
    Prop :=
  breaker.row = 0 ∨ ∃ last, breaker.last = some last ∧ last + window breaker.row ≤ now

theorem behind_snoc (attempts : List (Attempt Time)) (next : Attempt Time) :
    behind (attempts ++ [next]) = (behind attempts).record next := by
  simp [behind]

theorem record_failure {breaker : Breaker Time} {attempt : Attempt Time}
    (failed : attempt.succeeded = false) :
    breaker.record attempt = { row := breaker.row + 1, last := some attempt.time } := by
  rw [record, failed]
  rfl

theorem row_behind {front failures : List (Attempt Time)}
    (failed : ∀ attempt ∈ failures, attempt.succeeded = false) :
    (behind (front ++ failures)).row = (behind front).row + failures.length := by
  induction failures using List.reverseRecOn with
  | nil => simp
  | append_singleton failures last ih =>
      rw [← List.append_assoc, behind_snoc, record_failure (failed last (by simp)),
        ih fun attempt member => failed attempt (by simp [member])]
      simp [Nat.add_assoc]

end Breaker

open Breaker

section Guarded

variable [Add Time] [LE Time] (window : Nat → Time) (askedFor : Time → Time → Prop)

/-- The breaker was asked for each attempt, by the time that the attempt ended, and as the
attempts before it had left it, it permitted one. -/
def Guarded (attempts : List (Attempt Time)) : Prop :=
  ∀ front next back, attempts = front ++ next :: back →
    ∃ asked, askedFor asked next.time ∧ (behind front).Permits window asked ∧ asked ≤ next.time

variable {window askedFor}

theorem guarded_nil : Guarded window askedFor ([] : List (Attempt Time)) := by
  intro front next back same
  cases front <;> cases same

theorem guarded_snoc {attempts : List (Attempt Time)} {next : Attempt Time} {asked : Time}
    (guarded : Guarded window askedFor attempts) (forNext : askedFor asked next.time)
    (permitted : (behind attempts).Permits window asked) (later : asked ≤ next.time) :
    Guarded window askedFor (attempts ++ [next]) := by
  intro front other back same
  rcases List.eq_nil_or_concat back with rfl | ⟨inner, last, rfl⟩
  · obtain ⟨rfl, rfl⟩ := List.append_singleton_inj.mp same
    exact ⟨asked, forNext, permitted, later⟩
  · rw [List.concat_eq_append, ← List.cons_append, ← List.append_assoc] at same
    obtain ⟨rfl, rfl⟩ := List.append_singleton_inj.mp same
    exact guarded front other inner rfl

end Guarded

section Rows

variable [AddCommMonoid Time] [PartialOrder Time] {window : Nat → Time}
  {askedFor : Time → Time → Prop}

theorem waits_behind_row {front failures back : List (Attempt Time)} {last next : Attempt Time}
    (guarded : Guarded window askedFor (front ++ (failures ++ [last]) ++ next :: back))
    (begins : (behind front).row = 0)
    (failed : ∀ attempt ∈ failures ++ [last], attempt.succeeded = false) :
    ∃ asked, askedFor asked next.time ∧ last.time + window (failures.length + 1) ≤ asked ∧
      asked ≤ next.time := by
  obtain ⟨asked, forNext, permitted, later⟩ := guarded _ next back rfl
  have counted : (behind (front ++ (failures ++ [last]))).row = failures.length + 1 := by
    rw [row_behind failed, begins, Nat.zero_add, List.length_append, List.length_singleton]
  have latest : (behind (front ++ (failures ++ [last]))).last = some last.time := by
    rw [← List.append_assoc, behind_snoc, record_failure (failed last (by simp))]
  rcases permitted with closed | ⟨time, same, waited⟩
  · omega
  · rw [latest] at same
    cases same
    rw [counted] at waited
    exact ⟨asked, forNext, waited, later⟩

variable [IsOrderedAddMonoid Time]

theorem row_takes {front failures back : List (Attempt Time)} {first last : Attempt Time}
    (guarded : Guarded window askedFor (front ++ failures ++ back))
    (begins : (behind front).row = 0)
    (failed : ∀ attempt ∈ failures, attempt.succeeded = false)
    (isFirst : failures.head? = some first) (isLast : failures.getLast? = some last) :
    first.time + ∑ number ∈ Finset.range (failures.length - 1),
      window (number + 1) ≤ last.time := by
  induction failures using List.reverseRecOn generalizing last back with
  | nil => cases isFirst
  | append_singleton earlier final ih =>
      have same : final = last := by simpa using isLast
      subst same
      rcases List.eq_nil_or_concat earlier with rfl | ⟨inner, before, rfl⟩
      · have alone : final = first := by simpa using isFirst
        subst alone
        simp
      · rw [List.concat_eq_append] at *
        have stepped : Guarded window askedFor (front ++ (inner ++ [before]) ++ final :: back) := by
          simpa using guarded
        have earlierFailed : ∀ attempt ∈ inner ++ [before], attempt.succeeded = false :=
          fun attempt member => failed attempt (List.mem_append_left _ member)
        have begun : (inner ++ [before]).head? = some first := by
          rw [List.head?_append_of_ne_nil _ (by simp)] at isFirst
          exact isFirst
        have sofar := ih stepped earlierFailed begun List.getLast?_concat
        obtain ⟨asked, _, waited, later⟩ := waits_behind_row stepped begins earlierFailed
        have count : (inner ++ [before] ++ [final]).length - 1 = inner.length + 1 := by simp
        have fewer : (inner ++ [before]).length - 1 = inner.length := by simp
        rw [fewer] at sofar
        rw [count, Finset.sum_range_succ, ← add_assoc]
        exact (add_le_add_left sofar _).trans (waited.trans later)

end Rows

end MultiProxy.CircuitBreakers
