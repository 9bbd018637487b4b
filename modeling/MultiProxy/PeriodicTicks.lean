import Mathlib.Algebra.Order.Group.Nat
import Mathlib.Data.Nat.Find

/-!
Work behind the ticks of a periodic timer. A tick that is missed is made up for at
once, and the deadlines are counted from the first one, so that work which fits into
the period keeps to them and longer work falls behind by no more than its excess.
-/

namespace MultiProxy.PeriodicTicks

set_option autoImplicit false

variable {Time : Type*} [AddCommMonoid Time]

section Deadlines

/-- The deadline of a tick, counted from zero. -/
def due (created period : Time) (tick : Nat) : Time := created + tick • period

variable {created period : Time}

theorem due_zero : due created period 0 = created := by simp [due]

theorem due_succ (tick : Nat) :
    due created period (tick + 1) = due created period tick + period := by
  rw [due, due, succ_nsmul, add_assoc]

end Deadlines

variable [LinearOrder Time]

/-- When the work behind a tick begins: at its deadline, or once the work before it has
ended. The time a piece of work takes may depend on when it begins. -/
def begins (created period : Time) (takes : Nat → Time → Time) : Nat → Time
  | 0 => created
  | tick + 1 =>
      max (begins created period takes tick + takes tick (begins created period takes tick))
        (due created period (tick + 1))

variable {created period most : Time} {takes : Nat → Time → Time}

theorem due_le_begins (tick : Nat) :
    due created period tick ≤ begins created period takes tick := by
  cases tick with
  | zero => exact due_zero.le
  | succ tick => exact le_max_right _ _

theorem ended_before_next (tick : Nat) :
    begins created period takes tick + takes tick (begins created period takes tick) ≤
      begins created period takes (tick + 1) :=
  le_max_left _ _

variable [IsOrderedAddMonoid Time]

/-- Work that fits into the period begins at each deadline, without drift. -/
theorem begins_on_time (fits : ∀ tick start, takes tick start ≤ period) (tick : Nat) :
    begins created period takes tick = due created period tick := by
  induction tick with
  | zero => exact due_zero.symm
  | succ tick ih =>
      rw [begins, ih, due_succ]
      exact max_eq_right (add_le_add_right (fits tick _) _)

/-- Work of bounded length falls behind by no more than its excess over the period. -/
theorem begins_within (bounded : ∀ tick start, takes tick start ≤ most) (tick : Nat) :
    begins created period takes tick ≤ created + tick • max period most := by
  induction tick with
  | zero => simp [begins]
  | succ tick ih =>
      have step : created + tick • max period most + max period most =
          created + (tick + 1) • max period most := by
        rw [succ_nsmul, add_assoc]
      rw [begins, ← step]
      apply max_le
      · exact add_le_add ih ((bounded tick _).trans (le_max_right _ _))
      · rw [due_succ]
        apply add_le_add _ (le_max_left _ _)
        exact (due_le_begins tick).trans ih

theorem deadline_within {time : Time} (behind : created ≤ time)
    (reached : ∃ tick, time ≤ due created period (tick + 1)) :
    ∃ tick, time ≤ due created period (tick + 1) ∧
      due created period (tick + 1) ≤ time + period := by
  refine ⟨Nat.find reached, Nat.find_spec reached, ?_⟩
  rw [due_succ]
  apply add_le_add _ le_rfl
  cases first : Nat.find reached with
  | zero => exact due_zero.le.trans behind
  | succ tick =>
      have before : ¬ time ≤ due created period (tick + 1) := Nat.find_min reached (by omega)
      exact (not_le.mp before).le

end MultiProxy.PeriodicTicks
