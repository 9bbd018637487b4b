import Mathlib
import MultiProxy.InteractionPrograms

/-!
What programs can cost. Calls have prices, and a program affords all its calls from
a budget, whatever the replies are that its discipline reckons with. What it has paid
and what it still affords stay within the budget from call to call, so that a program
that is interleaved with others, or dropped half-way, has spent no more than it.
-/

namespace MultiProxy.ProgramBudgets

open MultiProxy.InteractionPrograms MultiProxy.InteractionPrograms.Program

set_option autoImplicit false

variable {Call : Type} {Reply : Call → Type} {Note Value Other : Type}

/-! ## One program -/

section Programs

variable (discipline : Discipline Call Reply Note) (price : Call → Nat)

def Affords : Nat → Note → Program Call Reply Value → Prop
  | _, _, done _ => True
  | budget, note, call request next =>
      price request ≤ budget ∧ discipline.permits note request ∧
        ∀ reply, discipline.expects note request reply →
          Affords (budget - price request) (discipline.after note request reply) (next reply)

variable {discipline price}

theorem affords_more {program : Program Call Reply Value} {budget larger : Nat} {note : Note}
    (affords : Affords discipline price budget note program) (more : budget ≤ larger) :
    Affords discipline price larger note program := by
  induction program generalizing budget larger note with
  | done value => trivial
  | call request next ih =>
      obtain ⟨within, permitted, later⟩ := affords
      refine ⟨Nat.le_trans within more, permitted, ?_⟩
      intro reply expected
      exact ih reply (later reply expected) (Nat.sub_le_sub_right more _)

/-- What comes behind a program is paid from what is kept back for it. -/
theorem affords_bind {program : Program Call Reply Value}
    {next : Value → Program Call Reply Other} {budget reserve : Nat} {note : Note}
    (first : Affords discipline price budget note program)
    (later : ∀ note value, Affords discipline price reserve note (next value)) :
    Affords discipline price (budget + reserve) note (program >>= next) := by
  induction program generalizing budget note with
  | done value => exact affords_more (later note value) (Nat.le_add_left reserve budget)
  | call request rest ih =>
      obtain ⟨within, permitted, after⟩ := first
      refine ⟨Nat.le_trans within (Nat.le_add_right budget reserve), permitted, ?_⟩
      intro reply expected
      rw [Nat.sub_add_comm within]
      exact ih reply (after reply expected)

theorem affords_then {program : Program Call Reply Value}
    {next : Value → Program Call Reply Other} {budget : Nat} {note : Note}
    (first : Affords discipline price budget note program)
    (later : ∀ note value, Affords discipline price 0 note (next value)) :
    Affords discipline price budget note (program >>= next) :=
  affords_bind first later

theorem affords_call {request : Call} {next : Reply request → Program Call Reply Value}
    {reserve : Nat} {note : Note} (permitted : discipline.permits note request)
    (later : ∀ reply, discipline.expects note request reply →
      Affords discipline price reserve (discipline.after note request reply) (next reply)) :
    Affords discipline price (price request + reserve) note (call request next) := by
  refine ⟨Nat.le_add_right _ _, permitted, ?_⟩
  intro reply expected
  rw [Nat.add_sub_cancel_left]
  exact later reply expected

end Programs

/-! ## What was paid and what is left -/

/-- The calls made so far are paid from a budget that affords the rest of the program. -/
structure Solvent (discipline : Discipline Call Reply Note) (price : Call → Nat) (budget : Nat)
    (paid : List Call) (note : Note) (program : Program Call Reply Value) : Prop where
  within : (paid.map price).sum ≤ budget
  affords : Affords discipline price (budget - (paid.map price).sum) note program

section Paid

variable {discipline : Discipline Call Reply Note} {price : Call → Nat} {budget : Nat}
  {paid : List Call} {note : Note}

theorem solvent_start {program : Program Call Reply Value}
    (affords : Affords discipline price budget note program) :
    Solvent discipline price budget [] note program :=
  ⟨Nat.zero_le _, affords⟩

theorem solvent_call {request : Call} {next : Reply request → Program Call Reply Value}
    (solvent : Solvent discipline price budget paid note (call request next)) :
    discipline.permits note request ∧ ∀ reply, discipline.expects note request reply →
      Solvent discipline price budget (paid ++ [request]) (discipline.after note request reply)
        (next reply) := by
  obtain ⟨within, price_left, permitted, later⟩ := solvent
  have paid_more : ((paid ++ [request]).map price).sum = (paid.map price).sum + price request := by
    rw [List.map_append, List.sum_append, List.map_singleton, List.sum_singleton]
  refine ⟨permitted, ?_⟩
  intro reply expected
  refine ⟨?_, ?_⟩
  · rw [paid_more]
    omega
  · rw [paid_more, ← Nat.sub_sub]
    exact later reply expected

end Paid

end MultiProxy.ProgramBudgets
