import MultiProxy.ResponseHeads

/-!
# How the reads of a stream end

A script ends with the end of the stream, a failure or silence. Reads and the loops that
gather them leave that end as it is, and a loop that finds too little comes to it.
-/

namespace MultiProxy.StreamEndings

open MultiProxy.DuplexStream MultiProxy.ResponseHeads

set_option autoImplicit false

def endingOf : List ReadEvent → Ending
  | [] => .eof
  | .pending :: rest => endingOf rest
  | .failure message :: _ => .failure message
  | .stall :: _ => .deadline
  | .data _ :: rest => endingOf rest

theorem read_ending (capacity : Nat) (positive : 0 < capacity) (script : List ReadEvent) :
    match DuplexStream.read capacity script with
    | (.bytes [], rest) => endingOf script = .eof ∧ received script = [] ∧ endingOf rest = .eof
    | (.bytes (_ :: _), rest) => endingOf rest = endingOf script
    | (.failure message, _) => endingOf script = .failure message ∧ received script = []
    | (.stalled, _) => endingOf script = .deadline ∧ received script = [] := by
  fun_induction DuplexStream.read capacity script with
  | case1 => exact ⟨rfl, rfl, rfl⟩
  | case2 events ih => exact ih
  | case3 message events => exact ⟨rfl, rfl⟩
  | case4 events => exact ⟨rfl, rfl⟩
  | case5 events ih => exact ih
  | case6 first more events fits => rfl
  | case7 first more events overflow =>
      obtain ⟨room, rfl⟩ := Nat.exists_eq_add_of_lt positive
      rw [Nat.zero_add, List.take_succ_cons]
      rfl

/-- A loop that comes back with a buffer has put into it what it took from the stream. -/
theorem gather_keeps (capacity : Nat) (positive : 0 < capacity) (enough : List UInt8 → Bool)
    (buffer : List UInt8) (script rest : List ReadEvent) (found : List UInt8)
    (ran : gather capacity enough buffer script = (.stopped found, rest) ∨
      gather capacity enough buffer script = (.ended found, rest)) :
    endingOf rest = endingOf script ∧ found ++ received rest = buffer ++ received script := by
  have ending := read_ending capacity positive script
  rw [gather_of_read] at ran
  rcases once : DuplexStream.read capacity script with ⟨result, left⟩
  rw [once] at ran ending
  cases result with
  | failure message => simp at ran
  | stalled => simp at ran
  | bytes bytes =>
      have kept := read_conserves capacity script left bytes once
      cases bytes with
      | nil =>
          simp only [Prod.mk.injEq, reduceCtorEq, false_and, false_or, Gathered.ended.injEq] at ran
          rw [← ran.1, ← ran.2, ending.1, ending.2.2, ← kept]
          exact ⟨rfl, rfl⟩
      | cons first more =>
          have smaller := read_shrinks capacity script left first more once
          by_cases complete : enough (buffer ++ first :: more) = true
          · simp only [if_pos complete, Prod.mk.injEq, reduceCtorEq, false_and, or_false,
              Gathered.stopped.injEq] at ran
            rw [← ran.1, ← ran.2, ← kept, List.append_assoc]
            exact ⟨ending, rfl⟩
          · simp only [if_neg complete] at ran
            obtain ⟨same, joined⟩ := gather_keeps capacity positive enough (buffer ++ first :: more)
              left rest found ran
            rw [← kept, joined, List.append_assoc]
            exact ⟨same.trans ending, rfl⟩
termination_by scriptSize script

theorem gathered_last (capacity : Nat) (enough : List UInt8 → Bool) (buffer : List UInt8)
    (script rest : List ReadEvent) (found : List UInt8) (unfinished : enough buffer = false)
    (ran : gather capacity enough buffer script = (.stopped found, rest) ∨
      gather capacity enough buffer script = (.ended found, rest)) :
    ∃ earlier, buffers capacity enough buffer script = earlier ++ [found] ∧
      ∀ held ∈ earlier, enough held = false := by
  have alone : ∀ held ∈ [buffer], enough held = false := by
    intro held same
    rw [List.mem_singleton.mp same]
    exact unfinished
  rw [gather_of_read] at ran
  rw [buffers_of_read]
  rcases once : DuplexStream.read capacity script with ⟨result, left⟩
  rw [once] at ran
  cases result with
  | failure message => simp at ran
  | stalled => simp at ran
  | bytes bytes =>
      cases bytes with
      | nil =>
          simp only [Prod.mk.injEq, reduceCtorEq, false_and, false_or, Gathered.ended.injEq] at ran
          rw [← ran.1]
          exact ⟨[], rfl, List.forall_mem_nil _⟩
      | cons first more =>
          have smaller := read_shrinks capacity script left first more once
          by_cases complete : enough (buffer ++ first :: more) = true
          · simp only [if_pos complete, Prod.mk.injEq, reduceCtorEq, false_and, or_false,
              Gathered.stopped.injEq] at ran
            simp only [if_pos complete, ← ran.1]
            exact ⟨[buffer], rfl, alone⟩
          · simp only [if_neg complete] at ran ⊢
            obtain ⟨earlier, held, notYet⟩ := gathered_last capacity enough
              (buffer ++ first :: more) left rest found (by simpa using complete) ran
            refine ⟨buffer :: earlier, by rw [held, List.cons_append], ?_⟩
            exact List.forall_mem_cons.mpr ⟨unfinished, notYet⟩
termination_by scriptSize script

/-- What a loop that never has enough comes back with. -/
def exhausted (buffer : List UInt8) : Ending → Gathered
  | .eof => .ended buffer
  | .failure message => .failure message
  | .deadline => .stalled

theorem gather_exhausted {capacity : Nat} (positive : 0 < capacity) {enough : List UInt8 → Bool}
    (keeps : ∀ front back, enough front = true → enough (front ++ back) = true)
    (buffer : List UInt8) (script : List ReadEvent)
    (unfinished : enough (buffer ++ received script) = false) :
    (gather capacity enough buffer script).1 =
      exhausted (buffer ++ received script) (endingOf script) := by
  have ending := read_ending capacity positive script
  rw [gather_of_read]
  rcases ran : DuplexStream.read capacity script with ⟨result, rest⟩
  rw [ran] at ending
  cases result with
  | failure message => simp only [ending.1, exhausted]
  | stalled => simp only [ending.1, exhausted]
  | bytes bytes =>
      cases bytes with
      | nil => simp only [ending.1, ending.2.1, exhausted, List.append_nil]
      | cons first more =>
          have kept := read_conserves capacity script rest (first :: more) ran
          have smaller := read_shrinks capacity script rest first more ran
          have notYet : ¬ enough (buffer ++ first :: more) = true := by
            intro complete
            have whole := keeps _ (received rest) complete
            rw [List.append_assoc, kept, unfinished] at whole
            cases whole
          have later := gather_exhausted positive keeps (buffer ++ first :: more) rest
            (by rw [List.append_assoc, kept]; exact unfinished)
          simp only [if_neg notYet]
          rw [later, ending, List.append_assoc, kept]
termination_by scriptSize script

end MultiProxy.StreamEndings
