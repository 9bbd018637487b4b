import MultiProxy.RustRuntime
import Mathlib.Data.Nat.Find

/-!
A connected byte stream as its two directions. What the peer delivers is a
script of read events, so every segmentation, every poll that finds nothing,
every failure and every silence is one script. What is written is recorded,
together with how much of it was flushed. The end of the script is the end of
the stream. An empty data event delivers nothing and is not an end of stream.
-/

namespace MultiProxy.DuplexStream

open MultiProxy.RustRuntime

set_option autoImplicit false

inductive ReadEvent where
  | data (bytes : List UInt8)
  | pending
  | failure (message : String)
  | stall
  deriving DecidableEq, Repr

inductive WriteEvent where
  | accept
  | failure (written : Nat) (message : String)
  | stall
  deriving DecidableEq, Repr

/-- What one read came back with; no bytes means end of stream. `stalled` is a
read that is never answered. -/
inductive ReadResult where
  | bytes (received : List UInt8)
  | failure (message : String)
  | stalled
  deriving DecidableEq, Repr

def ReadResult.prepend (bytes : List UInt8) : ReadResult → ReadResult
  | .bytes received => .bytes (bytes ++ received)
  | .failure message => .failure message
  | .stalled => .stalled

/-- `read` into a buffer of `capacity` bytes. What does not fit stays. -/
def read (capacity : Nat) : List ReadEvent → ReadResult × List ReadEvent
  | [] => (.bytes [], [])
  | .pending :: rest => read capacity rest
  | .failure message :: rest => (.failure message, rest)
  | .stall :: rest => (.stalled, .stall :: rest)
  | .data [] :: rest => read capacity rest
  | .data (first :: more) :: rest =>
      if (first :: more).length ≤ capacity then (.bytes (first :: more), rest)
      else (.bytes ((first :: more).take capacity),
        .data ((first :: more).drop capacity) :: rest)

/-- `read_exact`: as many reads as it takes to fill `count` bytes. -/
def readExact : Nat → List ReadEvent → ReadResult × List ReadEvent
  | 0, script => (.bytes [], script)
  | _ + 1, [] => (.failure "early eof", [])
  | count + 1, .pending :: rest => readExact (count + 1) rest
  | _ + 1, .failure message :: rest => (.failure message, rest)
  | _ + 1, .stall :: rest => (.stalled, .stall :: rest)
  | count + 1, .data bytes :: rest =>
      if count + 1 ≤ bytes.length then
        (.bytes (bytes.take (count + 1)), .data (bytes.drop (count + 1)) :: rest)
      else
        let (result, after) := readExact (count + 1 - bytes.length) rest
        (result.prepend bytes, after)

/-- All bytes a script delivers before it ends, fails or falls silent. -/
def received : List ReadEvent → List UInt8
  | [] => []
  | .pending :: rest => received rest
  | .failure _ :: _ => []
  | .stall :: _ => []
  | .data bytes :: rest => bytes ++ received rest

def EndsCleanly : List ReadEvent → Prop
  | [] => True
  | .pending :: rest => EndsCleanly rest
  | .failure _ :: _ => False
  | .stall :: _ => False
  | .data _ :: rest => EndsCleanly rest

def FallsSilent : List ReadEvent → Prop
  | [] => False
  | .pending :: rest => FallsSilent rest
  | .failure _ :: _ => False
  | .stall :: _ => True
  | .data _ :: rest => FallsSilent rest

@[simp] theorem received_data (reads : List (List UInt8)) :
    received (reads.map .data) = reads.flatten := by
  induction reads with
  | nil => rfl
  | cons bytes rest ih => simp [received, ih]

@[simp] theorem ends_cleanly_data (reads : List (List UInt8)) :
    EndsCleanly (reads.map .data) := by
  induction reads with
  | nil => trivial
  | cons bytes rest ih => simpa [EndsCleanly] using ih

theorem read_conserves (capacity : Nat) (script rest : List ReadEvent) (bytes : List UInt8)
    (ran : read capacity script = (.bytes bytes, rest)) :
    bytes ++ received rest = received script := by
  fun_induction read capacity script with
  | case1 => cases ran; rfl
  | case2 events ih => exact ih ran
  | case3 => cases ran
  | case4 => cases ran
  | case5 events ih => exact ih ran
  | case6 first more events fits => cases ran; rfl
  | case7 first more events overflow =>
      cases ran
      simp only [received, ← List.append_assoc, List.take_append_drop]

theorem read_within (capacity : Nat) (script rest : List ReadEvent) (bytes : List UInt8)
    (ran : read capacity script = (.bytes bytes, rest)) : bytes.length ≤ capacity := by
  fun_induction read capacity script with
  | case1 => cases ran; exact Nat.zero_le capacity
  | case2 events ih => exact ih ran
  | case3 => cases ran
  | case4 => cases ran
  | case5 events ih => exact ih ran
  | case6 first more events fits => cases ran; exact fits
  | case7 first more events overflow =>
      cases ran
      exact List.length_take_le capacity (first :: more)

theorem read_clean (capacity : Nat) (positive : 0 < capacity) (script : List ReadEvent)
    (clean : EndsCleanly script) :
    ∃ bytes rest, read capacity script = (.bytes bytes, rest) ∧ EndsCleanly rest ∧
      (bytes = [] → received script = []) := by
  fun_induction read capacity script with
  | case1 => exact ⟨[], [], rfl, trivial, fun _ => rfl⟩
  | case2 events ih => exact ih clean
  | case3 => cases clean
  | case4 => cases clean
  | case5 events ih => exact ih clean
  | case6 first more events fits => exact ⟨_, _, rfl, clean, fun empty => by cases empty⟩
  | case7 first more events overflow =>
      refine ⟨_, _, rfl, clean, ?_⟩
      intro empty
      rw [List.take_eq_nil_iff] at empty
      rcases empty with zero | impossible
      · omega
      · cases impossible

theorem read_delivers (capacity : Nat) (positive : 0 < capacity) (script : List ReadEvent)
    (delivers : received script ≠ []) :
    ∃ first more rest, read capacity script = (.bytes (first :: more), rest) ∧
      (EndsCleanly script → EndsCleanly rest) := by
  fun_induction read capacity script with
  | case1 => exact absurd rfl delivers
  | case2 events ih => exact ih delivers
  | case3 => exact absurd rfl delivers
  | case4 => exact absurd rfl delivers
  | case5 events ih => exact ih delivers
  | case6 first more events fits => exact ⟨first, more, events, rfl, id⟩
  | case7 first more events overflow =>
      cases capacity with
      | zero => omega
      | succ capacity => exact ⟨first, more.take capacity, _, rfl, id⟩

theorem read_exact_fills (count : Nat) (script : List ReadEvent)
    (enough : count ≤ (received script).length) :
    ∃ rest, readExact count script = (.bytes ((received script).take count), rest) ∧
      received rest = (received script).drop count := by
  fun_induction readExact count script with
  | case1 script => exact ⟨script, by simp, by simp⟩
  | case2 => simp [received] at enough
  | case3 count rest ih => exact ih enough
  | case4 => simp [received] at enough
  | case5 => simp [received] at enough
  | case6 count bytes rest fits =>
      refine ⟨.data (bytes.drop (count + 1)) :: rest, ?_, ?_⟩
      · simp only [received, Nat.succ_eq_add_one, List.take_append_of_le_length fits]
      · simp only [received, Nat.succ_eq_add_one, List.drop_append_of_le_length fits]
  | case7 count bytes rest short result after found ih =>
      have behind : count + 1 - bytes.length ≤ (received rest).length := by
        simp only [received, List.length_append] at enough
        omega
      have whole : bytes.length ≤ count + 1 := by omega
      obtain ⟨left, ran, leftBytes⟩ := ih behind
      obtain ⟨rfl, rfl⟩ := Prod.mk.inj (found.symm.trans ran)
      refine ⟨after, ?_, ?_⟩
      · simp only [ReadResult.prepend, received, Nat.succ_eq_add_one, List.take_append,
          List.take_of_length_le whole]
      · rw [leftBytes]
        simp only [received, Nat.succ_eq_add_one, List.drop_append,
          List.drop_of_length_le whole, List.nil_append]

theorem read_exact_starved (count : Nat) (script : List ReadEvent)
    (short : (received script).length < count) (bytes : List UInt8) :
    (readExact count script).1 ≠ .bytes bytes := by
  fun_induction readExact count script generalizing bytes with
  | case1 => simp at short
  | case2 => simp
  | case3 count rest ih => exact ih short bytes
  | case4 => simp
  | case5 => simp
  | case6 count bytes rest fits =>
      simp only [received, List.length_append] at short
      omega
  | case7 count head rest missing result after found ih =>
      have behind : (received rest).length < count + 1 - head.length := by
        simp only [received, List.length_append] at short
        omega
      have starved := ih behind
      rw [found] at starved
      cases result with
      | bytes tail => exact absurd rfl (starved tail)
      | failure message => simp [ReadResult.prepend]
      | stalled => simp [ReadResult.prepend]

theorem read_exact_keeps_silence (count : Nat) (script : List ReadEvent)
    (enough : count ≤ (received script).length) :
    FallsSilent (readExact count script).2 ↔ FallsSilent script := by
  fun_induction readExact count script with
  | case1 => rfl
  | case2 => simp [received] at enough
  | case3 count rest ih => exact ih enough
  | case4 => simp [received] at enough
  | case5 => simp [received] at enough
  | case6 count bytes rest fits => rfl
  | case7 count bytes rest short result after found ih =>
      have behind : count + 1 - bytes.length ≤ (received rest).length := by
        simp only [received, List.length_append] at enough
        omega
      have kept := ih behind
      rw [found] at kept
      exact kept

/-- Too few bytes: the read is never answered where the script falls silent, and
fails everywhere else. -/
theorem read_exact_short (count : Nat) (script : List ReadEvent)
    (short : (received script).length < count) :
    (FallsSilent script ∧ (readExact count script).1 = .stalled) ∨
      (¬ FallsSilent script ∧ ∃ message, (readExact count script).1 = .failure message) := by
  fun_induction readExact count script with
  | case1 => simp at short
  | case2 => exact Or.inr ⟨False.elim, "early eof", rfl⟩
  | case3 count rest ih => exact ih short
  | case4 count message rest => exact Or.inr ⟨False.elim, message, rfl⟩
  | case5 => exact Or.inl ⟨trivial, rfl⟩
  | case6 count bytes rest fits =>
      simp only [received, List.length_append] at short
      omega
  | case7 count bytes rest missing result after found ih =>
      have behind : (received rest).length < count + 1 - bytes.length := by
        simp only [received, List.length_append] at short
        omega
      rcases ih behind with ⟨silent, stalled⟩ | ⟨heard, message, failed⟩
      · rw [found] at stalled
        exact Or.inl ⟨silent, congrArg (ReadResult.prepend bytes) stalled⟩
      · rw [found] at failed
        exact Or.inr ⟨heard, message, congrArg (ReadResult.prepend bytes) failed⟩

/-! ## Reading until a buffer is complete -/

def eventSize : ReadEvent → Nat
  | .data bytes => bytes.length + 1
  | _ => 1

def scriptSize (script : List ReadEvent) : Nat := (script.map eventSize).sum

theorem read_shrinks (capacity : Nat) (script rest : List ReadEvent)
    (first : UInt8) (more : List UInt8)
    (ran : read capacity script = (.bytes (first :: more), rest)) :
    scriptSize rest < scriptSize script := by
  fun_induction read capacity script with
  | case1 => cases ran
  | case2 events ih =>
      have smaller := ih ran
      simp only [scriptSize, List.map_cons, List.sum_cons, eventSize] at smaller ⊢
      omega
  | case3 => cases ran
  | case4 => cases ran
  | case5 events ih =>
      have smaller := ih ran
      simp only [scriptSize, List.map_cons, List.sum_cons, eventSize] at smaller ⊢
      omega
  | case6 head tail events fits =>
      cases ran
      simp [scriptSize, eventSize]
  | case7 head tail events overflow =>
      simp only [Prod.mk.injEq, ReadResult.bytes.injEq] at ran
      obtain ⟨returned, rfl⟩ := ran
      have positive : 0 < capacity := by
        cases capacity with
        | zero => simp at returned
        | succ _ => omega
      simp only [scriptSize, List.map_cons, List.sum_cons, eventSize, List.length_drop,
        List.length_cons]
      omega

/-- How a loop that gathers reads into a buffer comes to its end. -/
inductive Gathered where
  | stopped (buffer : List UInt8)
  | ended (buffer : List UInt8)
  | failure (message : String)
  | stalled
  deriving DecidableEq, Repr

/-- Appends one read after the other to the buffer until `enough` holds of it
or the stream ends. -/
def gather (capacity : Nat) (enough : List UInt8 → Bool) (buffer : List UInt8)
    (script : List ReadEvent) : Gathered × List ReadEvent :=
  match _ : read capacity script with
  | (.bytes [], rest) => (.ended buffer, rest)
  | (.bytes (first :: more), rest) =>
      if enough (buffer ++ first :: more) then (.stopped (buffer ++ first :: more), rest)
      else gather capacity enough (buffer ++ first :: more) rest
  | (.failure message, rest) => (.failure message, rest)
  | (.stalled, rest) => (.stalled, rest)
termination_by scriptSize script
decreasing_by exact read_shrinks capacity script rest first more (by assumption)

/-- The buffers the loop goes through, from the one it starts with to the one it
holds when it comes to its end. -/
def buffers (capacity : Nat) (enough : List UInt8 → Bool) (buffer : List UInt8)
    (script : List ReadEvent) : List (List UInt8) :=
  match _ : read capacity script with
  | (.bytes (first :: more), rest) =>
      if enough (buffer ++ first :: more) then [buffer, buffer ++ first :: more]
      else buffer :: buffers capacity enough (buffer ++ first :: more) rest
  | _ => [buffer]
termination_by scriptSize script
decreasing_by exact read_shrinks capacity script rest first more (by assumption)

theorem buffers_of_read (capacity : Nat) (enough : List UInt8 → Bool) (buffer : List UInt8)
    (script : List ReadEvent) :
    buffers capacity enough buffer script =
      match read capacity script with
      | (.bytes (first :: more), rest) =>
          if enough (buffer ++ first :: more) then [buffer, buffer ++ first :: more]
          else buffer :: buffers capacity enough (buffer ++ first :: more) rest
      | _ => [buffer] := by
  rw [buffers]
  split <;> simp_all

theorem gather_of_read (capacity : Nat) (enough : List UInt8 → Bool) (buffer : List UInt8)
    (script : List ReadEvent) :
    gather capacity enough buffer script =
      match read capacity script with
      | (.bytes [], rest) => (.ended buffer, rest)
      | (.bytes (first :: more), rest) =>
          if enough (buffer ++ first :: more) then (.stopped (buffer ++ first :: more), rest)
          else gather capacity enough (buffer ++ first :: more) rest
      | (.failure message, rest) => (.failure message, rest)
      | (.stalled, rest) => (.stalled, rest) := by
  rw [gather]
  split <;> simp_all

theorem buffers_bounded {capacity limit : Nat} {enough : List UInt8 → Bool}
    (stops : ∀ buffer, enough buffer = false → buffer.length ≤ limit) (buffer : List UInt8)
    (small : buffer.length ≤ limit) (script : List ReadEvent) :
    ∀ held ∈ buffers capacity enough buffer script, held.length ≤ limit + capacity := by
  intro held member
  rw [buffers_of_read] at member
  rcases once : read capacity script with ⟨result, left⟩
  rw [once] at member
  have alone : held ∈ [buffer] → held.length ≤ limit + capacity := by
    intro same
    rw [List.mem_singleton.mp same]
    exact small.trans (Nat.le_add_right limit capacity)
  cases result with
  | failure message => exact alone member
  | stalled => exact alone member
  | bytes bytes =>
      cases bytes with
      | nil => exact alone member
      | cons first more =>
          have fits := read_within capacity script left (first :: more) once
          have smaller := read_shrinks capacity script left first more once
          by_cases complete : enough (buffer ++ first :: more) = true
          · simp only [if_pos complete, List.mem_cons, List.not_mem_nil, or_false] at member
            rcases member with rfl | rfl
            · exact alone (List.mem_singleton_self _)
            · rw [List.length_append]
              exact Nat.add_le_add small fits
          · simp only [if_neg complete] at member
            rcases List.mem_cons.mp member with same | later
            · exact alone (List.mem_singleton.mpr same)
            · exact buffers_bounded stops (buffer ++ first :: more)
                (stops _ (by simpa using complete)) left held later
termination_by scriptSize script

/-- A loop that is complete with what the stream delivers stops within it, however
the stream comes to its end, and keeps every byte. -/
theorem gather_stops (capacity : Nat) (positive : 0 < capacity) (enough : List UInt8 → Bool)
    (buffer : List UInt8) (script : List ReadEvent) (unfinished : enough buffer = false)
    (complete : enough (buffer ++ received script) = true) :
    ∃ found rest, gather capacity enough buffer script = (.stopped found, rest) ∧
      enough found = true ∧ found ++ received rest = buffer ++ received script ∧
      (EndsCleanly script → EndsCleanly rest) := by
  have delivers : received script ≠ [] := by
    intro nothing
    rw [nothing, List.append_nil, unfinished] at complete
    cases complete
  obtain ⟨first, more, rest, ran, clean⟩ := read_delivers capacity positive script delivers
  have kept := read_conserves capacity script rest (first :: more) ran
  have smaller := read_shrinks capacity script rest first more ran
  have step : gather capacity enough buffer script =
      if enough (buffer ++ first :: more) then (.stopped (buffer ++ first :: more), rest)
      else gather capacity enough (buffer ++ first :: more) rest := by
    rw [gather_of_read, ran]
  rw [← kept, ← List.append_assoc] at complete
  by_cases here : enough (buffer ++ first :: more) = true
  · refine ⟨buffer ++ first :: more, rest, ?_, here, ?_, clean⟩
    · rw [step, if_pos here]
    · rw [List.append_assoc, kept]
  · obtain ⟨found, left, stopped, enoughFound, same, leftClean⟩ :=
      gather_stops capacity positive enough (buffer ++ first :: more) rest
        (by simpa using here) complete
    refine ⟨found, left, ?_, enoughFound, ?_, ?_⟩
    · rw [step, if_neg here, stopped]
    · rw [same, List.append_assoc, kept]
    · intro cleanScript
      exact leftClean (clean cleanScript)
termination_by scriptSize script

theorem gather_data_cons (capacity : Nat) (enough : List UInt8 → Bool)
    (buffer bytes : List UInt8) (rest : List ReadEvent)
    (nonempty : bytes ≠ []) (fits : bytes.length ≤ capacity) :
    gather capacity enough buffer (.data bytes :: rest) =
      if enough (buffer ++ bytes) then (.stopped (buffer ++ bytes), rest)
      else gather capacity enough (buffer ++ bytes) rest := by
  obtain ⟨first, more, rfl⟩ := List.exists_cons_of_ne_nil nonempty
  have ran : read capacity (.data (first :: more) :: rest) = (.bytes (first :: more), rest) := by
    rw [read, if_pos fits]
  rw [gather_of_read, ran]

/-- The first read boundary at which the buffer is complete. -/
structure FirstBoundary (enough : List UInt8 → Bool) (buffer : List UInt8)
    (reads : List (List UInt8)) (count : Nat) : Prop where
  positive : 0 < count
  within : count ≤ reads.length
  complete : enough (buffer ++ (reads.take count).flatten) = true
  earliest : ∀ earlier, 0 < earlier → earlier < count →
    enough (buffer ++ (reads.take earlier).flatten) = false

theorem first_boundary_exists (enough : List UInt8 → Bool) (buffer : List UInt8)
    (reads : List (List UInt8)) (count : Nat) (positive : 0 < count)
    (within : count ≤ reads.length)
    (complete : enough (buffer ++ (reads.take count).flatten) = true) :
    ∃ first, FirstBoundary enough buffer reads first ∧ first ≤ count := by
  classical
  have some : ∃ candidate, 0 < candidate ∧
      enough (buffer ++ (reads.take candidate).flatten) = true := ⟨count, positive, complete⟩
  have least := Nat.find_spec some
  have below := Nat.find_min' some ⟨positive, complete⟩
  refine ⟨Nat.find some, ⟨least.1, below.trans within, least.2, ?_⟩, below⟩
  intro earlier earlierPositive before
  have notYet := Nat.find_min some before
  simpa [earlierPositive] using notYet

/-- On plain reads that fit the buffer the loop stops at the first boundary at
which the buffer is complete, and the reads behind it are still there. -/
theorem gather_at_first_boundary (capacity : Nat) (enough : List UInt8 → Bool)
    (buffer : List UInt8) (reads : List (List UInt8)) (tail : List ReadEvent) (count : Nat)
    (sizes : ∀ bytes ∈ reads, bytes ≠ [] ∧ bytes.length ≤ capacity)
    (boundary : FirstBoundary enough buffer reads count) :
    gather capacity enough buffer (reads.map .data ++ tail) =
      (.stopped (buffer ++ (reads.take count).flatten),
        (reads.drop count).map .data ++ tail) := by
  induction reads generalizing buffer count with
  | nil =>
      have positive := boundary.positive
      have within := boundary.within
      simp only [List.length_nil] at within
      omega
  | cons bytes rest ih =>
      obtain ⟨count, rfl⟩ : ∃ previous, count = previous + 1 :=
        ⟨count - 1, by have := boundary.positive; omega⟩
      have size := sizes bytes (by simp)
      rw [List.map_cons, List.cons_append,
        gather_data_cons capacity enough buffer bytes _ size.1 size.2]
      cases count with
      | zero =>
          have complete := boundary.complete
          simp only [Nat.zero_add, List.take_succ_cons, List.take_zero, List.flatten_cons,
            List.flatten_nil, List.append_nil] at complete
          rw [if_pos complete]
          simp
      | succ count =>
          have notYet := boundary.earliest 1 (by omega) (by omega)
          simp only [List.take_succ_cons, List.take_zero, List.flatten_cons,
            List.flatten_nil, List.append_nil] at notYet
          rw [if_neg (by simp [notYet])]
          have later : FirstBoundary enough (buffer ++ bytes) rest (count + 1) := by
            refine ⟨by omega, ?_, ?_, ?_⟩
            · have within := boundary.within
              simp only [List.length_cons] at within
              omega
            · have complete := boundary.complete
              simpa [List.append_assoc] using complete
            · intro earlier earlierPositive before
              have missed := boundary.earliest (earlier + 1) (by omega) (by omega)
              simpa [List.append_assoc] using missed
          rw [ih (buffer ++ bytes) (count + 1)
            (by intro item member; exact sizes item (by simp [member])) later]
          simp [List.append_assoc]

theorem gather_past_reads (capacity : Nat) (enough : List UInt8 → Bool)
    (buffer : List UInt8) (reads : List (List UInt8)) (tail : List ReadEvent)
    (sizes : ∀ bytes ∈ reads, bytes ≠ [] ∧ bytes.length ≤ capacity)
    (unfinished : ∀ count, 0 < count → count ≤ reads.length →
      enough (buffer ++ (reads.take count).flatten) = false) :
    gather capacity enough buffer (reads.map .data ++ tail) =
      gather capacity enough (buffer ++ reads.flatten) tail := by
  induction reads generalizing buffer with
  | nil => simp
  | cons bytes rest ih =>
      have size := sizes bytes (by simp)
      have first := unfinished 1 Nat.one_pos (by simp)
      simp only [List.take_succ_cons, List.take_zero, List.flatten_cons, List.flatten_nil,
        List.append_nil] at first
      rw [List.map_cons, List.cons_append,
        gather_data_cons capacity enough buffer bytes _ size.1 size.2, if_neg (by simp [first]),
        ih (buffer ++ bytes) (by intro item member; exact sizes item (by simp [member]))]
      · simp
      · intro count positive within
        have later := unfinished (count + 1) (Nat.succ_pos count) (by simpa using within)
        simpa [List.append_assoc] using later

/-! ## The two directions together -/

structure Duplex where
  incoming : List ReadEvent
  sent : List UInt8
  flushed : Nat
  writes : List WriteEvent
  deriving DecidableEq, Repr

/-- A dialogue over one stream. The stream survives an error, so that what had
been written by then can still be asked for. -/
def Exchange (Value : Type) : Type := Duplex → Outcome Value × Duplex

namespace Exchange

variable {Value Other : Type}

def run (action : Exchange Value) (duplex : Duplex) : Outcome Value × Duplex := action duplex

def done (value : Value) : Exchange Value := fun duplex => (.ok value, duplex)

def andThen (action : Exchange Value) (next : Value → Exchange Other) : Exchange Other :=
  fun duplex =>
    match action duplex with
    | (.ok value, after) => next value after
    | (.err message, after) => (.err message, after)
    | (.panic, after) => (.panic, after)
    | (.hang, after) => (.hang, after)

instance : Monad Exchange where
  pure := done
  bind := andThen

def fail (message : String) : Exchange Value := fun duplex => (.err message, duplex)

def mapErr (change : String → String) (action : Exchange Value) : Exchange Value := fun duplex =>
  match action duplex with
  | (.err message, after) => (.err (change message), after)
  | ended => ended

def unwrap : Option Value → Exchange Value
  | some value => done value
  | none => fun duplex => (.panic, duplex)

def ofRead (result : ReadResult) : Outcome (List UInt8) :=
  match result with
  | .bytes received => .ok received
  | .failure message => .err message
  | .stalled => .hang

def readExact (count : Nat) : Exchange (List UInt8) := fun duplex =>
  let (result, rest) := DuplexStream.readExact count duplex.incoming
  (ofRead result, { duplex with incoming := rest })

/-- A loop that reads into one growing buffer until it holds enough or the
stream ends, and gives up on the first read error. -/
def readUntil (capacity : Nat) (enough : List UInt8 → Bool) : Exchange (List UInt8) := fun duplex =>
  match gather capacity enough [] duplex.incoming with
  | (.stopped buffer, rest) => (.ok buffer, { duplex with incoming := rest })
  | (.ended buffer, rest) => (.ok buffer, { duplex with incoming := rest })
  | (.failure message, rest) => (.err message, { duplex with incoming := rest })
  | (.stalled, rest) => (.hang, { duplex with incoming := rest })

def writeAll (bytes : List UInt8) : Exchange Unit := fun duplex =>
  match duplex.writes with
  | [] => (.ok (), { duplex with sent := duplex.sent ++ bytes })
  | .accept :: rest => (.ok (), { duplex with sent := duplex.sent ++ bytes, writes := rest })
  | .failure written message :: rest =>
      (.err message, { duplex with sent := duplex.sent ++ bytes.take written, writes := rest })
  | .stall :: _ => (.hang, duplex)

def flush : Exchange Unit := fun duplex =>
  match duplex.writes with
  | [] => (.ok (), { duplex with flushed := duplex.sent.length })
  | .accept :: rest => (.ok (), { duplex with flushed := duplex.sent.length, writes := rest })
  | .failure _ message :: rest => (.err message, { duplex with writes := rest })
  | .stall :: _ => (.hang, duplex)

@[simp] theorem run_pure (value : Value) (duplex : Duplex) :
    (pure value : Exchange Value).run duplex = (.ok value, duplex) := rfl

@[simp] theorem run_fail (message : String) (duplex : Duplex) :
    (fail message : Exchange Value).run duplex = (.err message, duplex) := rfl

@[simp] theorem run_unwrap_some (value : Value) (duplex : Duplex) :
    (unwrap (some value)).run duplex = (.ok value, duplex) := rfl

@[simp] theorem run_unwrap_none (duplex : Duplex) :
    (unwrap (none : Option Value)).run duplex = (.panic, duplex) := rfl

theorem run_bind (action : Exchange Value) (next : Value → Exchange Other) (duplex : Duplex) :
    (action >>= next).run duplex =
      match action.run duplex with
      | (.ok value, after) => (next value).run after
      | (.err message, after) => (.err message, after)
      | (.panic, after) => (.panic, after)
      | (.hang, after) => (.hang, after) := rfl

theorem run_bind_ok {action : Exchange Value} {duplex after : Duplex} {value : Value}
    (ran : action.run duplex = (.ok value, after)) (next : Value → Exchange Other) :
    (action >>= next).run duplex = (next value).run after := by
  rw [run_bind, ran]

theorem run_bind_err {action : Exchange Value} {duplex after : Duplex} {message : String}
    (ran : action.run duplex = (.err message, after)) (next : Value → Exchange Other) :
    (action >>= next).run duplex = (.err message, after) := by
  rw [run_bind, ran]

theorem run_write_all (bytes : List UInt8) (duplex : Duplex) (accepting : duplex.writes = []) :
    (writeAll bytes).run duplex = (.ok (), { duplex with sent := duplex.sent ++ bytes }) := by
  simp [run, writeAll, accepting]

theorem run_read_exact {count : Nat} {duplex : Duplex} {wanted behind : List UInt8}
    (delivers : received duplex.incoming = wanted ++ behind) (size : wanted.length = count) :
    ∃ after, (readExact count).run duplex = (.ok wanted, after) ∧
      received after.incoming = behind ∧ after.sent = duplex.sent ∧
        after.writes = duplex.writes := by
  have enough : count ≤ (received duplex.incoming).length := by
    rw [delivers, List.length_append]
    omega
  obtain ⟨rest, ran, left⟩ := read_exact_fills count duplex.incoming enough
  refine ⟨{ duplex with incoming := rest }, ?_, ?_, rfl, rfl⟩
  · simp only [run, readExact, ran, ofRead, delivers, List.take_left' size]
  · rw [left, delivers, List.drop_left' size]

theorem run_read_exact_starved {count : Nat} {duplex : Duplex}
    (short : (received duplex.incoming).length < count) (bytes : List UInt8) :
    ((readExact count).run duplex).1 ≠ .ok bytes := by
  have starved := read_exact_starved count duplex.incoming short
  simp only [run, readExact]
  cases result : (DuplexStream.readExact count duplex.incoming).1 with
  | bytes found => exact absurd result (starved found)
  | failure message => simp [ofRead]
  | stalled => simp [ofRead]

/-- A read of `count` bytes is filled when the peer delivers them; otherwise it
fails, or is never answered by a peer that has fallen silent. -/
theorem run_read_exact_cases (count : Nat) (duplex : Duplex) :
    (∃ wanted behind after, received duplex.incoming = wanted ++ behind ∧
        wanted.length = count ∧ (readExact count).run duplex = (.ok wanted, after) ∧
        received after.incoming = behind ∧
        (FallsSilent after.incoming ↔ FallsSilent duplex.incoming) ∧
        after.sent = duplex.sent ∧ after.writes = duplex.writes) ∨
      ((received duplex.incoming).length < count ∧ ∃ after, after.sent = duplex.sent ∧
        ((FallsSilent duplex.incoming ∧ (readExact count).run duplex = (.hang, after)) ∨
          (¬ FallsSilent duplex.incoming ∧
            ∃ message, (readExact count).run duplex = (.err message, after)))) := by
  by_cases enough : count ≤ (received duplex.incoming).length
  · obtain ⟨rest, ran, left⟩ := read_exact_fills count duplex.incoming enough
    have silence := read_exact_keeps_silence count duplex.incoming enough
    rw [ran] at silence
    refine Or.inl ⟨_, _, { duplex with incoming := rest },
      (List.take_append_drop count _).symm, List.length_take_of_le enough, ?_, left, silence,
      rfl, rfl⟩
    simp only [run, readExact, ran, ofRead]
  · apply Or.inr
    refine ⟨Nat.lt_of_not_le enough, { duplex with
      incoming := (DuplexStream.readExact count duplex.incoming).2 }, rfl, ?_⟩
    rcases read_exact_short count duplex.incoming (Nat.lt_of_not_le enough) with
      ⟨silent, stalled⟩ | ⟨heard, message, failed⟩
    · exact Or.inl ⟨silent, by simp only [run, readExact, stalled, ofRead]⟩
    · exact Or.inr ⟨heard, message, by simp only [run, readExact, failed, ofRead]⟩

theorem run_read_until_sent (capacity : Nat) (enough : List UInt8 → Bool) (duplex : Duplex) :
    ((readUntil capacity enough).run duplex).2.sent = duplex.sent := by
  rw [run, readUntil]
  split <;> rfl

theorem run_read_until_at_boundary {capacity : Nat} {enough : List UInt8 → Bool}
    {reads : List (List UInt8)} {count : Nat} (duplex : Duplex)
    (delivers : duplex.incoming = reads.map .data)
    (sizes : ∀ bytes ∈ reads, bytes ≠ [] ∧ bytes.length ≤ capacity)
    (boundary : FirstBoundary enough [] reads count) :
    (readUntil capacity enough).run duplex =
      (.ok (reads.take count).flatten,
        { duplex with incoming := (reads.drop count).map .data }) := by
  have stopped := gather_at_first_boundary capacity enough [] reads [] count sizes boundary
  simp only [List.append_nil, List.nil_append] at stopped
  simp only [run, readUntil, delivers, stopped]

/-- On a stream that takes all writes and delivers `wanted` next, the action
consumes exactly `wanted` and comes back with `value`. -/
def Answers (action : Exchange Value) (wanted : List UInt8) (value : Value) : Prop :=
  ∀ (duplex : Duplex) (behind : List UInt8), duplex.writes = [] →
    received duplex.incoming = wanted ++ behind →
      ∃ after, action.run duplex = (.ok value, after) ∧ after.writes = [] ∧
        received after.incoming = behind

theorem answers_pure (value : Value) : Answers (pure value) [] value := by
  intro duplex behind accepting delivers
  exact ⟨duplex, rfl, accepting, delivers⟩

theorem answers_unwrap (value : Value) : Answers (unwrap (some value)) [] value :=
  answers_pure value

theorem answers_write (bytes : List UInt8) : Answers (writeAll bytes) [] () := by
  intro duplex behind accepting delivers
  exact ⟨_, run_write_all bytes duplex accepting, accepting, delivers⟩

theorem answers_read {count : Nat} (wanted : List UInt8) (size : wanted.length = count) :
    Answers (readExact count) wanted wanted := by
  intro duplex behind accepting delivers
  obtain ⟨after, ran, left, _, writes⟩ := run_read_exact delivers size
  exact ⟨after, ran, writes.trans accepting, left⟩

theorem answers_bind {action : Exchange Value} {next : Value → Exchange Other}
    {front back : List UInt8} {value : Value} {result : Other}
    (first : Answers action front value) (second : Answers (next value) back result) :
    Answers (action >>= next) (front ++ back) result := by
  intro duplex behind accepting delivers
  rw [List.append_assoc] at delivers
  obtain ⟨middle, ran, stillAccepting, left⟩ := first duplex (back ++ behind) accepting delivers
  rw [run_bind_ok ran]
  exact second middle behind stillAccepting left

end Exchange

/-! ## Connecting -/

/-- How `TcpStream::connect` under a timeout ends. -/
inductive TcpConnect where
  | connected (stream : Duplex)
  | refused (message : String)
  | timedOut
  deriving DecidableEq, Repr

/-- `timeout(.., TcpStream::connect(..)).await` with its two errors mapped. -/
def TcpConnect.stream (timedOutText : String) (refusedText : String → String) :
    TcpConnect → Outcome Duplex
  | .connected stream => .ok stream
  | .refused message => .err (refusedText message)
  | .timedOut => .err timedOutText

/-- Hands the stream on to the caller once the dialogue over it has succeeded. -/
def handOver (dialogue : Exchange Unit) : Outcome Duplex → Outcome Duplex
  | .ok stream =>
      match dialogue.run stream with
      | (.ok _, after) => .ok after
      | (.err message, _) => .err message
      | (.panic, _) => .panic
      | (.hang, _) => .hang
  | .err message => .err message
  | .panic => .panic
  | .hang => .hang

theorem hand_over_ok_iff (dialogue : Exchange Unit) (stream after : Duplex) :
    handOver dialogue (.ok stream) = .ok after ↔ dialogue.run stream = (.ok (), after) := by
  simp only [handOver]
  obtain ⟨outcome, left⟩ := dialogue.run stream
  cases outcome <;> simp

end MultiProxy.DuplexStream
