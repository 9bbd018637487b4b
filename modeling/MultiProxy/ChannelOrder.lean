import MultiProxy.RequestRuns

/-!
# The order in which a request tries the channels

`ordered_channels` with the places at which it could panic: the eight bytes of
the digest, the remainder, and the rotation. None of them does, and what comes
back is the manager's list read from the start index around.
-/

namespace MultiProxy.ChannelOrder

open MultiProxy.RustRuntime MultiProxy.InteractionPrograms.Program MultiProxy.ChannelHealth
open MultiProxy.ProxyRequests MultiProxy.RequestRuns

set_option autoImplicit false

/-! ## Where the source could panic -/

/-- `u64::from_le_bytes` of a slice that is turned into an array of eight. -/
def fromLeBytes (bytes : List UInt8) : Option Nat :=
  if bytes.length = 8 then
    some (bytes.foldr (fun byte value => byte.toNat + 256 * value) 0)
  else none

def checkedRem (value divisor : Nat) : Option Nat :=
  if divisor = 0 then none else some (value % divisor)

/-- `slice::rotate_left`, which panics beyond the length. -/
def rotateLeft {Item : Type} (items : List Item) (mid : Nat) : Option (List Item) :=
  if mid ≤ items.length then some (items.drop mid ++ items.take mid) else none

section Checked

variable (sha256 : List UInt8 → Vector UInt8 32) (strategy : Strategy)

def checkedHashIndex (total : Nat) (target : String) : Option Nat :=
  if total = 0 then some 0
  else do
    let hash ← fromLeBytes ((sha256 (utf8 target)).toList.take 8)
    checkedRem hash total

def checkedStartIndex (total : Nat) (target : String) : Option Nat :=
  match strategy with
  | .order => some 0
  | .hash => checkedHashIndex sha256 total target

def checkedOrder (all : List Channel) (targetKey : String) : Option (List Channel) :=
  if all = [] then some all
  else do
    let start ← checkedStartIndex sha256 strategy all.length targetKey
    rotateLeft all start

/-- `ordered_channels`: a copy of the manager's list, rotated. -/
def orderChannels (targetKey : String) : Proxy (Option (List Channel)) := do
  let all ← snapshot
  pure (checkedOrder sha256 strategy all targetKey)

/-! ## None of the places panics -/

theorem checked_hash_index (total : Nat) (target : String) :
    checkedHashIndex sha256 total target = some (hashIndex sha256 total target) := by
  have eight : ((sha256 (utf8 target)).toList.take 8).length = 8 := by simp
  unfold checkedHashIndex hashIndex
  by_cases empty : total = 0
  · rw [if_pos empty, if_pos empty]
  · rw [if_neg empty, if_neg empty, fromLeBytes, if_pos eight]
    exact if_neg empty

theorem checked_start_index (total : Nat) (target : String) :
    checkedStartIndex sha256 strategy total target =
      some (startIndex sha256 strategy total target) := by
  cases strategy with
  | order => rfl
  | hash => exact checked_hash_index sha256 total target

theorem start_index_lt {total : Nat} (some : total ≠ 0) (target : String) :
    startIndex sha256 strategy total target < total := by
  cases strategy with
  | order => exact Nat.pos_of_ne_zero some
  | hash =>
      rw [startIndex, hashIndex, if_neg some]
      exact Nat.mod_lt _ (Nat.pos_of_ne_zero some)

theorem rotate_left_within {Item : Type} {items : List Item} {mid : Nat}
    (within : mid ≤ items.length) : rotateLeft items mid = some (items.rotate mid) := by
  rw [rotateLeft, if_pos within, List.rotate_eq_drop_append_take within]

/-- The order that requests work with is the one that the source computes. -/
theorem checked_order (all : List Channel) (targetKey : String) :
    checkedOrder sha256 strategy all targetKey =
      some (orderedChannels sha256 strategy all targetKey) := by
  unfold checkedOrder orderedChannels
  by_cases empty : all = []
  · rw [if_pos empty, if_pos empty]
  · have inRange := start_index_lt sha256 strategy
      (mt List.length_eq_zero_iff.mp empty) targetKey
    rw [if_neg empty, if_neg empty, checked_start_index]
    exact rotate_left_within inRange.le

/-! ## The rotation -/

/-- The list read around, from the start index on. -/
structure Rotated (all ordered : List Channel) (start : Nat) : Prop where
  in_range : all ≠ [] → start < all.length
  same_length : ordered.length = all.length
  at_position : ∀ position, position < all.length →
    ordered[position]? = all[(start + position) % all.length]?
  each_once : ordered.Perm all

theorem ordered_rotated (all : List Channel) (targetKey : String) :
    Rotated all (orderedChannels sha256 strategy all targetKey)
      (startIndex sha256 strategy all.length targetKey) where
  in_range := by
    intro nonempty
    exact start_index_lt sha256 strategy (mt List.length_eq_zero_iff.mp nonempty) targetKey
  same_length := (ordered_channels_perm sha256 strategy all targetKey).length_eq
  at_position := by
    intro position within
    have nonempty : all ≠ [] := List.ne_nil_of_length_pos (Nat.zero_lt_of_lt within)
    rw [orderedChannels, if_neg nonempty, List.getElem?_rotate within, Nat.add_comm]
  each_once := ordered_channels_perm sha256 strategy all targetKey

theorem ordered_by_priority (all : List Channel) (targetKey : String) :
    orderedChannels sha256 .order all targetKey = all := by
  unfold orderedChannels
  split
  · rfl
  · exact List.rotate_zero all

/-- For every list of the manager, every strategy and every key the order comes
back without a panic, is a rotation of the list to the start index, and leaves
the list as it was. -/
theorem channels_ordered_by_rotation (around : Surroundings) (world : World)
    (targetKey : String) :
    ∃ ordered,
      runAlone around (orderChannels sha256 strategy targetKey) world =
          (some (some ordered), world) ∧
        Rotated world.channels ordered
          (startIndex sha256 strategy world.channels.length targetKey) ∧
        (strategy = .order → ordered = world.channels) := by
  refine ⟨orderedChannels sha256 strategy world.channels targetKey, ?_,
    ordered_rotated sha256 strategy world.channels targetKey, ?_⟩
  · rw [orderChannels, snapshot_bind, alone_snapshot, checked_order]
    rfl
  · intro byPriority
    rw [byPriority]
    exact ordered_by_priority sha256 world.channels targetKey

end Checked

end MultiProxy.ChannelOrder
