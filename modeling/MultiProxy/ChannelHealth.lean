import MultiProxy.UpstreamDsn
import Mathlib.Data.List.Rotate

/-!
# Upstream channels, their health, and the order they are tried in

The manager holds one list of channels. A channel is marked by its id, which is
its index in that list. A request works on a copy of the list, rotated to where
its strategy starts.
-/

namespace MultiProxy.ChannelHealth

open MultiProxy.RustRuntime MultiProxy.UpstreamDsn

set_option autoImplicit false

inductive Health where
  | healthy
  | unhealthy
  | unknown
  deriving DecidableEq, Repr

structure Channel where
  id : Nat
  dsn : Dsn
  health : Health
  failureCount : UInt32
  lastSuccess : Option Instant
  lastFailure : Option Instant
  deriving DecidableEq, Repr

namespace Channel

def new (id : Nat) (dsn : Dsn) : Channel where
  id := id
  dsn := dsn
  health := .unknown
  failureCount := 0
  lastSuccess := none
  lastFailure := none

def markHealthy (channel : Channel) (now : Instant) : Channel :=
  { channel with health := .healthy, failureCount := 0, lastSuccess := some now }

def markUnhealthy (channel : Channel) (now : Instant) : Channel :=
  { channel with
    health := .unhealthy
    failureCount := saturatingAdd channel.failureCount 1
    lastFailure := some now }

/-- Seconds that a channel is left alone after its last failure. -/
def backoff (channel : Channel) : Nat :=
  if 5 < channel.failureCount then 300
  else min (saturatingPow 3 (min channel.failureCount 6).toNat) 300

def shouldRetry (channel : Channel) (now : Instant) : Bool :=
  if channel.health ≠ .unhealthy then true
  else
    match channel.lastFailure with
    | some last => channel.backoff ≤ asSecs (elapsed now last)
    | none => true

def mark (channel : Channel) (healthy : Bool) (now : Instant) : Channel :=
  if healthy then channel.markHealthy now else channel.markUnhealthy now

@[simp] theorem mark_id (channel : Channel) (healthy : Bool) (now : Instant) :
    (channel.mark healthy now).id = channel.id := by
  cases healthy <;> rfl

@[simp] theorem mark_dsn (channel : Channel) (healthy : Bool) (now : Instant) :
    (channel.mark healthy now).dsn = channel.dsn := by
  cases healthy <;> rfl

theorem backoff_le (channel : Channel) : channel.backoff ≤ 300 := by
  unfold backoff
  split
  · exact le_rfl
  · exact Nat.min_le_right _ _

theorem should_retry_later {channel : Channel} {earlier later : Instant} (order : earlier ≤ later)
    (retry : channel.shouldRetry earlier = true) : channel.shouldRetry later = true := by
  rw [shouldRetry] at retry ⊢
  by_cases up : channel.health ≠ .unhealthy
  · rw [if_pos up]
  · rw [if_neg up] at retry ⊢
    cases failed : channel.lastFailure with
    | none => rfl
    | some last =>
        simp only [failed, decide_eq_true_eq] at retry ⊢
        exact Nat.le_trans retry (as_secs_monotone (elapsed_monotone order))

theorem should_retry_after_limit {channel : Channel} {now : Instant}
    (waited : ∀ last, channel.lastFailure = some last → 300 ≤ asSecs (elapsed now last)) :
    channel.shouldRetry now = true := by
  unfold shouldRetry
  by_cases up : channel.health ≠ .unhealthy
  · rw [if_pos up]
  · rw [if_neg up]
    cases failed : channel.lastFailure with
    | none => rfl
    | some last =>
        have within := Nat.le_trans channel.backoff_le (waited last failed)
        simpa using within

end Channel

/-! ## The manager -/

/-- `get_mut(id)` and a mark, under the write lock. -/
def markChannel (channels : List Channel) (id : Nat) (healthy : Bool) (now : Instant) :
    List Channel :=
  channels.modify id fun channel => channel.mark healthy now

theorem mark_channel_at (channels : List Channel) (id : Nat) (healthy : Bool) (now : Instant) :
    (markChannel channels id healthy now)[id]? = channels[id]?.map (·.mark healthy now) := by
  simp [markChannel]

theorem mark_channel_other (channels : List Channel) {id index : Nat} (other : id ≠ index)
    (healthy : Bool) (now : Instant) :
    (markChannel channels id healthy now)[index]? = channels[index]? := by
  simp [markChannel, other]

theorem mark_channel_member {channels : List Channel} {id : Nat} {healthy : Bool} {now : Instant}
    {channel : Channel} (member : channel ∈ markChannel channels id healthy now) :
    channel ∈ channels ∨ ∃ old ∈ channels, channel = old.mark healthy now := by
  obtain ⟨index, here⟩ := List.mem_iff_getElem?.mp member
  by_cases same : id = index
  · subst same
    rw [mark_channel_at] at here
    obtain ⟨old, found, marked⟩ := Option.map_eq_some_iff.mp here
    exact .inr ⟨old, List.mem_of_getElem? found, marked.symm⟩
  · rw [mark_channel_other _ same] at here
    exact .inl (List.mem_of_getElem? here)

def healthyChannels (channels : List Channel) (now : Instant) : List Channel :=
  channels.filter fun channel => channel.health = .healthy && channel.shouldRetry now

/-- The list `main` builds. -/
def channelsOf (dsns : List Dsn) : List Channel := dsns.mapIdx Channel.new

/-- Every channel stands where its id says and keeps the DSN of that place. -/
def InPlace (dsns : List Dsn) (channels : List Channel) : Prop :=
  channels.map (fun channel => (channel.id, channel.dsn)) = dsns.mapIdx Prod.mk

theorem channels_of_in_place (dsns : List Dsn) : InPlace dsns (channelsOf dsns) := by
  apply List.ext_getElem?
  intro index
  simp only [channelsOf, List.getElem?_map, List.getElem?_mapIdx, Option.map_map]
  rfl

theorem mark_channel_in_place {dsns : List Dsn} {channels : List Channel}
    (inPlace : InPlace dsns channels) (id : Nat) (healthy : Bool) (now : Instant) :
    InPlace dsns (markChannel channels id healthy now) := by
  rw [InPlace, ← inPlace]
  apply List.ext_getElem?
  intro index
  simp only [markChannel, List.getElem?_map, List.getElem?_modify]
  cases channels[index]? with
  | none => rfl
  | some channel =>
      simp only [Option.map_some]
      split <;> simp

theorem in_place_length {dsns : List Dsn} {channels : List Channel}
    (inPlace : InPlace dsns channels) : channels.length = dsns.length := by
  have lengths := congrArg List.length inPlace
  simpa using lengths

theorem in_place_at {dsns : List Dsn} {channels : List Channel} (inPlace : InPlace dsns channels)
    {index : Nat} {channel : Channel} (here : channels[index]? = some channel) :
    channel.id = index ∧ dsns[index]? = some channel.dsn := by
  have entry := congrArg (·[index]?) inPlace
  simp only [List.getElem?_map, here, Option.map_some, List.getElem?_mapIdx] at entry
  cases dsn : dsns[index]? with
  | none => rw [dsn] at entry; cases entry
  | some dsn' =>
      rw [dsn] at entry
      cases entry
      exact ⟨rfl, rfl⟩

theorem in_place_member {dsns : List Dsn} {channels : List Channel}
    (inPlace : InPlace dsns channels) {channel : Channel} (member : channel ∈ channels) :
    channels[channel.id]? = some channel ∧ dsns[channel.id]? = some channel.dsn := by
  obtain ⟨index, here⟩ := List.mem_iff_getElem?.mp member
  obtain ⟨same, dsn⟩ := in_place_at inPlace here
  subst same
  exact ⟨here, dsn⟩

theorem in_place_ids {dsns : List Dsn} {channels : List Channel} (inPlace : InPlace dsns channels) :
    channels.map Channel.id = List.range channels.length := by
  apply List.ext_getElem?
  intro index
  rw [List.getElem?_map]
  cases here : channels[index]? with
  | none =>
      have beyond := List.getElem?_eq_none_iff.mp here
      simp [beyond]
  | some channel =>
      have within := (List.getElem?_eq_some_iff.mp here).1
      simp [List.getElem?_range within, (in_place_at inPlace here).1]

/-! ## Where a request starts -/

inductive Strategy where
  | order
  | hash
  deriving DecidableEq, Repr

/-- The first eight bytes of the digest, little-endian, modulo the number of
channels. -/
def hashIndex (sha256 : List UInt8 → Vector UInt8 32) (total : Nat) (target : String) : Nat :=
  if total = 0 then 0
  else
    let result := sha256 (utf8 target)
    let hash := (result.toList.take 8).foldr (fun byte value => byte.toNat + 256 * value) 0
    hash % total

def startIndex (sha256 : List UInt8 → Vector UInt8 32) (strategy : Strategy) (total : Nat)
    (target : String) : Nat :=
  match strategy with
  | .order => 0
  | .hash => hashIndex sha256 total target

/-- A snapshot rotated to the strategy's start. -/
def orderedChannels (sha256 : List UInt8 → Vector UInt8 32) (strategy : Strategy)
    (all : List Channel) (targetKey : String) : List Channel :=
  if all = [] then all
  else all.rotate (startIndex sha256 strategy all.length targetKey)

theorem ordered_channels_perm (sha256 : List UInt8 → Vector UInt8 32) (strategy : Strategy)
    (all : List Channel) (targetKey : String) :
    (orderedChannels sha256 strategy all targetKey).Perm all := by
  unfold orderedChannels
  split
  · exact List.Perm.refl all
  · exact List.rotate_perm all _

end MultiProxy.ChannelHealth
