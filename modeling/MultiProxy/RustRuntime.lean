import Mathlib.Algebra.Ring.Nat
import Mathlib.Data.List.Basic
import Mathlib.Order.Basic

/-!
The part of the Rust language and standard library that network code leans on:
how a call ends, instants of the monotonic clock, saturating machine
arithmetic, and the bytes of a string. Nothing here knows about proxies.
-/

namespace MultiProxy.RustRuntime

set_option autoImplicit false

/-- How a call ends. `hang` is a future that never becomes ready: an await
without a deadline on a peer that stays silent. -/
inductive Outcome (Value : Type) where
  | ok (value : Value)
  | err (message : String)
  | panic
  | hang
  deriving DecidableEq, Repr

namespace Outcome

variable {Value : Type}

def isOk : Outcome Value → Bool
  | .ok _ => true
  | _ => false

/-- The call came back to its caller, with a value or with an error. -/
def Returned : Outcome Value → Prop
  | .ok _ => True
  | .err _ => True
  | .panic => False
  | .hang => False

end Outcome

/-- Nanoseconds of the monotonic clock. -/
abbrev Instant := Nat

/-- Nanoseconds. -/
abbrev Duration := Nat

/-- `Instant::elapsed`, which is zero for an instant still to come. -/
def elapsed (now since : Instant) : Duration := now - since

/-- `Duration::as_secs` drops the fraction. -/
def asSecs (duration : Duration) : Nat := duration / 1000000000

theorem as_secs_monotone {shorter longer : Duration} (order : shorter ≤ longer) :
    asSecs shorter ≤ asSecs longer :=
  Nat.div_le_div_right order

theorem elapsed_monotone {earlier later since : Instant} (order : earlier ≤ later) :
    elapsed earlier since ≤ elapsed later since :=
  Nat.sub_le_sub_right order since

def u32Max : Nat := 2 ^ 32 - 1

def u64Max : Nat := 2 ^ 64 - 1

/-- `u32::saturating_add`. -/
def saturatingAdd (left right : UInt32) : UInt32 :=
  UInt32.ofNat (min (left.toNat + right.toNat) u32Max)

theorem saturating_add_value (left right : UInt32) :
    (saturatingAdd left right).toNat = min (left.toNat + right.toNat) u32Max := by
  have bound : min (left.toNat + right.toNat) u32Max < 2 ^ 32 := by
    simp only [u32Max]
    omega
  simpa [saturatingAdd] using Nat.mod_eq_of_lt bound

/-- `u64::saturating_pow`. -/
def saturatingPow (base exponent : Nat) : Nat := min (base ^ exponent) u64Max

/-- `str::as_bytes`. -/
def utf8 (text : String) : List UInt8 := text.toList.flatMap String.utf8EncodeChar

@[simp] theorem utf8_append (left right : String) :
    utf8 (left ++ right) = utf8 left ++ utf8 right := by
  simp [utf8]

theorem or_high_byte (low high : UInt8) (isHigh : 0x80 ≤ high) : ¬ (low ||| high) < 0x80 := by
  rw [UInt8.not_lt, UInt8.le_iff_toNat_le, UInt8.toNat_or]
  exact Nat.le_trans isHigh Nat.right_le_or

theorem char_of_low_byte {character : Char} {byte : UInt8}
    (member : byte ∈ String.utf8EncodeChar character) (low : byte < 0x80) :
    character.toNat = byte.toNat := by
  match size : character.utf8Size, character.utf8Size_pos, character.utf8Size_le_four with
  | 1, _, _ =>
      rw [String.utf8EncodeChar_eq_singleton size, List.mem_singleton] at member
      rw [Char.utf8Size_eq_one_iff, UInt32.le_iff_toNat_le] at size
      have bound : character.val.toNat ≤ 127 := size
      rw [member, UInt32.toNat_toUInt8]
      have small : character.val.toNat < 2 ^ 8 := by omega
      exact (Nat.mod_eq_of_lt small).symm
  | 2, _, _ =>
      simp only [String.utf8EncodeChar_eq_cons_cons size, List.mem_cons, List.not_mem_nil,
        or_false] at member
      rcases member with rfl | rfl
      all_goals exact absurd low (or_high_byte _ _ (by decide))
  | 3, _, _ =>
      simp only [String.utf8EncodeChar_eq_cons_cons_cons size, List.mem_cons, List.not_mem_nil,
        or_false] at member
      rcases member with rfl | rfl | rfl
      all_goals exact absurd low (or_high_byte _ _ (by decide))
  | 4, _, _ =>
      simp only [String.utf8EncodeChar_eq_cons_cons_cons_cons size, List.mem_cons,
        List.not_mem_nil, or_false] at member
      rcases member with rfl | rfl | rfl | rfl
      all_goals exact absurd low (or_high_byte _ _ (by decide))

theorem utf8_of_ascii {text : String}
    (ascii : ∀ character ∈ text.toList, character.toNat < 0x80) :
    utf8 text = text.toList.map fun character => UInt8.ofNat character.toNat := by
  have encoded : ∀ chars : List Char, (∀ character ∈ chars, character.toNat < 0x80) →
      chars.flatMap String.utf8EncodeChar =
        chars.map fun character => UInt8.ofNat character.toNat := by
    intro chars low
    induction chars with
    | nil => rfl
    | cons character rest ih =>
        rw [List.forall_mem_cons] at low
        have single : character.utf8Size = 1 := by
          rw [Char.utf8Size_eq_one_iff, UInt32.le_iff_toNat_le]
          exact Nat.le_of_lt_succ low.1
        rw [List.flatMap_cons, String.utf8EncodeChar_eq_singleton single, ih low.2]
        rfl
  exact encoded text.toList ascii

theorem low_char_of_utf8 {text : String} {marker : Char} {byte : UInt8}
    (code : marker.toNat = byte.toNat) (low : byte < 0x80) (member : byte ∈ utf8 text) :
    marker ∈ text.toList := by
  obtain ⟨character, inText, encoded⟩ := List.mem_flatMap.mp member
  have same : character = marker :=
    Char.toNat_inj.mp ((char_of_low_byte encoded low).trans code.symm)
  exact same ▸ inText

theorem line_feed_of_utf8 {text : String} (member : (0x0A : UInt8) ∈ utf8 text) :
    '\n' ∈ text.toList :=
  low_char_of_utf8 (by decide) (by decide) member

theorem decimal_digit {value : Nat} {character : Char}
    (member : character ∈ (Nat.repr value).toList) : character.isDigit = true := by
  rw [Nat.toList_repr] at member
  exact Nat.isDigit_of_mem_toDigits (by decide) (by decide) member

theorem decimal_digit_range {value : Nat} {character : Char}
    (member : character ∈ (Nat.repr value).toList) :
    48 ≤ character.toNat ∧ character.toNat ≤ 57 := by
  have digit := decimal_digit member
  simp only [Char.isDigit, Bool.and_eq_true, decide_eq_true_eq, UInt32.le_iff_toNat_le] at digit
  exact digit

theorem utf8_of_decimal (value : Nat) :
    utf8 (Nat.repr value) =
      (Nat.repr value).toList.map fun character => UInt8.ofNat character.toNat := by
  apply utf8_of_ascii
  intro character member
  exact (decimal_digit_range member).2.trans_lt (by decide)

end MultiProxy.RustRuntime
