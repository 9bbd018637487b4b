import Mathlib.Data.List.Basic

/-!
Fields that stand behind a length byte, and two-byte numbers, as decoders that
give back what they have read together with the bytes behind it. A length that
is cut to its low byte is only the length of the field up to 255.
-/

namespace MultiProxy.LengthPrefixes

set_option autoImplicit false

def takeBytes (count : Nat) (bytes : List UInt8) : Option (List UInt8 × List UInt8) :=
  if count ≤ bytes.length then some (bytes.take count, bytes.drop count) else none

theorem take_bytes_append {field : List UInt8} {count : Nat} (size : field.length = count)
    (rest : List UInt8) : takeBytes count (field ++ rest) = some (field, rest) := by
  subst size
  simp [takeBytes]

theorem taken_size {count : Nat} {bytes field rest : List UInt8}
    (taken : takeBytes count bytes = some (field, rest)) : field.length = count := by
  unfold takeBytes at taken
  by_cases enough : count ≤ bytes.length
  · simp only [if_pos enough, Option.some.injEq, Prod.mk.injEq] at taken
    rw [← taken.1]
    exact List.length_take_of_le enough
  · simp [if_neg enough] at taken

/-- A field behind the low byte of its length. -/
def prefixed (field : List UInt8) : List UInt8 := UInt8.ofNat field.length :: field

def takePrefixed : List UInt8 → Option (List UInt8 × List UInt8)
  | [] => none
  | size :: rest => takeBytes size.toNat rest

theorem take_prefixed_append {field : List UInt8} (fits : field.length ≤ 255)
    (rest : List UInt8) : takePrefixed (prefixed field ++ rest) = some (field, rest) := by
  have size : field.length = (UInt8.ofNat field.length).toNat := by
    rw [UInt8.toNat_ofNat']
    omega
  exact take_bytes_append size rest

/-- No decoder gets more than 255 bytes back from behind a length byte. -/
theorem taken_prefixed_fits {bytes field rest : List UInt8}
    (taken : takePrefixed bytes = some (field, rest)) : field.length ≤ 255 := by
  cases bytes with
  | nil => cases taken
  | cons size behind =>
      rw [taken_size taken]
      have bound := size.toNat_lt
      omega

theorem taken_whole {count : Nat} {bytes field rest : List UInt8}
    (taken : takeBytes count bytes = some (field, rest)) : bytes = field ++ rest := by
  unfold takeBytes at taken
  by_cases enough : count ≤ bytes.length
  · simp only [if_pos enough, Option.some.injEq, Prod.mk.injEq] at taken
    rw [← taken.1, ← taken.2, List.take_append_drop]
  · simp [if_neg enough] at taken

theorem taken_prefixed_whole {bytes field rest : List UInt8}
    (taken : takePrefixed bytes = some (field, rest)) : bytes = prefixed field ++ rest := by
  cases bytes with
  | nil => cases taken
  | cons size behind =>
      have length : UInt8.ofNat field.length = size := by
        rw [taken_size taken, UInt8.ofNat_toNat]
      rw [prefixed, length, List.cons_append, ← taken_whole taken]

/-- A number of two bytes, the high byte first. -/
def takeBigEndian : List UInt8 → Option (Nat × List UInt8)
  | high :: low :: rest => some (high.toNat * 256 + low.toNat, rest)
  | _ => none

def bigEndian (value : Nat) : List UInt8 :=
  [UInt8.ofNat (value / 256), UInt8.ofNat (value % 256)]

theorem take_big_endian_append {value : Nat} (fits : value < 65536) (rest : List UInt8) :
    takeBigEndian (bigEndian value ++ rest) = some (value, rest) := by
  have high : (UInt8.ofNat (value / 256)).toNat = value / 256 := by
    rw [UInt8.toNat_ofNat']
    omega
  have low : (UInt8.ofNat (value % 256)).toNat = value % 256 := by
    rw [UInt8.toNat_ofNat']
    omega
  simp only [bigEndian, List.cons_append, List.nil_append, takeBigEndian, high, low]
  rw [Nat.div_add_mod' value 256]

end MultiProxy.LengthPrefixes
