import Mathlib.Data.List.Basic

/-!
Base64 with padding: three bytes are four digits of six bits, and an equals sign
stands for each digit that the last group is short of.
-/

namespace MultiProxy.Base64

set_option autoImplicit false

def digitChar (value : Nat) : Char :=
  if value < 26 then Char.ofNat (65 + value)
  else if value < 52 then Char.ofNat (71 + value)
  else if value < 62 then Char.ofNat (value - 4)
  else if value = 62 then '+'
  else '/'

def digitValue (digit : Char) : Option Nat :=
  if digit.isUpper then some (digit.toNat - 65)
  else if digit.isLower then some (digit.toNat - 71)
  else if digit.isDigit then some (digit.toNat + 4)
  else if digit = '+' then some 62
  else if digit = '/' then some 63
  else none

def encode : List UInt8 → List Char
  | [] => []
  | [first] =>
      [digitChar (first.toNat / 4), digitChar (first.toNat % 4 * 16), '=', '=']
  | [first, second] =>
      [digitChar (first.toNat / 4), digitChar (first.toNat % 4 * 16 + second.toNat / 16),
        digitChar (second.toNat % 16 * 4), '=']
  | first :: second :: third :: rest =>
      digitChar (first.toNat / 4) :: digitChar (first.toNat % 4 * 16 + second.toNat / 16) ::
        digitChar (second.toNat % 16 * 4 + third.toNat / 64) :: digitChar (third.toNat % 64) ::
        encode rest

/-- The last group when its fourth place is padding. The bits that belong to no
byte have to be zero. -/
def decodePadded (first second third : Char) : Option (List UInt8) :=
  match digitValue first, digitValue second with
  | some first, some second =>
      if third = '=' then
        if second % 16 = 0 then some [UInt8.ofNat (first * 4 + second / 16)] else none
      else
        match digitValue third with
        | some third =>
            if third % 4 = 0 then
              some [UInt8.ofNat (first * 4 + second / 16),
                UInt8.ofNat (second % 16 * 16 + third / 4)]
            else none
        | none => none
  | _, _ => none

def decodeGroup (first second third fourth : Char) : Option (List UInt8) :=
  match digitValue first, digitValue second, digitValue third, digitValue fourth with
  | some first, some second, some third, some fourth =>
      some [UInt8.ofNat (first * 4 + second / 16), UInt8.ofNat (second % 16 * 16 + third / 4),
        UInt8.ofNat (third % 4 * 64 + fourth)]
  | _, _, _, _ => none

def decode : List Char → Option (List UInt8)
  | [] => some []
  | first :: second :: third :: fourth :: rest =>
      if fourth = '=' then
        if rest = [] then decodePadded first second third else none
      else
        match decodeGroup first second third fourth, decode rest with
        | some group, some others => some (group ++ others)
        | _, _ => none
  | _ => none

theorem digits : ∀ value < 64, digitValue (digitChar value) = some value ∧
    digitChar value ≠ '=' := by
  decide

theorem byte_of_value {byte : UInt8} {value : Nat} (same : value = byte.toNat) :
    UInt8.ofNat value = byte := by
  rw [same, UInt8.ofNat_toNat]

theorem decode_one (first : UInt8) : decode (encode [first]) = some [first] := by
  have bound := first.toNat_lt
  have firstDigit := digits (first.toNat / 4) (by omega)
  have secondDigit := digits (first.toNat % 4 * 16) (by omega)
  have zero : first.toNat % 4 * 16 % 16 = 0 := Nat.mul_mod_left _ _
  have value : first.toNat / 4 * 4 + first.toNat % 4 * 16 / 16 = first.toNat := by omega
  simp only [encode, decode, if_true, decodePadded, firstDigit.1, secondDigit.1, if_pos zero,
    byte_of_value value]

theorem decode_two (first second : UInt8) :
    decode (encode [first, second]) = some [first, second] := by
  have bound := first.toNat_lt
  have secondBound := second.toNat_lt
  have firstDigit := digits (first.toNat / 4) (by omega)
  have secondDigit := digits (first.toNat % 4 * 16 + second.toNat / 16) (by omega)
  have thirdDigit := digits (second.toNat % 16 * 4) (by omega)
  have zero : second.toNat % 16 * 4 % 4 = 0 := Nat.mul_mod_left _ _
  have value : first.toNat / 4 * 4 + (first.toNat % 4 * 16 + second.toNat / 16) / 16 =
      first.toNat := by omega
  have secondValue : (first.toNat % 4 * 16 + second.toNat / 16) % 16 * 16 +
      second.toNat % 16 * 4 / 4 = second.toNat := by omega
  simp only [encode, decode, if_true, decodePadded, firstDigit.1, secondDigit.1,
    if_neg thirdDigit.2, thirdDigit.1, if_pos zero, byte_of_value value,
    byte_of_value secondValue]

theorem decode_three (first second third : UInt8) (rest : List UInt8) :
    decode (encode (first :: second :: third :: rest)) =
      (decode (encode rest)).map ([first, second, third] ++ ·) := by
  have bound := first.toNat_lt
  have secondBound := second.toNat_lt
  have thirdBound := third.toNat_lt
  have firstDigit := digits (first.toNat / 4) (by omega)
  have secondDigit := digits (first.toNat % 4 * 16 + second.toNat / 16) (by omega)
  have thirdDigit := digits (second.toNat % 16 * 4 + third.toNat / 64) (by omega)
  have fourthDigit := digits (third.toNat % 64) (by omega)
  have value : first.toNat / 4 * 4 + (first.toNat % 4 * 16 + second.toNat / 16) / 16 =
      first.toNat := by omega
  have secondValue : (first.toNat % 4 * 16 + second.toNat / 16) % 16 * 16 +
      (second.toNat % 16 * 4 + third.toNat / 64) / 4 = second.toNat := by omega
  have thirdValue : (second.toNat % 16 * 4 + third.toNat / 64) % 4 * 64 + third.toNat % 64 =
      third.toNat := by omega
  simp only [encode, decode, if_neg fourthDigit.2, decodeGroup, firstDigit.1, secondDigit.1,
    thirdDigit.1, fourthDigit.1, byte_of_value value, byte_of_value secondValue,
    byte_of_value thirdValue]
  cases decode (encode rest) with
  | none => rfl
  | some others => rfl

theorem decode_encode (bytes : List UInt8) : decode (encode bytes) = some bytes := by
  fun_induction encode bytes with
  | case1 => rfl
  | case2 first => exact decode_one first
  | case3 first second => exact decode_two first second
  | case4 first second third rest ih =>
      have group := decode_three first second third rest
      rw [ih] at group
      exact group

example : String.ofList (encode [0x4D, 0x61, 0x6E, 0x2D]) = "TWFuLQ==" := by decide

end MultiProxy.Base64
