import MultiProxy.ByteScan
import Mathlib.Data.List.TakeWhile
import Mathlib.Tactic.IntervalCases

/-!
The chunked transfer coding of HTTP/1.1. The decoder accepts chunk extensions,
either case of hexadecimal digit and a trailer section. What an encoder writes
decodes to the concatenation of its chunks, and whatever decodes is longer than
the body it stands for, so no byte string is its own encoding.
-/

namespace MultiProxy.ChunkedCoding

open MultiProxy.ByteScan

set_option autoImplicit false

/-! ## Chunk sizes -/

def hexValue (byte : UInt8) : Option Nat :=
  if 0x30 ≤ byte ∧ byte ≤ 0x39 then some (byte.toNat - 0x30)
  else if 0x41 ≤ byte ∧ byte ≤ 0x46 then some (byte.toNat - 0x37)
  else if 0x61 ≤ byte ∧ byte ≤ 0x66 then some (byte.toNat - 0x57)
  else none

def isHex (byte : UInt8) : Bool := (hexValue byte).isSome

def hexNumber (digits : List UInt8) : Nat :=
  digits.foldl (fun number byte => number * 16 + (hexValue byte).getD 0) 0

/-- The size on a chunk's first line; a semicolon or blank begins the extensions. -/
def chunkSize (line : List UInt8) : Option Nat :=
  let digits := line.takeWhile isHex
  let extension := line.dropWhile isHex
  if digits = [] then none
  else if extension = [] ∨ extension.head? = some 0x3B ∨ extension.head? = some 0x20 ∨
      extension.head? = some 0x09 then some (hexNumber digits)
  else none

def hexByte (value : Nat) : UInt8 :=
  if value < 10 then UInt8.ofNat (0x30 + value) else UInt8.ofNat (0x37 + value)

def hexDigitsWithin : Nat → Nat → List UInt8
  | 0, _ => []
  | fuel + 1, number =>
      if number < 16 then [hexByte number]
      else hexDigitsWithin fuel (number / 16) ++ [hexByte (number % 16)]

/-- A number in upper-case hexadecimal without leading zeros. -/
def hexDigits (number : Nat) : List UInt8 := hexDigitsWithin (number + 1) number

theorem hex_value_byte {value : Nat} (small : value < 16) :
    hexValue (hexByte value) = some value := by
  interval_cases value <;> decide

theorem hex_digits_within (fuel number : Nat) (enough : number < fuel) :
    hexNumber (hexDigitsWithin fuel number) = number ∧
      (∀ byte ∈ hexDigitsWithin fuel number, isHex byte = true) ∧
        hexDigitsWithin fuel number ≠ [] := by
  induction fuel generalizing number with
  | zero => omega
  | succ fuel ih =>
      unfold hexDigitsWithin
      by_cases small : number < 16
      · rw [if_pos small]
        simp [hexNumber, isHex, hex_value_byte small]
      · rw [if_neg small]
        have digit := hex_value_byte (Nat.mod_lt number (by omega : 0 < 16))
        obtain ⟨value, digits, _⟩ := ih (number / 16) (by omega)
        refine ⟨?_, ?_, by simp⟩
        · rw [hexNumber, List.foldl_append]
          change (hexNumber (hexDigitsWithin fuel (number / 16))) * 16 +
            (hexValue (hexByte (number % 16))).getD 0 = number
          rw [value, digit]
          simp only [Option.getD_some]
          omega
        · intro byte member
          rcases List.mem_append.mp member with earlier | last
          · exact digits byte earlier
          · rw [List.mem_singleton] at last
            subst last
            simp [isHex, digit]

theorem chunk_size_hex_digits (number : Nat) : chunkSize (hexDigits number) = some number := by
  obtain ⟨value, digits, nonempty⟩ := hex_digits_within (number + 1) number (by omega)
  have whole : (hexDigits number).takeWhile isHex = hexDigits number :=
    List.takeWhile_eq_self_iff.mpr digits
  have nothing : (hexDigits number).dropWhile isHex = [] :=
    List.dropWhile_eq_nil_iff.mpr digits
  have present : hexDigits number ≠ [] := nonempty
  simp only [chunkSize, whole, nothing]
  rw [if_neg present, if_pos (by simp)]
  exact congrArg some value

theorem hex_digits_unbroken (number : Nat) : (0x0A : UInt8) ∉ hexDigits number := by
  intro member
  obtain ⟨_, digits, _⟩ := hex_digits_within (number + 1) number (by omega)
  exact absurd (digits 0x0A member) (by decide)

/-! ## Encoding and decoding -/

def encodeChunk (payload : List UInt8) : List UInt8 :=
  hexDigits payload.length ++ crlf ++ (payload ++ crlf)

def lastChunk : List UInt8 := [0x30] ++ crlf ++ crlf

/-- One chunk for each payload and the empty chunk that ends the body. -/
def encodeChunks (payloads : List (List UInt8)) : List UInt8 :=
  (payloads.map encodeChunk).flatten ++ lastChunk

/-- Skips a trailer section: lines up to the first empty one. -/
def skipTrailers : Nat → List UInt8 → Option (List UInt8)
  | 0, _ => none
  | fuel + 1, input =>
      match splitLine input with
      | none => none
      | some (line, rest) => if line = [] then some rest else skipTrailers fuel rest

def decodeWithin : Nat → List UInt8 → Option (List UInt8 × List UInt8)
  | 0, _ => none
  | fuel + 1, input =>
      match splitLine input with
      | none => none
      | some (line, afterLine) =>
          match chunkSize line with
          | none => none
          | some 0 => (skipTrailers (fuel + 1) afterLine).map fun rest => ([], rest)
          | some (size + 1) =>
              if (afterLine.drop (size + 1)).take 2 = crlf then
                (decodeWithin fuel (afterLine.drop (size + 3))).map fun decoded =>
                  (afterLine.take (size + 1) ++ decoded.1, decoded.2)
              else none

/-- The body of a chunked message and the bytes behind the message. Every line
takes at least two bytes, so the input's length is fuel enough. -/
def decodeChunked (input : List UInt8) : Option (List UInt8 × List UInt8) :=
  decodeWithin (input.length + 1) input

theorem split_line_shortens {text line rest : List UInt8}
    (split : splitLine text = some (line, rest)) :
    line.length + 2 + rest.length = text.length := by
  rw [split_line_sound split]
  simp only [crlf, List.length_append, List.length_cons, List.length_nil]

theorem skip_trailers_shortens {fuel : Nat} {input rest : List UInt8}
    (skipped : skipTrailers fuel input = some rest) : rest.length < input.length := by
  induction fuel generalizing input with
  | zero => cases skipped
  | succ fuel ih =>
      rw [skipTrailers] at skipped
      split at skipped
      · cases skipped
      · rename_i line after split
        have lengths := split_line_shortens split
        split at skipped
        · cases skipped
          omega
        · have shorter := ih skipped
          omega

theorem chunk_end_within {afterLine : List UInt8} {size : Nat}
    (ended : (afterLine.drop (size + 1)).take 2 = crlf) : size + 3 ≤ afterLine.length := by
  have two := congrArg List.length ended
  simp only [List.length_take, List.length_drop, crlf, List.length_cons, List.length_nil] at two
  omega

theorem decode_within_shortens {fuel : Nat} {input body rest : List UInt8}
    (decoded : decodeWithin fuel input = some (body, rest)) :
    body.length + rest.length < input.length := by
  induction fuel generalizing input body with
  | zero => cases decoded
  | succ fuel ih =>
      rw [decodeWithin] at decoded
      split at decoded
      · cases decoded
      · rename_i line afterLine split
        have lengths := split_line_shortens split
        split at decoded
        · cases decoded
        · obtain ⟨left, skipped, same⟩ := Option.map_eq_some_iff.mp decoded
          cases same
          have shorter := skip_trailers_shortens skipped
          simp only [List.length_nil]
          omega
        · rename_i size _
          split at decoded
          · rename_i ended
            obtain ⟨⟨inner, left⟩, found, same⟩ := Option.map_eq_some_iff.mp decoded
            cases same
            have shorter := ih found
            have enough := chunk_end_within ended
            simp only [List.length_append, List.length_take, List.length_drop] at shorter ⊢
            omega
          · cases decoded

theorem skip_trailers_further {fuel : Nat} {input rest : List UInt8} (back : List UInt8)
    (skipped : skipTrailers fuel input = some rest) :
    skipTrailers fuel (input ++ back) = some (rest ++ back) := by
  induction fuel generalizing input with
  | zero => cases skipped
  | succ fuel ih =>
      rw [skipTrailers] at skipped ⊢
      split at skipped
      · cases skipped
      · rename_i line after split
        simp only [split_line_further back split]
        split at skipped
        · rename_i empty
          cases skipped
          rw [if_pos empty]
        · rename_i nonempty
          rw [if_neg nonempty]
          exact ih skipped

theorem decode_within_further {fuel : Nat} {input body rest : List UInt8} (back : List UInt8)
    (decoded : decodeWithin fuel input = some (body, rest)) :
    decodeWithin fuel (input ++ back) = some (body, rest ++ back) := by
  induction fuel generalizing input body with
  | zero => cases decoded
  | succ fuel ih =>
      rw [decodeWithin] at decoded ⊢
      split at decoded
      · cases decoded
      · rename_i line afterLine split
        simp only [split_line_further back split]
        split at decoded
        · cases decoded
        · rename_i empty
          obtain ⟨left, skipped, same⟩ := Option.map_eq_some_iff.mp decoded
          cases same
          simp only [skip_trailers_further back skipped, Option.map_some]
        · rename_i size sized
          split at decoded
          · rename_i ended
            obtain ⟨⟨inner, left⟩, found, same⟩ := Option.map_eq_some_iff.mp decoded
            cases same
            have enough := chunk_end_within ended
            have endedThere : ((afterLine ++ back).drop (size + 1)).take 2 = crlf := by
              rw [List.drop_append_of_le_length (by omega),
                List.take_append_of_le_length (by rw [List.length_drop]; omega)]
              exact ended
            have later : (afterLine ++ back).drop (size + 3) = afterLine.drop (size + 3) ++ back :=
              List.drop_append_of_le_length enough
            have payload : (afterLine ++ back).take (size + 1) = afterLine.take (size + 1) :=
              List.take_append_of_le_length (by omega)
            simp only [if_pos endedThere, later, payload, ih found, Option.map_some]
          · cases decoded

/-- No byte string is a chunked encoding of itself. -/
theorem decoded_body_shorter {input body rest : List UInt8}
    (decoded : decodeChunked input = some (body, rest)) : body.length < input.length := by
  have shorter := decode_within_shortens decoded
  omega

theorem decode_within_last_chunk (fuel : Nat) (rest : List UInt8) :
    decodeWithin (fuel + 1) (lastChunk ++ rest) = some ([], rest) := by
  have first : splitLine (lastChunk ++ rest) = some ([0x30], crlf ++ rest) := by
    have split := split_line_append [0x30] (crlf ++ rest) (by decide)
    simpa [lastChunk] using split
  have second : splitLine (crlf ++ rest) = some ([], rest) := split_line_append [] rest (by simp)
  have size : chunkSize [0x30] = some 0 := by decide
  rw [decodeWithin, first]
  simp only [size, skipTrailers, second, if_true, Option.map_some]

theorem decode_within_chunk (fuel : Nat) (payload rest : List UInt8) (nonempty : payload ≠ []) :
    decodeWithin (fuel + 1) (encodeChunk payload ++ rest) =
      (decodeWithin fuel rest).map fun decoded => (payload ++ decoded.1, decoded.2) := by
  have first : splitLine (encodeChunk payload ++ rest) =
      some (hexDigits payload.length, payload ++ (crlf ++ rest)) := by
    have split := split_line_append (hexDigits payload.length) (payload ++ (crlf ++ rest))
      (hex_digits_unbroken _)
    simpa [encodeChunk] using split
  obtain ⟨head, more, same⟩ := List.exists_cons_of_ne_nil nonempty
  have length : payload.length = more.length + 1 := by rw [same, List.length_cons]
  have size : chunkSize (hexDigits payload.length) = some (more.length + 1) := by
    rw [chunk_size_hex_digits, length]
  have ended : (payload ++ (crlf ++ rest)).drop (more.length + 1) = crlf ++ rest := by
    rw [← length, List.drop_left]
  have behind : (payload ++ (crlf ++ rest)).drop (more.length + 3) = rest := by
    rw [show more.length + 3 = (payload ++ crlf).length by simp [length, crlf],
      ← List.append_assoc, List.drop_left]
  have taken : (payload ++ (crlf ++ rest)).take (more.length + 1) = payload := by
    rw [← length, List.take_left]
  rw [decodeWithin, first]
  simp only [size, ended, behind, taken]
  rw [if_pos (by simp [crlf])]

theorem decode_encode_within (payloads : List (List UInt8)) (rest : List UInt8)
    (nonempty : ∀ payload ∈ payloads, payload ≠ []) (fuel : Nat) (enough : payloads.length < fuel) :
    decodeWithin fuel (encodeChunks payloads ++ rest) = some (payloads.flatten, rest) := by
  induction payloads generalizing fuel with
  | nil =>
      obtain ⟨extra, same⟩ := Nat.exists_eq_add_of_lt enough
      rw [same]
      exact decode_within_last_chunk _ rest
  | cons payload payloads ih =>
      cases fuel with
      | zero => simp at enough
      | succ fuel =>
          have split : encodeChunks (payload :: payloads) ++ rest =
              encodeChunk payload ++ (encodeChunks payloads ++ rest) := by
            simp [encodeChunks]
          rw [split, decode_within_chunk fuel payload _ (nonempty payload (by simp)),
            ih (by intro later member; exact nonempty later (by simp [member])) fuel
              (by simpa using enough)]
          rfl

theorem payload_count_le (payloads : List (List UInt8)) :
    payloads.length ≤ (encodeChunks payloads).length := by
  induction payloads with
  | nil => simp
  | cons payload payloads ih =>
      simp only [encodeChunks, List.map_cons, List.flatten_cons, List.length_append,
        List.length_cons, encodeChunk, crlf, List.length_nil] at ih ⊢
      omega

theorem decode_encode_chunks (payloads : List (List UInt8)) (rest : List UInt8)
    (nonempty : ∀ payload ∈ payloads, payload ≠ []) :
    decodeChunked (encodeChunks payloads ++ rest) = some (payloads.flatten, rest) := by
  apply decode_encode_within payloads rest nonempty
  have count := payload_count_le payloads
  rw [List.length_append]
  omega

end MultiProxy.ChunkedCoding
