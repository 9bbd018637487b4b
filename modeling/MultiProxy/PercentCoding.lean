import MultiProxy.LossyText

/-!
Percent-encoding and the pairs of an urlencoded query. An encoder is given by
the bytes that it keeps; every other byte becomes a percent sign and two digits.
-/

namespace MultiProxy.PercentCoding

open MultiProxy.RustRuntime MultiProxy.LossyText

set_option autoImplicit false

/-! ## Escapes -/

def hexDigit (value : Nat) : UInt8 :=
  UInt8.ofNat (if value < 10 then 0x30 + value else 0x37 + value)

def hexDigitValue (digit : UInt8) : Option Nat :=
  if 0x30 ≤ digit ∧ digit ≤ 0x39 then some (digit.toNat - 0x30)
  else if 0x41 ≤ digit ∧ digit ≤ 0x46 then some (digit.toNat - 0x37)
  else if 0x61 ≤ digit ∧ digit ≤ 0x66 then some (digit.toNat - 0x57)
  else none

def escaped (byte : UInt8) : List UInt8 :=
  [0x25, hexDigit (byte.toNat / 16), hexDigit (byte.toNat % 16)]

/-- The byte that three bytes stand for when they are an escape. -/
def unescape (first high low : UInt8) : Option UInt8 :=
  if first = 0x25 then
    match hexDigitValue high, hexDigitValue low with
    | some high, some low => some (UInt8.ofNat (16 * high + low))
    | _, _ => none
  else none

/-- A percent sign that begins no escape stands for itself. -/
def percentDecode : List UInt8 → List UInt8
  | first :: high :: low :: rest =>
      match unescape first high low with
      | some byte => byte :: percentDecode rest
      | none => first :: percentDecode (high :: low :: rest)
  | bytes => bytes

def percentEncode (keep : UInt8 → Bool) (bytes : List UInt8) : List UInt8 :=
  bytes.flatMap fun byte => if keep byte then [byte] else escaped byte

theorem hex_digits : ∀ value < 16, hexDigitValue (hexDigit value) = some value ∧
    (0x30 ≤ hexDigit value ∧ hexDigit value ≤ 0x39 ∨
      0x41 ≤ hexDigit value ∧ hexDigit value ≤ 0x46) := by
  decide

theorem nibbles_small (byte : UInt8) : byte.toNat / 16 < 16 ∧ byte.toNat % 16 < 16 := by
  have bound := byte.toNat_lt
  omega

theorem unescape_escaped (byte : UInt8) :
    unescape 0x25 (hexDigit (byte.toNat / 16)) (hexDigit (byte.toNat % 16)) = some byte := by
  have high := (hex_digits _ (nibbles_small byte).1).1
  have low := (hex_digits _ (nibbles_small byte).2).1
  have joined : 16 * (byte.toNat / 16) + byte.toNat % 16 = byte.toNat := Nat.div_add_mod _ _
  simp only [unescape, if_true, high, low, joined, UInt8.ofNat_toNat]

theorem decode_escaped (byte : UInt8) (rest : List UInt8) :
    percentDecode (escaped byte ++ rest) = byte :: percentDecode rest := by
  simp only [escaped, List.cons_append, List.nil_append, percentDecode, unescape_escaped]

theorem decode_other {first : UInt8} (other : first ≠ 0x25) (rest : List UInt8) :
    percentDecode (first :: rest) = first :: percentDecode rest := by
  match rest with
  | [] => rfl
  | [second] => rfl
  | high :: low :: behind =>
      have none : unescape first high low = none := by rw [unescape, if_neg other]
      simp only [percentDecode, none]

theorem decode_plain {bytes : List UInt8} (plain : ∀ byte ∈ bytes, byte ≠ 0x25) :
    percentDecode bytes = bytes := by
  induction bytes with
  | nil => rfl
  | cons byte rest ih =>
      rw [List.forall_mem_cons] at plain
      rw [decode_other plain.1, ih plain.2]

section Encoding

variable {keep : UInt8 → Bool}

theorem encode_cons (byte : UInt8) (rest : List UInt8) :
    percentEncode keep (byte :: rest) =
      (if keep byte then [byte] else escaped byte) ++ percentEncode keep rest :=
  List.flatMap_cons

theorem decode_encode (escapes : keep 0x25 = false) (bytes : List UInt8) :
    percentDecode (percentEncode keep bytes) = bytes := by
  induction bytes with
  | nil => rfl
  | cons byte rest ih =>
      rw [encode_cons]
      cases kept : keep byte with
      | true =>
          have other : byte ≠ 0x25 := by
            intro same
            rw [same, escapes] at kept
            cases kept
          rw [if_pos rfl, List.cons_append, List.nil_append, decode_other other, ih]
      | false => rw [if_neg Bool.false_ne_true, decode_escaped, ih]

theorem encode_length (bytes : List UInt8) :
    (percentEncode keep bytes).length = bytes.length + 2 * bytes.countP (!keep ·) := by
  induction bytes with
  | nil => rfl
  | cons byte rest ih =>
      rw [encode_cons, List.length_append, ih, List.countP_cons, List.length_cons]
      cases keep byte with
      | true =>
          simp only [if_true, List.length_singleton, Bool.not_true, Bool.false_eq_true, if_false]
          omega
      | false =>
          have size : (escaped byte).length = 3 := rfl
          simp only [Bool.false_eq_true, if_false, size, Bool.not_false, if_true]
          omega

theorem length_le_encoded (bytes : List UInt8) :
    bytes.length ≤ (percentEncode keep bytes).length := by
  rw [encode_length]
  exact Nat.le_add_right _ _

theorem encode_kept {bytes : List UInt8} (kept : ∀ byte ∈ bytes, keep byte = true) :
    percentEncode keep bytes = bytes := by
  induction bytes with
  | nil => rfl
  | cons byte rest ih =>
      rw [List.forall_mem_cons] at kept
      rw [encode_cons, if_pos kept.1, ih kept.2]
      rfl

/-- An encoding as long as what it encodes has escaped nothing. -/
theorem kept_of_length {bytes : List UInt8}
    (same : (percentEncode keep bytes).length = bytes.length) :
    ∀ byte ∈ bytes, keep byte = true := by
  rw [encode_length] at same
  have none : bytes.countP (!keep ·) = 0 := by omega
  intro byte member
  simpa using List.countP_eq_zero.mp none byte member

theorem encoded_byte {byte : UInt8} {bytes : List UInt8}
    (member : byte ∈ percentEncode keep bytes) :
    keep byte = true ∨ byte = 0x25 ∨ 0x30 ≤ byte ∧ byte ≤ 0x39 ∨ 0x41 ≤ byte ∧ byte ≤ 0x46 := by
  obtain ⟨source, _, written⟩ := List.mem_flatMap.mp member
  cases kept : keep source with
  | true =>
      rw [kept, if_pos rfl, List.mem_singleton] at written
      exact Or.inl (written ▸ kept)
  | false =>
      rw [kept, if_neg Bool.false_ne_true] at written
      simp only [escaped, List.mem_cons, List.not_mem_nil, or_false] at written
      obtain sign | high | low := written
      · exact Or.inr (Or.inl sign)
      · rw [high]
        exact Or.inr (Or.inr (hex_digits _ (nibbles_small source).1).2)
      · rw [low]
        exact Or.inr (Or.inr (hex_digits _ (nibbles_small source).2).2)

/-! ## Encoded text -/

/-- The kept bytes are visible ASCII, and the percent sign is not among them. -/
structure KeepsVisible (keep : UInt8 → Bool) : Prop where
  visible : ∀ byte, keep byte = true → 0x21 ≤ byte ∧ byte ≤ 0x7E
  escapes : keep 0x25 = false

def encodeText (keep : UInt8 → Bool) (text : String) : String :=
  String.ofList (asciiText (percentEncode keep (utf8 text)))

def Unescaped (keep : UInt8 → Bool) (text : String) : Prop := ∀ byte ∈ utf8 text, keep byte = true

instance (text : String) : Decidable (Unescaped keep text) :=
  inferInstanceAs (Decidable (∀ byte ∈ utf8 text, keep byte = true))

theorem encoded_visible (keeps : KeepsVisible keep) {byte : UInt8} {bytes : List UInt8}
    (member : byte ∈ percentEncode keep bytes) : 0x21 ≤ byte ∧ byte ≤ 0x7E := by
  obtain kept | sign | digit | letter := encoded_byte member
  · exact keeps.visible byte kept
  · subst sign
    decide
  · exact ⟨UInt8.le_trans (by decide) digit.1, UInt8.le_trans digit.2 (by decide)⟩
  · exact ⟨UInt8.le_trans (by decide) letter.1, UInt8.le_trans letter.2 (by decide)⟩

theorem utf8_encode_text (keeps : KeepsVisible keep) (text : String) :
    utf8 (encodeText keep text) = percentEncode keep (utf8 text) := by
  apply utf8_ascii_text
  intro byte member
  exact visible_is_ascii (encoded_visible keeps member)

theorem encode_text_iff (keeps : KeepsVisible keep) (text : String) :
    encodeText keep text = text ↔ Unescaped keep text := by
  constructor
  · intro same
    have bytes := congrArg utf8 same
    rw [utf8_encode_text keeps] at bytes
    exact kept_of_length (congrArg List.length bytes)
  · intro unescaped
    apply utf8_injective
    rw [utf8_encode_text keeps, encode_kept unescaped]

theorem encode_text_size (keeps : KeepsVisible keep) (text : String) :
    (utf8 text).length ≤ (utf8 (encodeText keep text)).length := by
  rw [utf8_encode_text keeps]
  exact length_le_encoded _

theorem unescaped_of_size (keeps : KeepsVisible keep) {text : String}
    (same : (utf8 (encodeText keep text)).length = (utf8 text).length) : Unescaped keep text := by
  rw [utf8_encode_text keeps] at same
  exact kept_of_length same

theorem hex_digit_alphanumeric {byte : UInt8}
    (digit : 0x30 ≤ byte ∧ byte ≤ 0x39 ∨ 0x41 ≤ byte ∧ byte ≤ 0x46) :
    (Char.ofNat byte.toNat).isAlphanum = true := by
  have code : (Char.ofNat byte.toNat).val.toNat = byte.toNat := ascii_char_code byte
  simp only [UInt8.le_iff_toNat_le, UInt8.reduceToNat] at digit
  obtain decimal | upper := digit
  · have isDigit : (Char.ofNat byte.toNat).isDigit = true := by
      simp only [Char.isDigit, Bool.and_eq_true, decide_eq_true_eq, ge_iff_le,
        UInt32.le_iff_toNat_le, code]
      exact decimal
    simp [Char.isAlphanum, isDigit]
  · have isUpper : (Char.ofNat byte.toNat).isUpper = true := by
      simp only [Char.isUpper, decide_eq_true_eq, ge_iff_le, UInt32.le_iff_toNat_le, code]
      exact ⟨upper.1, Nat.le_trans upper.2 (by decide)⟩
    simp [Char.isAlphanum, Char.isAlpha, isUpper]

/-- What an encoding is made of, for any class of characters that has the kept
ones, the percent sign, letters and digits. -/
theorem encoded_text_allowed {allowed : Char → Bool}
    (kept : ∀ byte, keep byte = true → allowed (Char.ofNat byte.toNat) = true)
    (sign : allowed '%' = true)
    (alphanumeric : ∀ character : Char, character.isAlphanum = true → allowed character = true)
    (text : String) :
    ∀ character ∈ (encodeText keep text).toList, allowed character = true := by
  intro character member
  rw [encodeText, String.toList_ofList] at member
  obtain ⟨byte, written, rfl⟩ := List.mem_map.mp member
  obtain isKept | rfl | digit := encoded_byte written
  · exact kept byte isKept
  · exact sign
  · exact alphanumeric _ (hex_digit_alphanumeric digit)

def keepAlphanumeric (byte : UInt8) : Bool := (Char.ofNat byte.toNat).isAlphanum

/-! ## Urlencoded queries -/

def plusToSpace (byte : UInt8) : UInt8 := if byte = 0x2B then 0x20 else byte

def decodeComponent (bytes : List UInt8) : String :=
  String.ofList (fromUtf8Lossy (percentDecode (bytes.map plusToSpace)))

/-- A piece of a query is cut at its first equals sign. -/
def formPair (piece : List UInt8) : String × String :=
  (decodeComponent (piece.takeWhile (· ≠ 0x3D)),
    decodeComponent (piece.dropWhile (· ≠ 0x3D)).tail)

/-- The names and values of a query; empty pieces are skipped. -/
def formPairs (query : List UInt8) : List (String × String) :=
  ((query.splitOn 0x26).filter (· ≠ [])).map formPair

theorem plus_to_space_plain {bytes : List UInt8} (plain : (0x2B : UInt8) ∉ bytes) :
    bytes.map plusToSpace = bytes := by
  have unchanged : ∀ byte ∈ bytes, plusToSpace byte = byte := by
    intro byte member
    have other : byte ≠ 0x2B := fun same => plain (same ▸ member)
    rw [plusToSpace, if_neg other]
  calc
    bytes.map plusToSpace = bytes.map id := List.map_congr_left unchanged
    _ = bytes := List.map_id bytes

theorem decode_component_plain {text : String} (noSign : (0x25 : UInt8) ∉ utf8 text)
    (noPlus : (0x2B : UInt8) ∉ utf8 text) : decodeComponent (utf8 text) = text := by
  have plain : ∀ byte ∈ utf8 text, byte ≠ 0x25 := fun byte member same => noSign (same ▸ member)
  rw [decodeComponent, plus_to_space_plain noPlus, decode_plain plain, lossy_utf8,
    String.ofList_toList]

/-- A component comes back when neither percent signs nor pluses are kept. -/
theorem decode_component_encoded (escapes : keep 0x25 = false) (escapesPlus : keep 0x2B = false)
    (text : String) : decodeComponent (percentEncode keep (utf8 text)) = text := by
  have noPlus : (0x2B : UInt8) ∉ percentEncode keep (utf8 text) := by
    intro member
    obtain kept | other := encoded_byte member
    · rw [escapesPlus] at kept
      cases kept
    · exact absurd other (by decide)
  rw [decodeComponent, plus_to_space_plain noPlus, decode_encode escapes, lossy_utf8,
    String.ofList_toList]

theorem form_pair_split {name : List UInt8} (noEquals : (0x3D : UInt8) ∉ name)
    (value : List UInt8) :
    formPair (name ++ 0x3D :: value) = (decodeComponent name, decodeComponent value) := by
  rw [formPair, ByteScan.before_separator noEquals, ByteScan.from_separator noEquals]
  rfl

theorem form_pairs_joined {pieces : List (List UInt8)} (some : pieces ≠ [])
    (whole : ∀ piece ∈ pieces, (0x26 : UInt8) ∉ piece ∧ piece ≠ []) :
    formPairs ([0x26].intercalate pieces) = pieces.map formPair := by
  have uncut : ∀ piece ∈ pieces, (0x26 : UInt8) ∉ piece :=
    fun piece member => (whole piece member).1
  have all : pieces.filter (· ≠ []) = pieces := by
    apply List.filter_eq_self.mpr
    intro piece member
    exact decide_eq_true (whole piece member).2
  rw [formPairs, List.splitOn_intercalate 0x26 uncut some, all]

end Encoding

end MultiProxy.PercentCoding
