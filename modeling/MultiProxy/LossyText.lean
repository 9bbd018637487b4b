import MultiProxy.RustRuntime
import MultiProxy.ByteScan
import Mathlib

/-!
Text as Rust sees it in bytes that need not be text: lossy UTF-8 decoding, and
the line and word splitting of `str`. A decoded character of one byte never
belongs to a longer sequence, so text can be cut at it before or after decoding.
-/

namespace MultiProxy.LossyText

open MultiProxy.RustRuntime

set_option autoImplicit false

/-! ## Lossy decoding -/

def replacement : Char := Char.ofNat 0xFFFD

def isContinuation (byte : UInt8) : Bool := 0x80 ≤ byte ∧ byte ≤ 0xBF

/-- The second bytes that may follow the lead of a three-byte sequence. -/
def secondOfThree (lead second : UInt8) : Bool :=
  if lead = 0xE0 then 0xA0 ≤ second ∧ second ≤ 0xBF
  else if lead = 0xED then 0x80 ≤ second ∧ second ≤ 0x9F
  else isContinuation second

/-- The second bytes that may follow the lead of a four-byte sequence. -/
def secondOfFour (lead second : UInt8) : Bool :=
  if lead = 0xF0 then 0x90 ≤ second ∧ second ≤ 0xBF
  else if lead = 0xF4 then 0x80 ≤ second ∧ second ≤ 0x8F
  else isContinuation second

/-- The bytes of a well-formed beginning that is not complete yet. -/
inductive Pending where
  | idle
  | ofTwo (lead : UInt8)
  | ofThree (lead : UInt8)
  | ofThreeSecond (lead second : UInt8)
  | ofFour (lead : UInt8)
  | ofFourSecond (lead second : UInt8)
  | ofFourThird (lead second third : UInt8)
  deriving DecidableEq, Repr

/-- The character of a two-, three- or four-byte sequence from its payload bits. -/
def joinBits (leadBits : Nat) (continuations : List UInt8) : Char :=
  Char.ofNat (continuations.foldl (fun code byte => code * 64 + byte.toNat % 64) leadBits)

def start (byte : UInt8) : List Char × Pending :=
  if byte < 0x80 then ([Char.ofNat byte.toNat], .idle)
  else if 0xC2 ≤ byte ∧ byte ≤ 0xDF then ([], .ofTwo byte)
  else if 0xE0 ≤ byte ∧ byte ≤ 0xEF then ([], .ofThree byte)
  else if 0xF0 ≤ byte ∧ byte ≤ 0xF4 then ([], .ofFour byte)
  else ([replacement], .idle)

/-- A byte that cannot continue what is pending ends it as one replacement
character and then begins something of its own. -/
def restart (byte : UInt8) : List Char × Pending :=
  (replacement :: (start byte).1, (start byte).2)

def advance (pending : Pending) (byte : UInt8) : List Char × Pending :=
  match pending with
  | .idle => start byte
  | .ofTwo lead =>
      if isContinuation byte then ([joinBits (lead.toNat % 32) [byte]], .idle) else restart byte
  | .ofThree lead =>
      if secondOfThree lead byte then ([], .ofThreeSecond lead byte) else restart byte
  | .ofThreeSecond lead second =>
      if isContinuation byte then ([joinBits (lead.toNat % 16) [second, byte]], .idle)
      else restart byte
  | .ofFour lead =>
      if secondOfFour lead byte then ([], .ofFourSecond lead byte) else restart byte
  | .ofFourSecond lead second =>
      if isContinuation byte then ([], .ofFourThird lead second byte) else restart byte
  | .ofFourThird lead second third =>
      if isContinuation byte then ([joinBits (lead.toNat % 8) [second, third, byte]], .idle)
      else restart byte

/-- What the end of the input makes of a pending beginning. -/
def atEnd (pending : Pending) : List Char :=
  if pending = .idle then [] else [replacement]

def decodeFrom : Pending → List UInt8 → List Char
  | pending, [] => atEnd pending
  | pending, byte :: rest => (advance pending byte).1 ++ decodeFrom (advance pending byte).2 rest

/-- `String::from_utf8_lossy`: each maximal part of an ill-formed sequence
becomes one replacement character. -/
def fromUtf8Lossy (bytes : List UInt8) : List Char := decodeFrom .idle bytes

theorem ascii_not_continuation {byte : UInt8} (ascii : byte < 0x80) :
    isContinuation byte = false := by
  have notAbove : ¬ (0x80 : UInt8) ≤ byte := UInt8.not_le.mpr ascii
  simp [isContinuation, notAbove]

theorem ascii_not_second (lead : UInt8) {byte : UInt8} (ascii : byte < 0x80) :
    secondOfThree lead byte = false ∧ secondOfFour lead byte = false := by
  have notAbove : ¬ (0x80 : UInt8) ≤ byte := UInt8.not_le.mpr ascii
  have notThree : ¬ (0xA0 : UInt8) ≤ byte :=
    fun above => notAbove (UInt8.le_trans (by decide) above)
  have notFour : ¬ (0x90 : UInt8) ≤ byte := fun above => notAbove (UInt8.le_trans (by decide) above)
  simp [secondOfThree, secondOfFour, ascii_not_continuation ascii, notAbove, notThree, notFour]

theorem start_ascii {byte : UInt8} (ascii : byte < 0x80) :
    start byte = ([Char.ofNat byte.toNat], .idle) := by
  rw [start, if_pos ascii]

theorem advance_ascii (pending : Pending) {byte : UInt8} (ascii : byte < 0x80) :
    advance pending byte = (atEnd pending ++ [Char.ofNat byte.toNat], .idle) := by
  cases pending <;>
    simp [advance, restart, atEnd, start_ascii ascii, ascii_not_continuation ascii,
      ascii_not_second _ ascii]

theorem decode_append_ascii (pending : Pending) (front : List UInt8) {byte : UInt8}
    (ascii : byte < 0x80) (back : List UInt8) :
    decodeFrom pending (front ++ byte :: back) =
      decodeFrom pending front ++ Char.ofNat byte.toNat :: decodeFrom .idle back := by
  induction front generalizing pending with
  | nil => simp [decodeFrom, advance_ascii pending ascii]
  | cons head front ih => simp only [List.cons_append, decodeFrom, ih, List.append_assoc]

theorem lossy_append_ascii (front : List UInt8) (byte : UInt8) (ascii : byte < 0x80)
    (back : List UInt8) :
    fromUtf8Lossy (front ++ byte :: back) =
      fromUtf8Lossy front ++ Char.ofNat byte.toNat :: fromUtf8Lossy back :=
  decode_append_ascii .idle front ascii back

@[simp] theorem lossy_nil : fromUtf8Lossy [] = [] := rfl

def asciiText (bytes : List UInt8) : List Char := bytes.map fun byte => Char.ofNat byte.toNat

theorem lossy_ascii (bytes : List UInt8) (ascii : ∀ byte ∈ bytes, byte < 0x80) (back : List UInt8) :
    fromUtf8Lossy (bytes ++ back) = asciiText bytes ++ fromUtf8Lossy back := by
  induction bytes with
  | nil => rfl
  | cons byte rest ih =>
      have head := lossy_append_ascii [] byte (ascii byte (by simp)) (rest ++ back)
      have tail := ih (by intro later member; exact ascii later (by simp [member]))
      simpa [tail, asciiText] using head

/-- What is pending began with a lead byte of its length and, for the second
byte, one that is allowed behind that lead. -/
def WellBegun : Pending → Prop
  | .idle => True
  | .ofTwo lead => 0xC2 ≤ lead ∧ lead ≤ 0xDF
  | .ofThree lead => 0xE0 ≤ lead ∧ lead ≤ 0xEF
  | .ofThreeSecond lead second => (0xE0 ≤ lead ∧ lead ≤ 0xEF) ∧ secondOfThree lead second = true
  | .ofFour lead => 0xF0 ≤ lead ∧ lead ≤ 0xF4
  | .ofFourSecond lead second => (0xF0 ≤ lead ∧ lead ≤ 0xF4) ∧ secondOfFour lead second = true
  | .ofFourThird lead second _ => (0xF0 ≤ lead ∧ lead ≤ 0xF4) ∧ secondOfFour lead second = true

/-- The character comes from the byte itself, or is no ASCII character at all. -/
def FromByteOrHigh (byte : UInt8) (character : Char) : Prop :=
  character.toNat < 0x80 → character.toNat = byte.toNat

def HighCode (code : Nat) : Prop := 0x80 ≤ code ∧ code.isValidChar

theorem high_code_not_ascii (byte : UInt8) {code : Nat} (high : HighCode code) :
    FromByteOrHigh byte (Char.ofNat code) := by
  intro low
  rw [Char.toNat_ofNat, if_pos high.2] at low
  have above := high.1
  omega

theorem replacement_high (byte : UInt8) : FromByteOrHigh byte replacement :=
  high_code_not_ascii byte ⟨by decide, by decide⟩

theorem ascii_char_code (byte : UInt8) : (Char.ofNat byte.toNat).toNat = byte.toNat := by
  have small := byte.toNat_lt
  rw [Char.toNat_ofNat, if_pos]
  exact Or.inl (by omega)

theorem ascii_text_injective : Function.Injective asciiText := by
  apply List.map_injective_iff.mpr
  intro byte other same
  have codes := congrArg Char.toNat same
  rw [ascii_char_code, ascii_char_code] at codes
  exact UInt8.toNat_inj.mp codes

theorem start_from_byte (byte : UInt8) :
    WellBegun (start byte).2 ∧ ∀ character ∈ (start byte).1, FromByteOrHigh byte character := by
  unfold start
  split
  · refine ⟨trivial, ?_⟩
    intro character member
    rw [List.mem_singleton] at member
    subst member
    intro _
    exact ascii_char_code byte
  · split
    · exact ⟨‹_›, by simp⟩
    · split
      · exact ⟨‹_›, by simp⟩
      · split
        · exact ⟨‹_›, by simp⟩
        · refine ⟨trivial, ?_⟩
          intro character member
          rw [List.mem_singleton] at member
          subst member
          exact replacement_high byte

theorem restart_from_byte (byte : UInt8) :
    WellBegun (restart byte).2 ∧ ∀ character ∈ (restart byte).1, FromByteOrHigh byte character := by
  have started := start_from_byte byte
  refine ⟨started.1, ?_⟩
  intro character member
  rcases List.mem_cons.mp member with replaced | later
  · subst replaced
    exact replacement_high byte
  · exact started.2 character later

theorem join_two_high {lead second : UInt8} (begun : WellBegun (.ofTwo lead)) :
    HighCode ((lead.toNat % 32) * 64 + second.toNat % 64) := by
  simp only [WellBegun, UInt8.le_iff_toNat_le, UInt8.reduceToNat] at begun
  constructor
  · omega
  · exact Or.inl (by omega)

/-- The ranges of the second byte keep out overlong forms and surrogates. -/
theorem join_three_high {lead second third : UInt8}
    (begun : WellBegun (.ofThreeSecond lead second)) :
    HighCode (((lead.toNat % 16) * 64 + second.toNat % 64) * 64 + third.toNat % 64) := by
  obtain ⟨range, allowed⟩ := begun
  simp only [secondOfThree, isContinuation] at allowed
  simp only [UInt8.le_iff_toNat_le, UInt8.reduceToNat] at range allowed
  simp only [HighCode, Nat.isValidChar]
  by_cases first : lead = 0xE0
  · rw [if_pos first] at allowed
    subst first
    simp only [decide_eq_true_eq, UInt8.reduceToNat] at allowed ⊢
    omega
  · have above : lead.toNat ≠ 0xE0 := fun same => first (UInt8.toNat_inj.mp same)
    rw [if_neg first] at allowed
    by_cases surrogate : lead = 0xED
    · rw [if_pos surrogate] at allowed
      subst surrogate
      simp only [decide_eq_true_eq, UInt8.reduceToNat] at allowed ⊢
      omega
    · have other : lead.toNat ≠ 0xED := fun same => surrogate (UInt8.toNat_inj.mp same)
      omega

theorem join_four_high {lead second third fourth : UInt8}
    (begun : WellBegun (.ofFourThird lead second third)) :
    HighCode ((((lead.toNat % 8) * 64 + second.toNat % 64) * 64 + third.toNat % 64) * 64 +
      fourth.toNat % 64) := by
  obtain ⟨range, allowed⟩ := begun
  simp only [secondOfFour, isContinuation] at allowed
  simp only [UInt8.le_iff_toNat_le, UInt8.reduceToNat] at range allowed
  simp only [HighCode, Nat.isValidChar]
  by_cases first : lead = 0xF0
  · rw [if_pos first] at allowed
    subst first
    simp only [decide_eq_true_eq, UInt8.reduceToNat] at allowed ⊢
    omega
  · have above : lead.toNat ≠ 0xF0 := fun same => first (UInt8.toNat_inj.mp same)
    rw [if_neg first] at allowed
    by_cases last : lead = 0xF4
    · rw [if_pos last] at allowed
      subst last
      simp only [decide_eq_true_eq, UInt8.reduceToNat] at allowed ⊢
      omega
    · have other : lead.toNat ≠ 0xF4 := fun same => last (UInt8.toNat_inj.mp same)
      omega

theorem advance_from_byte (pending : Pending) (byte : UInt8) (begun : WellBegun pending) :
    WellBegun (advance pending byte).2 ∧
      ∀ character ∈ (advance pending byte).1, FromByteOrHigh byte character := by
  have joined : ∀ code, HighCode code → ∀ character ∈ [Char.ofNat code],
      FromByteOrHigh byte character := by
    intro code high character member
    rw [List.mem_singleton] at member
    subst member
    exact high_code_not_ascii byte high
  cases pending with
  | idle => exact start_from_byte byte
  | ofTwo lead =>
      simp only [advance]
      split
      · exact ⟨trivial, joined _ (join_two_high begun)⟩
      · exact restart_from_byte byte
  | ofThree lead =>
      simp only [advance]
      split
      · exact ⟨⟨begun, ‹_›⟩, by simp⟩
      · exact restart_from_byte byte
  | ofThreeSecond lead second =>
      simp only [advance]
      split
      · exact ⟨trivial, joined _ (join_three_high begun)⟩
      · exact restart_from_byte byte
  | ofFour lead =>
      simp only [advance]
      split
      · exact ⟨⟨begun, ‹_›⟩, by simp⟩
      · exact restart_from_byte byte
  | ofFourSecond lead second =>
      simp only [advance]
      split
      · exact ⟨begun, by simp⟩
      · exact restart_from_byte byte
  | ofFourThird lead second third =>
      simp only [advance]
      split
      · exact ⟨trivial, joined _ (join_four_high begun)⟩
      · exact restart_from_byte byte

theorem decode_ascii_from_byte (pending : Pending) (begun : WellBegun pending) (bytes : List UInt8)
    (character : Char) (low : character.toNat < 0x80)
    (member : character ∈ decodeFrom pending bytes) :
    ∃ byte ∈ bytes, character.toNat = byte.toNat := by
  induction bytes generalizing pending with
  | nil =>
      simp only [decodeFrom, atEnd] at member
      split at member
      · cases member
      · rw [List.mem_singleton] at member
        subst member
        exact absurd low (by decide)
  | cons byte rest ih =>
      have advanced := advance_from_byte pending byte begun
      rcases List.mem_append.mp member with here | later
      · exact ⟨byte, by simp, advanced.2 character here low⟩
      · obtain ⟨source, inRest, same⟩ := ih _ advanced.1 later
        exact ⟨source, by simp [inRest], same⟩

theorem lossy_ascii_from_byte {bytes : List UInt8} {character : Char} (low : character.toNat < 0x80)
    (member : character ∈ fromUtf8Lossy bytes) : ∃ byte ∈ bytes, character.toNat = byte.toNat :=
  decode_ascii_from_byte .idle trivial bytes character low member

theorem lossy_has_no_line_feed (bytes : List UInt8) (unbroken : 10 ∉ bytes) :
    '\n' ∉ fromUtf8Lossy bytes := by
  intro member
  obtain ⟨byte, inBytes, same⟩ := lossy_ascii_from_byte (by decide) member
  have isLineFeed : byte = 10 := UInt8.toNat_inj.mp same.symm
  exact unbroken (isLineFeed ▸ inBytes)

/-! ## Encoded text -/

theorem start_two {lead : UInt8} (isLead : 0xC2 ≤ lead ∧ lead ≤ 0xDF) :
    start lead = ([], .ofTwo lead) := by
  have notAscii : ¬ lead < 0x80 :=
    UInt8.not_lt.mpr (UInt8.le_trans (by decide) isLead.1)
  rw [start, if_neg notAscii, if_pos isLead]

theorem start_three {lead : UInt8} (isLead : 0xE0 ≤ lead ∧ lead ≤ 0xEF) :
    start lead = ([], .ofThree lead) := by
  have notAscii : ¬ lead < 0x80 :=
    UInt8.not_lt.mpr (UInt8.le_trans (by decide) isLead.1)
  have notTwo : ¬ (0xC2 ≤ lead ∧ lead ≤ 0xDF) := by
    intro two
    exact absurd (UInt8.le_trans isLead.1 two.2) (by decide)
  rw [start, if_neg notAscii, if_neg notTwo, if_pos isLead]

theorem start_four {lead : UInt8} (isLead : 0xF0 ≤ lead ∧ lead ≤ 0xF4) :
    start lead = ([], .ofFour lead) := by
  have notAscii : ¬ lead < 0x80 :=
    UInt8.not_lt.mpr (UInt8.le_trans (by decide) isLead.1)
  have notTwo : ¬ (0xC2 ≤ lead ∧ lead ≤ 0xDF) := by
    intro two
    exact absurd (UInt8.le_trans isLead.1 two.2) (by decide)
  have notThree : ¬ (0xE0 ≤ lead ∧ lead ≤ 0xEF) := by
    intro three
    exact absurd (UInt8.le_trans isLead.1 three.2) (by decide)
  rw [start, if_neg notAscii, if_neg notTwo, if_neg notThree, if_pos isLead]

theorem byte_value (value : Nat) (small : value < 256) : (UInt8.ofNat value).toNat = value := by
  rw [UInt8.toNat_ofNat']
  exact Nat.mod_eq_of_lt small

theorem continuation_of_bits (bits : Nat) :
    isContinuation (UInt8.ofNat (bits % 64 + 128)) = true := by
  have value := byte_value (bits % 64 + 128) (by omega)
  simp only [isContinuation, UInt8.le_iff_toNat_le, value, UInt8.reduceToNat, decide_eq_true_eq]
  omega

theorem char_is {character : Char} {code : Nat} (same : code = character.toNat) :
    Char.ofNat code = character := by
  rw [same, Char.ofNat_toNat]

theorem decode_two (character : Char) (above : 0x7F < character.toNat)
    (below : character.toNat ≤ 0x7FF) (rest : List UInt8) :
    decodeFrom .idle (UInt8.ofNat (character.toNat / 64 % 32 + 192) ::
        UInt8.ofNat (character.toNat % 64 + 128) :: rest) =
      character :: decodeFrom .idle rest := by
  have leadValue := byte_value (character.toNat / 64 % 32 + 192) (by omega)
  have secondValue := byte_value (character.toNat % 64 + 128) (by omega)
  have isLead : 0xC2 ≤ UInt8.ofNat (character.toNat / 64 % 32 + 192) ∧
      UInt8.ofNat (character.toNat / 64 % 32 + 192) ≤ 0xDF := by
    simp only [UInt8.le_iff_toNat_le, leadValue, UInt8.reduceToNat]
    omega
  have joined : joinBits ((UInt8.ofNat (character.toNat / 64 % 32 + 192)).toNat % 32)
      [UInt8.ofNat (character.toNat % 64 + 128)] = character := by
    apply char_is
    simp only [List.foldl, leadValue, secondValue]
    omega
  simp only [decodeFrom, advance, start_two isLead, if_pos (continuation_of_bits _), joined,
    List.nil_append, List.cons_append]

theorem second_of_three_of_bits {code : Nat} (above : 0x7FF < code) (below : code ≤ 0xFFFF)
    (valid : code.isValidChar) :
    secondOfThree (UInt8.ofNat (code / 4096 % 16 + 224)) (UInt8.ofNat (code / 64 % 64 + 128)) =
      true := by
  have leadValue := byte_value (code / 4096 % 16 + 224) (by omega)
  have secondValue := byte_value (code / 64 % 64 + 128) (by omega)
  simp only [Nat.isValidChar] at valid
  unfold secondOfThree
  simp only [isContinuation, ← UInt8.toNat_inj, UInt8.le_iff_toNat_le, leadValue, secondValue,
    UInt8.reduceToNat]
  split
  · simp only [decide_eq_true_eq]
    omega
  · split
    · simp only [decide_eq_true_eq]
      omega
    · simp only [decide_eq_true_eq]
      omega

theorem second_of_four_of_bits {code : Nat} (above : 0xFFFF < code) (valid : code.isValidChar) :
    secondOfFour (UInt8.ofNat (code / 262144 % 8 + 240)) (UInt8.ofNat (code / 4096 % 64 + 128)) =
      true := by
  have leadValue := byte_value (code / 262144 % 8 + 240) (by omega)
  have secondValue := byte_value (code / 4096 % 64 + 128) (by omega)
  simp only [Nat.isValidChar] at valid
  unfold secondOfFour
  simp only [isContinuation, ← UInt8.toNat_inj, UInt8.le_iff_toNat_le, leadValue, secondValue,
    UInt8.reduceToNat]
  split
  · simp only [decide_eq_true_eq]
    omega
  · split
    · simp only [decide_eq_true_eq]
      omega
    · simp only [decide_eq_true_eq]
      omega

theorem decode_three (character : Char) (above : 0x7FF < character.toNat)
    (below : character.toNat ≤ 0xFFFF) (rest : List UInt8) :
    decodeFrom .idle (UInt8.ofNat (character.toNat / 4096 % 16 + 224) ::
        UInt8.ofNat (character.toNat / 64 % 64 + 128) ::
        UInt8.ofNat (character.toNat % 64 + 128) :: rest) =
      character :: decodeFrom .idle rest := by
  have leadValue := byte_value (character.toNat / 4096 % 16 + 224) (by omega)
  have secondValue := byte_value (character.toNat / 64 % 64 + 128) (by omega)
  have thirdValue := byte_value (character.toNat % 64 + 128) (by omega)
  have isLead : 0xE0 ≤ UInt8.ofNat (character.toNat / 4096 % 16 + 224) ∧
      UInt8.ofNat (character.toNat / 4096 % 16 + 224) ≤ 0xEF := by
    simp only [UInt8.le_iff_toNat_le, leadValue, UInt8.reduceToNat]
    omega
  have follows := second_of_three_of_bits above below character.valid
  have joined : joinBits ((UInt8.ofNat (character.toNat / 4096 % 16 + 224)).toNat % 16)
      [UInt8.ofNat (character.toNat / 64 % 64 + 128),
        UInt8.ofNat (character.toNat % 64 + 128)] = character := by
    apply char_is
    simp only [List.foldl, leadValue, secondValue, thirdValue]
    omega
  simp only [decodeFrom, advance, start_three isLead, if_pos follows,
    if_pos (continuation_of_bits _), joined, List.nil_append, List.cons_append]

theorem decode_four (character : Char) (above : 0xFFFF < character.toNat) (rest : List UInt8) :
    decodeFrom .idle (UInt8.ofNat (character.toNat / 262144 % 8 + 240) ::
        UInt8.ofNat (character.toNat / 4096 % 64 + 128) ::
        UInt8.ofNat (character.toNat / 64 % 64 + 128) ::
        UInt8.ofNat (character.toNat % 64 + 128) :: rest) =
      character :: decodeFrom .idle rest := by
  have last : character.toNat ≤ 0x10FFFF := by
    have valid : character.toNat.isValidChar := character.valid
    simp only [Nat.isValidChar] at valid
    omega
  have leadValue := byte_value (character.toNat / 262144 % 8 + 240) (by omega)
  have secondValue := byte_value (character.toNat / 4096 % 64 + 128) (by omega)
  have thirdValue := byte_value (character.toNat / 64 % 64 + 128) (by omega)
  have fourthValue := byte_value (character.toNat % 64 + 128) (by omega)
  have isLead : 0xF0 ≤ UInt8.ofNat (character.toNat / 262144 % 8 + 240) ∧
      UInt8.ofNat (character.toNat / 262144 % 8 + 240) ≤ 0xF4 := by
    simp only [UInt8.le_iff_toNat_le, leadValue, UInt8.reduceToNat]
    omega
  have follows := second_of_four_of_bits above character.valid
  have joined : joinBits ((UInt8.ofNat (character.toNat / 262144 % 8 + 240)).toNat % 8)
      [UInt8.ofNat (character.toNat / 4096 % 64 + 128),
        UInt8.ofNat (character.toNat / 64 % 64 + 128),
        UInt8.ofNat (character.toNat % 64 + 128)] = character := by
    apply char_is
    simp only [List.foldl, leadValue, secondValue, thirdValue, fourthValue]
    omega
  simp only [decodeFrom, advance, start_four isLead, if_pos follows,
    if_pos (continuation_of_bits _), joined, List.nil_append, List.cons_append]

theorem decode_encoded (character : Char) (rest : List UInt8) :
    decodeFrom .idle (String.utf8EncodeChar character ++ rest) =
      character :: decodeFrom .idle rest := by
  have code : character.val.toNat = character.toNat := rfl
  unfold String.utf8EncodeChar
  simp only [code]
  split
  · rename_i one
    have small := byte_value character.toNat (by omega)
    have ascii : UInt8.ofNat character.toNat < 0x80 := by
      rw [UInt8.lt_iff_toNat_lt, small]
      exact Nat.lt_succ_of_le one
    simp only [decodeFrom, advance, start_ascii ascii, small, Char.ofNat_toNat, List.nil_append,
      List.cons_append]
  · split
    · exact decode_two character (by omega) (by omega) rest
    · split
      · exact decode_three character (by omega) (by omega) rest
      · exact decode_four character (by omega) rest

theorem lossy_utf8_append (text : String) (back : List UInt8) :
    fromUtf8Lossy (utf8 text ++ back) = text.toList ++ fromUtf8Lossy back := by
  unfold utf8
  induction text.toList with
  | nil => rfl
  | cons character rest ih =>
      rw [List.flatMap_cons, List.append_assoc, fromUtf8Lossy, decode_encoded]
      exact congrArg (character :: ·) ih

theorem lossy_utf8 (text : String) : fromUtf8Lossy (utf8 text) = text.toList := by
  have whole := lossy_utf8_append text []
  rwa [List.append_nil, lossy_nil, List.append_nil] at whole

theorem utf8_injective : Function.Injective utf8 := by
  intro text other same
  apply String.toList_inj.mp
  rw [← lossy_utf8, ← lossy_utf8, same]

theorem utf8_ascii_text {bytes : List UInt8} (ascii : ∀ byte ∈ bytes, byte < 0x80) :
    utf8 (String.ofList (asciiText bytes)) = bytes := by
  unfold utf8
  rw [String.toList_ofList]
  induction bytes with
  | nil => rfl
  | cons byte rest ih =>
      rw [List.forall_mem_cons] at ascii
      have low : byte.toNat ≤ 0x7F := Nat.le_of_lt_succ (UInt8.lt_iff_toNat_lt.mp ascii.1)
      have code : (Char.ofNat byte.toNat).val.toNat = byte.toNat := ascii_char_code byte
      have head : String.utf8EncodeChar (Char.ofNat byte.toNat) = [byte] := by
        simp only [String.utf8EncodeChar, code, if_pos low, UInt8.ofNat_toNat]
      rw [asciiText, List.map_cons, List.flatMap_cons, head]
      exact congrArg (byte :: ·) (ih ascii.2)

/-! ## Lines and words of a `str` -/

/-- `char::is_whitespace`: the Unicode White_Space property. -/
def isWhitespace (character : Char) : Bool :=
  let code := character.toNat
  (0x09 ≤ code ∧ code ≤ 0x0D) ∨ code = 0x20 ∨ code = 0x85 ∨ code = 0xA0 ∨ code = 0x1680 ∨
    (0x2000 ≤ code ∧ code ≤ 0x200A) ∨ code = 0x2028 ∨ code = 0x2029 ∨ code = 0x202F ∨
    code = 0x205F ∨ code = 0x3000

/-- `strip_suffix('\r')`, or the line itself. -/
def stripCarriageReturn (line : List Char) : List Char :=
  if line.getLast? = some '\r' then line.dropLast else line

def linesFrom : List Char → List Char → List (List Char)
  | current, [] => if current = [] then [] else [current]
  | current, character :: rest =>
      if character = '\n' then stripCarriageReturn current :: linesFrom [] rest
      else linesFrom (current ++ [character]) rest

/-- `str::lines`: a line ends at a line feed and loses one carriage return
before it; text behind the last line feed is a line as it stands. -/
def lines (text : List Char) : List (List Char) := linesFrom [] text

def trimStart (text : List Char) : List Char := text.dropWhile isWhitespace

def trimEnd (text : List Char) : List Char := text.rdropWhile isWhitespace

def trim (text : List Char) : List Char := trimEnd (trimStart text)

def wordsFrom : List Char → List Char → List (List Char)
  | current, [] => if current = [] then [] else [current]
  | current, character :: rest =>
      if isWhitespace character then
        if current = [] then wordsFrom [] rest else current :: wordsFrom [] rest
      else wordsFrom (current ++ [character]) rest

def splitWhitespace (text : List Char) : List (List Char) := wordsFrom [] text

theorem lines_from_line_feed (current line rest : List Char) (unbroken : '\n' ∉ line) :
    linesFrom current (line ++ '\n' :: rest) =
      stripCarriageReturn (current ++ line) :: linesFrom [] rest := by
  induction line generalizing current with
  | nil => simp [linesFrom]
  | cons character line ih =>
      simp only [List.mem_cons, not_or] at unbroken
      rw [List.cons_append, linesFrom, if_neg (Ne.symm unbroken.1), ih _ unbroken.2]
      simp

theorem strip_carriage_return_concat (line : List Char) :
    stripCarriageReturn (line ++ ['\r']) = line := by
  simp [stripCarriageReturn]

theorem lines_crlf (line rest : List Char) (unbroken : '\n' ∉ line) :
    lines (line ++ '\r' :: '\n' :: rest) = line :: lines rest := by
  have split := lines_from_line_feed [] (line ++ ['\r']) rest (by simp [unbroken])
  simpa [lines, strip_carriage_return_concat] using split

theorem words_from_word (current word : List Char) (separator : Char) (rest : List Char)
    (solid : ∀ character ∈ word, isWhitespace character = false)
    (space : isWhitespace separator = true) (nonempty : current ++ word ≠ []) :
    wordsFrom current (word ++ separator :: rest) = (current ++ word) :: wordsFrom [] rest := by
  induction word generalizing current with
  | nil =>
      simp only [List.append_nil] at nonempty ⊢
      rw [List.nil_append, wordsFrom, if_pos space, if_neg nonempty]
  | cons character word ih =>
      have head := solid character (by simp)
      rw [List.cons_append, wordsFrom, if_neg (by simp [head]),
        ih (current ++ [character]) (by intro later member; exact solid later (by simp [member]))
          (by simp)]
      simp

theorem words_from_last_word (current word : List Char)
    (solid : ∀ character ∈ word, isWhitespace character = false) (nonempty : current ++ word ≠ []) :
    wordsFrom current word = [current ++ word] := by
  induction word generalizing current with
  | nil => simpa [wordsFrom] using nonempty
  | cons character word ih =>
      have head := solid character (by simp)
      rw [wordsFrom, if_neg (by simp [head]),
        ih (current ++ [character]) (by intro later member; exact solid later (by simp [member]))
          (by simp)]
      simp

theorem words_drop_leading (text : List Char) :
    wordsFrom [] (text.dropWhile isWhitespace) = wordsFrom [] text := by
  induction text with
  | nil => rfl
  | cons character rest ih =>
      by_cases space : isWhitespace character
      · rw [List.dropWhile_cons_of_pos space, ih, wordsFrom, if_pos space, if_pos rfl]
      · rw [List.dropWhile_cons_of_neg space]

theorem words_of_spaces (current spaces : List Char)
    (blank : ∀ character ∈ spaces, isWhitespace character = true) :
    wordsFrom current spaces = if current = [] then [] else [current] := by
  induction spaces generalizing current with
  | nil => rfl
  | cons character rest ih =>
      have tail := ih [] (by intro later member; exact blank later (by simp [member]))
      rw [wordsFrom, if_pos (blank character (by simp)), tail]
      simp

theorem words_append_spaces (current text spaces : List Char)
    (blank : ∀ character ∈ spaces, isWhitespace character = true) :
    wordsFrom current (text ++ spaces) = wordsFrom current text := by
  induction text generalizing current with
  | nil => exact words_of_spaces current spaces blank
  | cons character rest ih => simp only [List.cons_append, wordsFrom, ih]

theorem split_whitespace_trim (text : List Char) :
    splitWhitespace (trim text) = splitWhitespace text := by
  have ends : ∀ inner : List Char, wordsFrom [] (trimEnd inner) = wordsFrom [] inner := by
    intro inner
    have joined := List.rdropWhile_append_rtakeWhile (p := isWhitespace) (l := inner)
    conv_rhs => rw [← joined]
    rw [words_append_spaces]
    · rfl
    · intro character member
      exact List.mem_rtakeWhile_imp member
  rw [splitWhitespace, trim, ends]
  exact words_drop_leading text

theorem rdrop_while_in_tail {Item : Type} (drop : Item → Bool) (front : List Item) (item : Item)
    (back : List Item) (kept : drop item = false) :
    (front ++ item :: back).rdropWhile drop = front ++ item :: back.rdropWhile drop := by
  have reversed : (front ++ item :: back).reverse = back.reverse ++ item :: front.reverse := by simp
  rw [List.rdropWhile, List.rdropWhile, reversed, List.dropWhile_append]
  by_cases all : (back.reverse.dropWhile drop).isEmpty = true
  · rw [if_pos all, List.dropWhile_cons_of_neg (by simp [kept]), List.isEmpty_iff.mp all]
    simp
  · rw [if_neg all]
    simp

theorem trim_end_solid (front : List Char) (character : Char) (back : List Char)
    (solid : isWhitespace character = false) :
    trimEnd (front ++ character :: back) = front ++ character :: trimEnd back :=
  rdrop_while_in_tail isWhitespace front character back solid

theorem trim_start_trim_end (text : List Char) :
    trimStart (trimEnd text) = trimEnd (trimStart text) := by
  induction text with
  | nil => rfl
  | cons character rest ih =>
      by_cases space : isWhitespace character = true
      · by_cases blank : ∀ other ∈ rest, isWhitespace other = true
        · have all : ∀ other ∈ character :: rest, isWhitespace other = true := by
            simpa [space] using blank
          rw [trimEnd, List.rdropWhile_eq_nil_iff.mpr all, trimStart, trimStart,
            List.dropWhile_eq_nil_iff.mpr all]
          rfl
        · simp only [not_forall] at blank
          obtain ⟨other, member, solid⟩ := blank
          obtain ⟨front, back, rfl⟩ := List.append_of_mem member
          rw [Bool.not_eq_true] at solid
          have ends := trim_end_solid (character :: front) other back solid
          rw [trim_end_solid front other back solid] at ih
          rw [← List.cons_append, ends, List.cons_append, List.cons_append, trimStart,
            List.dropWhile_cons_of_pos space, trimStart, List.dropWhile_cons_of_pos space]
          exact ih
      · have ends := trim_end_solid [] character rest (by simpa using space)
        simp only [List.nil_append] at ends
        rw [ends, trimStart, List.dropWhile_cons_of_neg (by simpa using space), trimStart,
          List.dropWhile_cons_of_neg (by simpa using space), ends]

theorem trim_trim_end (text : List Char) : trim (trimEnd text) = trim text := by
  rw [trim, trim_start_trim_end]
  exact List.rdropWhile_idempotent isWhitespace _

theorem lines_unbroken {line : List Char} (unbroken : '\n' ∉ line) (nonempty : line ≠ []) :
    lines line = [line] := by
  have collects : ∀ current, linesFrom current line =
      if current ++ line = [] then [] else [current ++ line] := by
    induction line with
    | nil => intro current; simp [linesFrom]
    | cons character rest ih =>
        intro current
        simp only [List.mem_cons, not_or] at unbroken
        rw [linesFrom, if_neg (Ne.symm unbroken.1)]
        by_cases last : rest = []
        · subst last
          simp [linesFrom]
        · rw [ih unbroken.2 last]
          simp
  rw [lines, collects [], List.nil_append, if_neg nonempty]

theorem visible_is_ascii {byte : UInt8} (visible : 0x21 ≤ byte ∧ byte ≤ 0x7E) : byte < 0x80 := by
  have bound := visible.2
  rw [UInt8.le_iff_toNat_le] at bound
  rw [UInt8.lt_iff_toNat_lt]
  simp only [UInt8.reduceToNat] at bound ⊢
  omega

theorem visible_ascii_solid {bytes : List UInt8}
    (visible : ∀ byte ∈ bytes, 0x21 ≤ byte ∧ byte ≤ 0x7E) :
    ∀ character ∈ asciiText bytes, isWhitespace character = false := by
  intro character member
  obtain ⟨byte, inBytes, rfl⟩ := List.mem_map.mp member
  have range := visible byte inBytes
  simp only [UInt8.le_iff_toNat_le, UInt8.reduceToNat] at range
  simp only [isWhitespace, ascii_char_code, decide_eq_false_iff_not]
  omega

theorem trim_start_solid (front : List Char) (character : Char) (back : List Char)
    (solid : ∀ other ∈ front, isWhitespace other = false) (mark : isWhitespace character = false) :
    trimStart (front ++ character :: back) = front ++ character :: back := by
  cases front with
  | nil => exact List.dropWhile_cons_of_neg (by simp [mark])
  | cons first front => exact List.dropWhile_cons_of_neg (by simp [solid first (by simp)])

theorem trim_solid (word : List Char) (solid : ∀ character ∈ word, isWhitespace character = false) :
    trim word = word := by
  rcases List.eq_nil_or_concat' word with empty | ⟨front, last, rfl⟩
  · subst empty
    rfl
  · have lastSolid := solid last (by simp)
    rw [trim, trim_start_solid front last []
      (by intro other member; exact solid other (by simp [member]))
      lastSolid, trim_end_solid front last [] lastSolid]
    rfl

def SolidEnds (text : List Char) : Prop :=
  (∀ character ∈ text.head?, isWhitespace character = false) ∧
    ∀ character ∈ text.getLast?, isWhitespace character = false

theorem trim_solid_ends (text : List Char) : SolidEnds (trim text) := by
  constructor
  · intro character first
    rw [trim, ← trim_start_trim_end] at first
    have kept := List.head?_dropWhile_not isWhitespace (trimEnd text)
    rw [trimStart] at first
    rw [first] at kept
    exact kept
  · intro character last
    obtain ⟨nonempty, rfl⟩ := List.mem_getLast?_eq_getLast last
    have kept := List.rdropWhile_last_not isWhitespace (trimStart text) nonempty
    exact Bool.eq_false_iff.mpr kept

theorem trim_around (front text back : List Char) (ends : SolidEnds text)
    (blankFront : ∀ character ∈ front, isWhitespace character = true)
    (blankBack : ∀ character ∈ back, isWhitespace character = true) :
    trim (front ++ (text ++ back)) = text := by
  have behind : trimEnd (text ++ back) = text := by
    have reversed : ∀ character ∈ back.reverse, isWhitespace character = true := by
      intro character member
      exact blankBack character (List.mem_reverse.mp member)
    have kept : trimEnd text = text := by
      apply List.rdropWhile_eq_self_iff.mpr
      intro nonempty space
      have last := ends.2 _ (List.getLast_mem_getLast? nonempty)
      rw [last] at space
      cases space
    rw [trimEnd, List.rdropWhile, List.reverse_append, List.dropWhile_append_of_pos reversed]
    exact kept
  rw [trim, trimStart, List.dropWhile_append_of_pos blankFront]
  cases text with
  | nil => rw [List.nil_append, List.dropWhile_eq_nil_iff.mpr blankBack]; rfl
  | cons first rest =>
      have solid := ends.1 first rfl
      rw [List.cons_append, List.dropWhile_cons_of_neg (by simp [solid])]
      exact behind

/-- `u16::from_str`: an optional plus sign and decimal digits. -/
def parseU16 (text : List Char) : Option UInt16 :=
  let digits := if text.head? = some '+' then text.tail else text
  if digits ≠ [] ∧ ∀ character ∈ digits, character.isDigit = true then
    let number := Nat.ofDigitChars 10 digits 0
    if number < 2 ^ 16 then some (UInt16.ofNat number) else none
  else none

def parseU64 (text : List Char) : Option UInt64 :=
  let digits := if text.head? = some '+' then text.tail else text
  if digits ≠ [] ∧ ∀ character ∈ digits, character.isDigit = true then
    let number := Nat.ofDigitChars 10 digits 0
    if number < 2 ^ 64 then some (UInt64.ofNat number) else none
  else none

theorem repr_unsigned (number : Nat) : (Nat.repr number).toList.head? ≠ some '+' := by
  intro plus
  exact absurd (decimal_digit (List.mem_of_mem_head? plus)) (by decide)

theorem repr_nonempty (number : Nat) : (Nat.repr number).toList ≠ [] := by
  rw [Nat.toList_repr]
  exact Nat.toDigits_ne_nil

theorem repr_value (number : Nat) : Nat.ofDigitChars 10 (Nat.repr number).toList 0 = number := by
  rw [Nat.toList_repr]
  exact Nat.ofDigitChars_toDigits (by decide) (by decide)

theorem parse_u16_repr (port : UInt16) : parseU16 (Nat.repr port.toNat).toList = some port := by
  have form : (Nat.repr port.toNat).toList ≠ [] ∧
      ∀ character ∈ (Nat.repr port.toNat).toList, character.isDigit = true :=
    ⟨repr_nonempty port.toNat, fun _ => decimal_digit⟩
  simp only [parseU16, if_neg (repr_unsigned port.toNat), if_pos form, repr_value,
    if_pos port.toNat_lt, UInt16.ofNat_toNat]

theorem parse_u64_repr (number : UInt64) :
    parseU64 (Nat.repr number.toNat).toList = some number := by
  have form : (Nat.repr number.toNat).toList ≠ [] ∧
      ∀ character ∈ (Nat.repr number.toNat).toList, character.isDigit = true :=
    ⟨repr_nonempty number.toNat, fun _ => decimal_digit⟩
  simp only [parseU64, if_neg (repr_unsigned number.toNat), if_pos form, repr_value,
    if_pos number.toNat_lt, UInt64.ofNat_toNat]

end MultiProxy.LossyText
