import MultiProxy.ChunkedCoding
import Mathlib.Data.List.DropRight

/-!
HTTP/1.1 messages: the grammar of a head, and the rules that say from the
fields of a head where the body ends. A head that is written line by line
parses back to its start line and its fields, whatever follows it.
-/

namespace MultiProxy.MessageFraming

open MultiProxy.ByteScan MultiProxy.ChunkedCoding

set_option autoImplicit false

/-! ## Fields -/

structure Field where
  name : List UInt8
  value : List UInt8
  deriving DecidableEq, Repr

def isOws (byte : UInt8) : Bool := byte = 0x20 ∨ byte = 0x09

def trimOws (text : List UInt8) : List UInt8 := (text.dropWhile isOws).rdropWhile isOws

def lower (byte : UInt8) : UInt8 := if 0x41 ≤ byte ∧ byte ≤ 0x5A then byte + 0x20 else byte

def eqIgnoreAsciiCase (left right : List UInt8) : Bool := left.map lower == right.map lower

/-- `tchar`: letters, digits and fifteen marks. -/
def isTokenByte (byte : UInt8) : Bool :=
  (0x30 ≤ byte ∧ byte ≤ 0x39) ∨ (0x41 ≤ byte ∧ byte ≤ 0x5A) ∨ (0x61 ≤ byte ∧ byte ≤ 0x7A) ∨
    byte ∈ [0x21, 0x23, 0x24, 0x25, 0x26, 0x27, 0x2A, 0x2B, 0x2D, 0x2E, 0x5E, 0x5F, 0x60,
      0x7C, 0x7E]

def isToken (name : List UInt8) : Bool := name ≠ [] ∧ ∀ byte ∈ name, isTokenByte byte = true

/-- A field as a line, without the CRLF. The value is written as it stands. -/
def fieldLine (field : Field) : List UInt8 := field.name ++ 0x3A :: field.value

/-- The field a line with optional whitespace around its value stands for. -/
def Field.trimmed (field : Field) : Field := { field with value := trimOws field.value }

def parseField (line : List UInt8) : Option Field :=
  let name := line.takeWhile (· ≠ 0x3A)
  match line.dropWhile (· ≠ 0x3A) with
  | [] => none
  | _ :: text => if isToken name then some { name := name, value := trimOws text } else none

/-- A name that is a token and a value that stays on its line. -/
def WellFormed (field : Field) : Prop :=
  isToken field.name = true ∧ (0x0A : UInt8) ∉ field.value

instance (field : Field) : Decidable (WellFormed field) := inferInstanceAs (Decidable (_ ∧ _))

theorem token_byte {name : List UInt8} (token : isToken name = true) (byte : UInt8)
    (member : byte ∈ name) : byte ≠ 0x3A ∧ byte ≠ 0x0A := by
  simp only [isToken, decide_eq_true_eq] at token
  have tchar := token.2 byte member
  constructor
  · intro colon
    subst colon
    exact absurd tchar (by decide)
  · intro lineFeed
    subst lineFeed
    exact absurd tchar (by decide)

theorem parse_field_line (field : Field) (token : isToken field.name = true) :
    parseField (fieldLine field) = some field.trimmed := by
  have noColon : (0x3A : UInt8) ∉ field.name := by
    intro member
    exact (token_byte token _ member).1 rfl
  simp only [parseField, fieldLine, before_separator noColon, from_separator noColon, if_pos token]
  rfl

theorem field_line_unbroken {field : Field} (wellFormed : WellFormed field) :
    (0x0A : UInt8) ∉ fieldLine field := by
  intro member
  rcases List.mem_append.mp member with inName | inText
  · exact (token_byte wellFormed.1 _ inName).2 rfl
  · rcases List.mem_cons.mp inText with colon | inValue
    · exact absurd colon (by decide)
    · exact wellFormed.2 inValue

theorem field_line_nonempty (field : Field) : fieldLine field ≠ [] := by
  simp [fieldLine]

/-! ## Heads -/

def fieldSection (fields : List Field) : List UInt8 :=
  (fields.map fun field => fieldLine field ++ crlf).flatten ++ crlf

def parseFieldsWithin : Nat → List UInt8 → Option (List Field × List UInt8)
  | 0, _ => none
  | fuel + 1, input =>
      match splitLine input with
      | none => none
      | some (line, rest) =>
          if line = [] then some ([], rest)
          else
            match parseField line with
            | none => none
            | some field =>
                (parseFieldsWithin fuel rest).map fun parsed => (field :: parsed.1, parsed.2)

/-- The start line, the fields, and the bytes behind the empty line. -/
def parseHead (input : List UInt8) : Option (List UInt8 × List Field × List UInt8) :=
  match splitLine input with
  | none => none
  | some (startLine, rest) =>
      (parseFieldsWithin (rest.length + 1) rest).map fun parsed => (startLine, parsed.1, parsed.2)

theorem parse_fields_within (fields : List Field) (wellFormed : ∀ field ∈ fields, WellFormed field)
    (rest : List UInt8) (fuel : Nat) (enough : fields.length < fuel) :
    parseFieldsWithin fuel (fieldSection fields ++ rest) =
      some (fields.map Field.trimmed, rest) := by
  induction fields generalizing fuel with
  | nil =>
      obtain ⟨extra, same⟩ := Nat.exists_eq_add_of_lt enough
      have split : splitLine (fieldSection [] ++ rest) = some ([], rest) :=
        split_line_append [] rest (by simp)
      rw [same, parseFieldsWithin, split]
      rfl
  | cons field fields ih =>
      cases fuel with
      | zero => simp at enough
      | succ fuel =>
          have head := wellFormed field (by simp)
          have split : splitLine (fieldSection (field :: fields) ++ rest) =
              some (fieldLine field, fieldSection fields ++ rest) := by
            have line := split_line_append (fieldLine field) (fieldSection fields ++ rest)
              (field_line_unbroken head)
            simpa [fieldSection] using line
          have tail := ih (by intro later member; exact wellFormed later (by simp [member])) fuel
            (by simpa using enough)
          rw [parseFieldsWithin, split]
          simp only [if_neg (field_line_nonempty field), parse_field_line field head.1, tail]
          rfl

theorem field_count_le (fields : List Field) : fields.length ≤ (fieldSection fields).length := by
  induction fields with
  | nil => simp
  | cons field fields ih =>
      simp only [fieldSection, List.map_cons, List.flatten_cons, List.length_append,
        List.length_cons, crlf, List.length_nil] at ih ⊢
      omega

theorem parse_head_section (startLine : List UInt8) (fields : List Field) (rest : List UInt8)
    (unbroken : (0x0A : UInt8) ∉ startLine) (wellFormed : ∀ field ∈ fields, WellFormed field) :
    parseHead (startLine ++ crlf ++ (fieldSection fields ++ rest)) =
      some (startLine, fields.map Field.trimmed, rest) := by
  have count := field_count_le fields
  rw [parseHead, split_line_append startLine _ unbroken]
  simp only
  rw [parse_fields_within fields wellFormed rest _ (by rw [List.length_append]; omega)]
  rfl

theorem crlf_around_lines (lines : List (List UInt8)) :
    (lines.map (crlf ++ ·)).flatten ++ crlf = crlf ++ (lines.map (· ++ crlf)).flatten := by
  induction lines with
  | nil => simp
  | cons line lines ih => simp [ih]

theorem head_section_lines (startLine : List UInt8) (fields : List Field) (rest : List UInt8) :
    startLine ++ crlf ++ (fieldSection fields ++ rest) =
      startLine ++ ((fields.map fieldLine).map (crlf ++ ·)).flatten ++ (blankLine ++ rest) := by
  have around := crlf_around_lines (fields.map fieldLine)
  have asSection : fieldSection fields =
      ((fields.map fieldLine).map (· ++ crlf)).flatten ++ crlf := by
    rw [List.map_map]
    rfl
  calc
    _ = startLine ++ (crlf ++ ((fields.map fieldLine).map (· ++ crlf)).flatten) ++
        (crlf ++ rest) := by
      rw [asSection]
      simp only [List.append_assoc]
    _ = _ := by
      rw [← around, blankLine]
      simp only [List.append_assoc]

theorem head_lines_end {startLine : List UInt8} {fields : List Field} (rest : List UInt8)
    (unbroken : (0x0A : UInt8) ∉ startLine) (wellFormed : ∀ field ∈ fields, WellFormed field) :
    position blankLine
        (startLine ++ ((fields.map fieldLine).map (crlf ++ ·)).flatten ++ (blankLine ++ rest)) =
      some (startLine ++ ((fields.map fieldLine).map (crlf ++ ·)).flatten).length := by
  apply position_of_blank_line
  · intro line member
    rcases List.mem_cons.mp member with rfl | inFields
    · exact unbroken
    · obtain ⟨field, inHead, rfl⟩ := List.mem_map.mp inFields
      exact field_line_unbroken (wellFormed field inHead)
  · intro line member
    obtain ⟨field, _, rfl⟩ := List.mem_map.mp member
    exact field_line_nonempty field

/-! ## Request lines -/

structure RequestLine where
  method : List UInt8
  target : List UInt8
  version : List UInt8
  deriving DecidableEq, Repr

def isTargetByte (byte : UInt8) : Bool := 0x21 ≤ byte ∧ byte ≠ 0x7F

def isDigitByte (byte : UInt8) : Bool := 0x30 ≤ byte ∧ byte ≤ 0x39

/-- `HTTP/` and two digits with a point between them. -/
def isHttpVersion (text : List UInt8) : Bool :=
  match text with
  | [0x48, 0x54, 0x54, 0x50, 0x2F, major, 0x2E, minor] => isDigitByte major && isDigitByte minor
  | _ => false

/-- Three parts with one space between each two of them. -/
def parseRequestLine (line : List UInt8) : Option RequestLine :=
  let method := line.takeWhile (· ≠ 0x20)
  match line.dropWhile (· ≠ 0x20) with
  | [] => none
  | _ :: rest =>
      let target := rest.takeWhile (· ≠ 0x20)
      match rest.dropWhile (· ≠ 0x20) with
      | [] => none
      | _ :: version =>
          if isToken method ∧ target ≠ [] ∧ (∀ byte ∈ target, isTargetByte byte = true) ∧
              isHttpVersion version then
            some { method := method, target := target, version := version }
          else none

theorem parse_request_line_parts {method target version : List UInt8}
    (token : isToken method = true) (nonempty : target ≠ [])
    (printable : ∀ byte ∈ target, isTargetByte byte = true) (http : isHttpVersion version = true) :
    parseRequestLine (method ++ 0x20 :: (target ++ 0x20 :: version)) =
      some { method := method, target := target, version := version } := by
  have noSpaceInMethod : (0x20 : UInt8) ∉ method := by
    intro member
    simp only [isToken, decide_eq_true_eq] at token
    exact absurd (token.2 _ member) (by decide)
  have noSpaceInTarget : (0x20 : UInt8) ∉ target := by
    intro member
    exact absurd (printable _ member) (by decide)
  simp only [parseRequestLine, before_separator noSpaceInMethod, from_separator noSpaceInMethod,
    before_separator noSpaceInTarget, from_separator noSpaceInTarget]
  exact if_pos ⟨token, nonempty, printable, http⟩

/-! ## Framing -/

def transferEncoding : List UInt8 := "transfer-encoding".toList.map fun c => UInt8.ofNat c.toNat

def contentLength : List UInt8 := "content-length".toList.map fun c => UInt8.ofNat c.toNat

def chunkedCoding : List UInt8 := "chunked".toList.map fun c => UInt8.ofNat c.toNat

/-- The values of all fields of a name, in order, without optional whitespace. -/
def fieldValues (name : List UInt8) (fields : List Field) : List (List UInt8) :=
  fields.filterMap fun field =>
    if eqIgnoreAsciiCase field.name name then some (trimOws field.value) else none

def lastElement (value : List UInt8) : List UInt8 :=
  trimOws (value.reverse.takeWhile (· ≠ 0x2C)).reverse

def digitValue (byte : UInt8) : Option Nat :=
  if 0x30 ≤ byte ∧ byte ≤ 0x39 then some (byte.toNat - 0x30) else none

def parseDecimal (text : List UInt8) : Option Nat :=
  if text ≠ [] ∧ ∀ byte ∈ text, (digitValue byte).isSome = true then
    some (text.foldl (fun number byte => number * 10 + (digitValue byte).getD 0) 0)
  else none

inductive Framing where
  | chunked
  | length (count : Nat)
  | absent
  deriving DecidableEq, Repr

/-- A transfer coding decides; without one the content length does. A last
coding other than chunked, and conflicting lengths, are framing errors. -/
def framingOf (encodings lengths : List (List UInt8)) : Option Framing :=
  match encodings.getLast? with
  | some coding =>
      if eqIgnoreAsciiCase (lastElement coding) chunkedCoding then some .chunked else none
  | none =>
      match lengths with
      | [] => some .absent
      | value :: others =>
          if ∀ other ∈ others, other = value then (parseDecimal value).map .length else none

def framing (fields : List Field) : Option Framing :=
  framingOf (fieldValues transferEncoding fields) (fieldValues contentLength fields)

structure Message where
  startLine : List UInt8
  fields : List Field
  body : List UInt8
  behind : List UInt8
  deriving DecidableEq, Repr

/-- The body and the bytes behind the message. Only the meaning of a head without
framing fields differs between requests and responses. -/
def splitBody (whenAbsent : List UInt8 → List UInt8 × List UInt8) (framing : Framing)
    (rest : List UInt8) : Option (List UInt8 × List UInt8) :=
  match framing with
  | .chunked => decodeChunked rest
  | .length count =>
      if count ≤ rest.length then some (rest.take count, rest.drop count) else none
  | .absent => some (whenAbsent rest)

theorem split_body_length (whenAbsent : List UInt8 → List UInt8 × List UInt8) (body : List UInt8) :
    splitBody whenAbsent (.length body.length) body = some (body, []) := by
  rw [splitBody, if_pos le_rfl, List.take_length, List.drop_length]

def decodeMessage (whenAbsent : List UInt8 → List UInt8 × List UInt8) (input : List UInt8) :
    Option Message :=
  match parseHead input with
  | none => none
  | some (startLine, fields, rest) =>
      match framing fields with
      | none => none
      | some found =>
          (splitBody whenAbsent found rest).map fun split =>
            { startLine := startLine, fields := fields, body := split.1, behind := split.2 }

/-- A request without framing fields has no body. -/
def decodeRequest : List UInt8 → Option Message := decodeMessage fun rest => ([], rest)

/-- A response without framing fields ends with its connection. -/
def decodeResponse : List UInt8 → Option Message := decodeMessage fun rest => (rest, [])

theorem trim_ows_idempotent (text : List UInt8) : trimOws (trimOws text) = trimOws text := by
  have outer : (trimOws text).dropWhile isOws = trimOws text := by
    rw [List.dropWhile_eq_self_iff]
    intro positive
    have pre : trimOws text <+: text.dropWhile isOws := List.rdropWhile_prefix isOws _
    have headSame := pre.getElem positive
    have innerPositive : 0 < (text.dropWhile isOws).length :=
      Nat.lt_of_lt_of_le positive pre.length_le
    rw [headSame]
    exact List.dropWhile_eq_self_iff.mp (List.dropWhile_idempotent isOws text) innerPositive
  rw [trimOws, outer]
  exact List.rdropWhile_idempotent isOws _

theorem ows_around (text : List UInt8) :
    ∃ front back, text = front ++ (trimOws text ++ back) ∧
      (∀ byte ∈ front, isOws byte = true) ∧ ∀ byte ∈ back, isOws byte = true := by
  refine ⟨text.takeWhile isOws, (text.dropWhile isOws).rtakeWhile isOws, ?_, ?_, ?_⟩
  · rw [trimOws, List.rdropWhile_append_rtakeWhile, List.takeWhile_append_dropWhile]
  · intro byte member
    exact List.mem_takeWhile_imp member
  · intro byte member
    exact List.mem_rtakeWhile_imp member

theorem trim_ows_of_none {text : List UInt8} (solid : ∀ byte ∈ text, isOws byte = false) :
    trimOws text = text := by
  obtain ⟨front, back, whole, blankFront, blankBack⟩ := ows_around text
  have nothing : ∀ side : List UInt8, (∀ byte ∈ side, byte ∈ text) →
      (∀ byte ∈ side, isOws byte = true) → side = [] := by
    intro side inText blank
    apply List.eq_nil_iff_forall_not_mem.mpr
    intro byte member
    have space := blank byte member
    rw [solid byte (inText byte member)] at space
    cases space
  have noFront := nothing front (by intro byte member; rw [whole]; simp [member]) blankFront
  have noBack := nothing back (by intro byte member; rw [whole]; simp [member]) blankBack
  rw [noFront, noBack, List.nil_append, List.append_nil] at whole
  exact whole.symm

theorem trim_ows_space (text : List UInt8) : trimOws (0x20 :: text) = trimOws text := rfl

theorem field_values_trimmed (name : List UInt8) (fields : List Field) :
    fieldValues name (fields.map Field.trimmed) = fieldValues name fields := by
  rw [fieldValues, List.filterMap_map]
  apply List.filterMap_congr
  intro field _
  simp only [Function.comp_apply, Field.trimmed, trim_ows_idempotent]

theorem framing_trimmed (fields : List Field) :
    framing (fields.map Field.trimmed) = framing fields := by
  simp only [framing, field_values_trimmed]

theorem decode_message_section (whenAbsent : List UInt8 → List UInt8 × List UInt8)
    (startLine : List UInt8) (fields : List Field) (rest : List UInt8)
    (unbroken : (0x0A : UInt8) ∉ startLine) (wellFormed : ∀ field ∈ fields, WellFormed field) :
    decodeMessage whenAbsent (startLine ++ crlf ++ (fieldSection fields ++ rest)) =
      (framing fields).bind fun found =>
        (splitBody whenAbsent found rest).map fun split =>
          { startLine := startLine, fields := fields.map Field.trimmed, body := split.1,
            behind := split.2 } := by
  rw [decodeMessage, parse_head_section startLine fields rest unbroken wellFormed]
  simp only [framing_trimmed]
  cases framing fields <;> rfl

end MultiProxy.MessageFraming
