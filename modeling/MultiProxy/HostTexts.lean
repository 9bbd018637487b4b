import MultiProxy.RustRuntime
import MultiProxy.ByteScan
import Mathlib.Data.List.Basic

/-!
Hosts as they are written in URLs and authorities: domain names, dotted IPv4
addresses, and IPv6 literals with the address that each of them denotes. The
host a URL parser gives back is the same host, in the parser's own spelling.
-/

namespace MultiProxy.HostTexts

open MultiProxy.RustRuntime

set_option autoImplicit false

/-! ## IPv6 literals -/

def isHexDigit (character : Char) : Bool :=
  character.isDigit || ('a' ≤ character && character ≤ 'f') ||
    ('A' ≤ character && character ≤ 'F')

def hexValue (character : Char) : Nat :=
  if character.isDigit then character.toNat - 48
  else if 'a' ≤ character then character.toNat - 87
  else character.toNat - 55

def hexGroup (piece : List Char) : Option Nat :=
  if piece ≠ [] ∧ piece.length ≤ 4 ∧ ∀ character ∈ piece, isHexDigit character = true then
    some (piece.foldl (fun value character => 16 * value + hexValue character) 0)
  else none

/-- A decimal octet without leading zeros. -/
def octet (piece : List Char) : Option Nat :=
  if piece ≠ [] ∧ piece.length ≤ 3 ∧ (∀ character ∈ piece, character.isDigit = true) ∧
      (piece.head? = some '0' → piece.length = 1) then
    let value := piece.foldl (fun value character => 10 * value + (character.toNat - 48)) 0
    if value ≤ 255 then some value else none
  else none

/-- The two groups of a dotted IPv4 address at the end of a literal. -/
def dottedGroups (piece : List Char) : Option (List Nat) :=
  match piece.splitOn '.' with
  | [first, second, third, fourth] =>
      match octet first, octet second, octet third, octet fourth with
      | some first, some second, some third, some fourth =>
          some [256 * first + second, 256 * third + fourth]
      | _, _, _, _ => none
  | _ => none

/-- The groups between colons; the last piece may be a dotted address. -/
def groups (dotted : Bool) : List (List Char) → Option (List Nat)
  | [] => some []
  | [piece] =>
      match hexGroup piece with
      | some group => some [group]
      | none => if dotted then dottedGroups piece else none
  | piece :: next :: rest =>
      match hexGroup piece, groups dotted (next :: rest) with
      | some group, some others => some (group :: others)
      | _, _ => none

def side (dotted : Bool) (text : List Char) : Option (List Nat) :=
  if text = [] then some [] else groups dotted (text.splitOn ':')

/-- What stands around the first double colon. -/
def doubleColon : List Char → Option (List Char × List Char)
  | ':' :: ':' :: rest => some ([], rest)
  | character :: rest => (doubleColon rest).map fun parts => (character :: parts.1, parts.2)
  | [] => none

/-- The eight groups of the address that a literal denotes. A double colon stands
for one or more groups of zeros. -/
def ipv6Address (literal : List Char) : Option (List Nat) :=
  match doubleColon literal with
  | none => (groups true (literal.splitOn ':')).filter fun all => all.length = 8
  | some (front, back) =>
      match side false front, side true back with
      | some before, some after =>
          if before.length + after.length ≤ 7 then
            some (before ++ List.replicate (8 - before.length - after.length) 0 ++ after)
          else none
      | _, _ => none

def Denotes (literal : String) (address : List Nat) : Prop :=
  ipv6Address literal.toList = some address

instance (literal : String) (address : List Nat) : Decidable (Denotes literal address) :=
  inferInstanceAs (Decidable (_ = _))

example : Denotes "2001:db8::ff00:1" [0x2001, 0xdb8, 0, 0, 0, 0, 0xff00, 1] := by decide

example : Denotes "::ffff:192.0.2.1" [0, 0, 0, 0, 0, 0xffff, 0xc000, 0x201] := by decide

def literalChar (character : Char) : Bool :=
  isHexDigit character || character = ':' || character = '.'

theorem member_of_intercalate {separator character : Char} {pieces : List (List Char)}
    (member : character ∈ [separator].intercalate pieces) :
    character = separator ∨ ∃ piece ∈ pieces, character ∈ piece := by
  induction pieces with
  | nil => cases member
  | cons piece rest ih =>
      cases rest with
      | nil =>
          rw [List.intercalate_singleton] at member
          exact Or.inr ⟨piece, List.mem_singleton_self piece, member⟩
      | cons next rest =>
          rw [List.intercalate_cons_cons] at member
          simp only [List.mem_append, List.mem_singleton] at member
          rcases member with (here | same) | later
          · exact Or.inr ⟨piece, List.mem_cons_self, here⟩
          · exact Or.inl same
          · rcases ih later with same | ⟨other, among, inside⟩
            · exact Or.inl same
            · exact Or.inr ⟨other, List.mem_cons_of_mem _ among, inside⟩

theorem member_of_pieces (separator : Char) {character : Char} {text : List Char}
    (member : character ∈ text) :
    character = separator ∨ ∃ piece ∈ text.splitOn separator, character ∈ piece := by
  apply member_of_intercalate
  rwa [List.intercalate_splitOn]

theorem hex_group_chars {piece : List Char} {group : Nat} (parsed : hexGroup piece = some group) :
    ∀ character ∈ piece, isHexDigit character = true := by
  unfold hexGroup at parsed
  split at parsed
  · rename_i form
    exact form.2.2
  · cases parsed

theorem octet_chars {piece : List Char} {value : Nat} (parsed : octet piece = some value) :
    ∀ character ∈ piece, character.isDigit = true := by
  unfold octet at parsed
  split at parsed
  · rename_i form
    exact form.2.2.1
  · cases parsed

theorem digit_is_literal {character : Char} (digit : character.isDigit = true) :
    literalChar character = true := by
  simp [literalChar, isHexDigit, digit]

theorem hex_digit_is_literal {character : Char} (digit : isHexDigit character = true) :
    literalChar character = true := by
  simp [literalChar, digit]

theorem dotted_groups_chars {piece : List Char} {parsed : List Nat}
    (same : dottedGroups piece = some parsed) :
    ∀ character ∈ piece, literalChar character = true := by
  intro character member
  unfold dottedGroups at same
  split at same
  · rename_i first second third fourth pieces
    rcases member_of_pieces '.' member with rfl | ⟨part, among, inside⟩
    · decide
    · rw [pieces] at among
      split at same
      · rename_i _ _ _ _ firstRead secondRead thirdRead fourthRead
        simp only [List.mem_cons, List.not_mem_nil, or_false] at among
        apply digit_is_literal
        rcases among with rfl | rfl | rfl | rfl
        · exact octet_chars firstRead character inside
        · exact octet_chars secondRead character inside
        · exact octet_chars thirdRead character inside
        · exact octet_chars fourthRead character inside
      · cases same
  · cases same

theorem groups_chars {dotted : Bool} {pieces : List (List Char)} {parsed : List Nat}
    (same : groups dotted pieces = some parsed) :
    ∀ piece ∈ pieces, ∀ character ∈ piece, literalChar character = true := by
  induction pieces generalizing parsed with
  | nil => simp
  | cons piece rest ih =>
      cases rest with
      | nil =>
          intro other among character member
          rw [List.mem_singleton.mp among] at member
          unfold groups at same
          cases hex : hexGroup piece with
          | some group => exact hex_digit_is_literal (hex_group_chars hex character member)
          | none =>
              simp only [hex] at same
              cases dotted with
              | false => simp at same
              | true => exact dotted_groups_chars same character member
      | cons next rest =>
          unfold groups at same
          cases hex : hexGroup piece with
          | none => simp [hex] at same
          | some group =>
              cases others : groups dotted (next :: rest) with
              | none => simp [hex, others] at same
              | some tail =>
                  intro other among character member
                  rcases List.mem_cons.mp among with rfl | later
                  · exact hex_digit_is_literal (hex_group_chars hex character member)
                  · exact ih others other later character member

theorem split_groups_chars {dotted : Bool} {text : List Char} {parsed : List Nat}
    (same : groups dotted (text.splitOn ':') = some parsed) :
    ∀ character ∈ text, literalChar character = true := by
  intro character member
  rcases member_of_pieces ':' member with rfl | ⟨piece, among, inside⟩
  · decide
  · exact groups_chars same piece among character inside

theorem side_chars {dotted : Bool} {text : List Char} {parsed : List Nat}
    (same : side dotted text = some parsed) : ∀ character ∈ text, literalChar character = true := by
  unfold side at same
  by_cases empty : text = []
  · rw [empty]
    exact List.forall_mem_nil _
  · rw [if_neg empty] at same
    exact split_groups_chars same

theorem double_colon_splits {text front back : List Char}
    (found : doubleColon text = some (front, back)) : text = front ++ ':' :: ':' :: back := by
  fun_induction doubleColon text generalizing front with
  | case1 rest =>
      cases found
      rfl
  | case2 character rest _ ih =>
      obtain ⟨parts, later, same⟩ := Option.map_eq_some_iff.mp found
      cases same
      rw [ih later]
      rfl
  | case3 => cases found

theorem literal_chars {literal : String} {address : List Nat} (denotes : Denotes literal address) :
    ∀ character ∈ literal.toList, literalChar character = true := by
  unfold Denotes ipv6Address at denotes
  cases around : doubleColon literal.toList with
  | none =>
      simp only [around] at denotes
      exact split_groups_chars (Option.filter_eq_some_iff.mp denotes).1
  | some parts =>
      obtain ⟨front, back⟩ := parts
      simp only [around] at denotes
      cases before : side false front with
      | none => simp [before] at denotes
      | some first =>
          cases after : side true back with
          | none => simp [before, after] at denotes
          | some second =>
              rw [double_colon_splits around]
              intro character member
              rcases List.mem_append.mp member with inFront | inBack
              · exact side_chars before character inFront
              · rcases List.mem_cons.mp inBack with rfl | later
                · decide
                · rcases List.mem_cons.mp later with rfl | inside
                  · decide
                  · exact side_chars after character inside

theorem literal_nonempty {literal : String} {address : List Nat}
    (denotes : Denotes literal address) : literal.toList ≠ [] := by
  intro empty
  have none : ipv6Address [] = none := by decide
  rw [Denotes, empty, none] at denotes
  cases denotes

theorem literal_without_bracket {literal : String} {address : List Nat}
    (denotes : Denotes literal address) : '[' ∉ literal.toList ∧ ']' ∉ literal.toList := by
  constructor
  · intro member
    exact absurd (literal_chars denotes _ member) (by decide)
  · intro member
    exact absurd (literal_chars denotes _ member) (by decide)

/-! ## Written hosts -/

/-- An IPv6 literal as a host is written. -/
def bracketed (literal : String) : String := s!"[{literal}]"

theorem bracketed_chars (literal : String) :
    (bracketed literal).toList = '[' :: (literal.toList ++ [']']) := by
  have rendered : bracketed literal = "[" ++ literal ++ "]" := rfl
  simp [rendered]

def dottedText (first second third fourth : UInt8) : String :=
  s!"{first}.{second}.{third}.{fourth}"

def isNameChar (character : Char) : Bool :=
  character.isAlphanum || character = '-' || character = '.' || character = '_'

/-- A last label that URL parsers take for a number. -/
def isNumber (label : List Char) : Bool :=
  match label with
  | '0' :: 'x' :: digits => digits.all isHexDigit
  | '0' :: 'X' :: digits => digits.all isHexDigit
  | digits => digits ≠ [] && digits.all Char.isDigit

def lastLabel (name : List Char) : List Char :=
  ((name.splitOn '.').filter (· ≠ [])).getLastD []

/-- A DNS name, in any letter case. -/
structure DomainName (name : String) : Prop where
  nonempty : name ≠ ""
  chars : ∀ character ∈ name.toList, isNameChar character = true
  not_number : isNumber (lastLabel name.toList) = false

/-- A host in one of the three forms in which it is written. -/
inductive Host : String → Prop where
  | domain {name : String} (isName : DomainName name) : Host name
  | ipv4 (first second third fourth : UInt8) : Host (dottedText first second third fourth)
  | ipv6 {literal : String} {address : List Nat} (denotes : Denotes literal address) :
      Host (bracketed literal)

def lowered (text : String) : String := String.ofList (text.toList.map Char.toLower)

theorem lower_char_iff (character : Char) :
    character.toLower = character ↔ character.isUpper = false := by
  unfold Char.toLower Char.isUpper
  by_cases upper : character.val ≥ 'A'.val ∧ character.val ≤ 'Z'.val
  · have moved : character.val + 32 ≠ character.val := by
      intro same
      have values := congrArg UInt32.toNat same
      have bound : character.val.toNat ≤ 90 := upper.2
      rw [UInt32.toNat_add] at values
      simp only [UInt32.reduceToNat] at values
      omega
    simp only [dif_pos upper]
    constructor
    · intro same
      exact absurd (congrArg Char.val same) moved
    · intro lower
      rw [decide_eq_true upper] at lower
      cases lower
  · simp only [dif_neg upper, true_iff, decide_eq_false_iff_not]
    exact upper

theorem lower_chars_iff (letters : List Char) :
    letters.map Char.toLower = letters ↔
      ∀ character ∈ letters, character.isUpper = false := by
  induction letters with
  | nil => simp
  | cons character rest ih =>
      rw [List.map_cons, List.cons.injEq, List.forall_mem_cons]
      exact and_congr (lower_char_iff character) ih

theorem lowered_iff (text : String) :
    lowered text = text ↔ ∀ character ∈ text.toList, character.isUpper = false := by
  rw [← lower_chars_iff, ← String.toList_inj, lowered, String.toList_ofList]

theorem dotted_chars (first second third fourth : UInt8) :
    (dottedText first second third fourth).toList =
      (Nat.repr first.toNat).toList ++ '.' :: ((Nat.repr second.toNat).toList ++
        '.' :: ((Nat.repr third.toNat).toList ++ '.' :: (Nat.repr fourth.toNat).toList)) := by
  have rendered : dottedText first second third fourth =
      Nat.repr first.toNat ++ "." ++ Nat.repr second.toNat ++ "." ++ Nat.repr third.toNat ++ "." ++
        Nat.repr fourth.toNat := rfl
  simp [rendered]

theorem dotted_char {first second third fourth : UInt8} {character : Char}
    (member : character ∈ (dottedText first second third fourth).toList) :
    character = '.' ∨ character.isDigit = true := by
  rw [dotted_chars] at member
  simp only [List.mem_append, List.mem_cons] at member
  rcases member with here | same | here | same | here | same | here
  · exact Or.inr (decimal_digit here)
  · exact Or.inl same
  · exact Or.inr (decimal_digit here)
  · exact Or.inl same
  · exact Or.inr (decimal_digit here)
  · exact Or.inl same
  · exact Or.inr (decimal_digit here)

def isHostChar (character : Char) : Bool :=
  isNameChar character || character = ':' || character = '[' || character = ']'

theorem digit_is_name_char {character : Char} (digit : character.isDigit = true) :
    isNameChar character = true := by
  simp [isNameChar, Char.isAlphanum, digit]

theorem hex_digit_is_name_char {character : Char} (digit : isHexDigit character = true) :
    isNameChar character = true := by
  have letter : character.isDigit = true ∨ character.isAlpha = true := by
    simp only [isHexDigit, Bool.or_eq_true, Bool.and_eq_true, decide_eq_true_eq] at digit
    rcases digit with (number | lower) | upper
    · exact Or.inl number
    · apply Or.inr
      have last : character ≤ 'z' := Char.le_trans lower.2 (by decide)
      have isLower : character.isLower = true :=
        Bool.and_eq_true_iff.mpr ⟨decide_eq_true lower.1, decide_eq_true last⟩
      exact Bool.or_eq_true_iff.mpr (Or.inr isLower)
    · apply Or.inr
      have last : character ≤ 'Z' := Char.le_trans upper.2 (by decide)
      have isUpper : character.isUpper = true := decide_eq_true ⟨upper.1, last⟩
      exact Bool.or_eq_true_iff.mpr (Or.inl isUpper)
  rcases letter with number | alpha
  · exact digit_is_name_char number
  · simp [isNameChar, Char.isAlphanum, alpha]

theorem host_chars {text : String} (isHost : Host text) :
    ∀ character ∈ text.toList, isHostChar character = true := by
  intro character member
  cases isHost with
  | domain isName => simp [isHostChar, isName.chars character member]
  | ipv4 first second third fourth =>
      rcases dotted_char member with dot | digit
      · rw [dot]
        decide
      · simp [isHostChar, digit_is_name_char digit]
  | ipv6 denotes =>
      rw [bracketed_chars] at member
      rcases List.mem_cons.mp member with rfl | inside
      · decide
      · rcases List.mem_append.mp inside with inLiteral | closing
        · have literal := literal_chars denotes character inLiteral
          simp only [literalChar, Bool.or_eq_true, decide_eq_true_eq] at literal
          rcases literal with (digit | rfl) | rfl
          · simp [isHostChar, hex_digit_is_name_char digit]
          · decide
          · decide
        · rw [List.mem_singleton.mp closing]
          decide

theorem host_nonempty {text : String} (isHost : Host text) : text ≠ "" := by
  intro empty
  cases isHost with
  | domain isName => exact isName.nonempty empty
  | ipv4 first second third fourth =>
      have chars := congrArg String.toList empty
      rw [dotted_chars] at chars
      simp at chars
  | ipv6 denotes =>
      have chars := congrArg String.toList empty
      rw [bracketed_chars] at chars
      cases chars

theorem name_has_no_bracket {name : String} (isName : DomainName name) :
    name.toList.head? ≠ some '[' := by
  intro bracket
  exact absurd (isName.chars '[' (List.mem_of_mem_head? bracket)) (by decide)

theorem dotted_has_no_bracket (first second third fourth : UInt8) :
    (dottedText first second third fourth).toList.head? ≠ some '[' := by
  intro bracket
  rcases dotted_char (List.mem_of_mem_head? bracket) with dot | digit
  · exact absurd dot (by decide)
  · exact absurd digit (by decide)

theorem dotted_has_no_upper (first second third fourth : UInt8) :
    ∀ character ∈ (dottedText first second third fourth).toList, character.isUpper = false := by
  intro character member
  rcases dotted_char member with rfl | digit
  · decide
  · simp only [Char.isDigit, Bool.and_eq_true, decide_eq_true_eq] at digit
    have below : character.val.toNat ≤ 57 := digit.2
    apply decide_eq_false
    intro upper
    have above : 65 ≤ character.val.toNat := upper.1
    omega

/-- How a URL parser spells the host it has read. Under a special scheme names come
out in lower case; an address comes out as some literal that denotes it. -/
inductive Spelled (special : Bool) : String → String → Prop where
  | domain {name : String} (isName : DomainName name) :
      Spelled special name (if special then lowered name else name)
  | ipv4 (first second third fourth : UInt8) :
      Spelled special (dottedText first second third fourth) (dottedText first second third fourth)
  | ipv6 {literal spelling : String} {address : List Nat} (denotes : Denotes literal address)
      (same : Denotes spelling address) : Spelled special (bracketed literal) (bracketed spelling)

theorem bracketed_injective {literal other : String} (same : bracketed literal = bracketed other) :
    literal = other := by
  have chars := congrArg String.toList same
  rw [bracketed_chars, bracketed_chars, List.cons.injEq] at chars
  exact String.toList_inj.mp (List.append_cancel_right chars.2)

/-- Without brackets the spelling under a special scheme is the lower-case form. -/
theorem spelled_plain {text spelling : String} (spelled : Spelled true text spelling)
    (noBracket : text.toList.head? ≠ some '[') : spelling = lowered text := by
  cases spelled with
  | domain isName => rfl
  | ipv4 first second third fourth =>
      exact ((lowered_iff _).mpr (dotted_has_no_upper first second third fourth)).symm
  | ipv6 denotes same =>
      rw [bracketed_chars] at noBracket
      exact absurd rfl noBracket

theorem spelled_literal {special : Bool} {literal spelling : String} {address : List Nat}
    (denotes : Denotes literal address) (spelled : Spelled special (bracketed literal) spelling) :
    ∃ other, spelling = bracketed other ∧ Denotes other address := by
  have bracket : (bracketed literal).toList.head? = some '[' := by
    rw [bracketed_chars]
    rfl
  generalize same : bracketed literal = text at spelled bracket
  cases spelled with
  | domain isName => exact absurd bracket (name_has_no_bracket isName)
  | ipv4 first second third fourth =>
      exact absurd bracket (dotted_has_no_bracket first second third fourth)
  | ipv6 denotes' sameAddress =>
      rename_i other spelling address'
      rw [← bracketed_injective same, Denotes, denotes] at denotes'
      cases denotes'
      exact ⟨spelling, rfl, sameAddress⟩

end MultiProxy.HostTexts
