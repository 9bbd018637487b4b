import Mathlib.Data.List.Basic

/-!
Looking for a short sequence in a longer one: the window search of
`slice::windows`, and the unique way to split a list at its last separator.
-/

namespace MultiProxy.ByteScan

set_option autoImplicit false

variable {Item : Type*}

/-- What is said of every item of a list is decided along the list, never over all the
items that there are. -/
instance (priority := 2000) decidableOfMembers (items : List Item) (said : Item → Prop)
    [DecidablePred said] : Decidable (∀ item ∈ items, said item) :=
  List.decidableBAll said items

/-- Nothing but the last separator separates a list from a separator-free tail. -/
theorem split_at_last_separator {separator : Item} {left left' right right' : List Item}
    (free : separator ∉ right) (free' : separator ∉ right')
    (same : left ++ separator :: right = left' ++ separator :: right') :
    left = left' ∧ right = right' := by
  rcases List.append_eq_append_iff.mp same with ⟨extra, leftEq, tailEq⟩ | ⟨extra, leftEq, tailEq⟩
  · cases extra with
    | nil =>
        simp only [List.append_nil, List.nil_append, List.cons.injEq, true_and] at leftEq tailEq
        exact ⟨leftEq.symm, tailEq⟩
    | cons head extra =>
        simp only [List.cons_append, List.cons.injEq] at tailEq
        exact absurd (by simp [tailEq.2]) free
  · cases extra with
    | nil =>
        simp only [List.append_nil, List.nil_append, List.cons.injEq, true_and] at leftEq tailEq
        exact ⟨leftEq, tailEq.symm⟩
    | cons head extra =>
        simp only [List.cons_append, List.cons.injEq] at tailEq
        exact absurd (by simp [tailEq.2]) free'

section FirstSeparator

variable [DecidableEq Item] {separator : Item} {front : List Item} (free : separator ∉ front)

include free

theorem kept_items : ∀ item ∈ front, decide (item ≠ separator) = true := by
  intro item member
  rw [decide_eq_true_eq]
  intro same
  exact free (same ▸ member)

theorem before_separator (behind : List Item) :
    (front ++ separator :: behind).takeWhile (· ≠ separator) = front := by
  rw [List.takeWhile_append_of_pos (kept_items free)]
  simp

theorem from_separator (behind : List Item) :
    (front ++ separator :: behind).dropWhile (· ≠ separator) = separator :: behind := by
  rw [List.dropWhile_append_of_pos (kept_items free)]
  simp

end FirstSeparator

def crlf : List UInt8 := [0x0D, 0x0A]

section Search

variable [DecidableEq Item]

/-- `windows(n).position(..)`: where a nonempty sequence occurs first. -/
def position (needle : List Item) : List Item → Option Nat
  | [] => none
  | item :: rest =>
      if needle <+: item :: rest then some 0 else (position needle rest).map (· + 1)

/-- `windows(n).any(..)`. -/
def occurs (needle text : List Item) : Bool := (position needle text).isSome

/-- Up to a place where the sequence starts for the first time nothing starts. -/
theorem position_at_first_start {needle front back : List Item} (nonempty : needle ≠ [])
    (earlier : ∀ pre rest, front = pre ++ rest → rest ≠ [] → ¬ needle <+: rest ++ needle ++ back) :
    position needle (front ++ needle ++ back) = some front.length := by
  induction front with
  | nil =>
      obtain ⟨head, tail, rfl⟩ := List.exists_cons_of_ne_nil nonempty
      simp [position]
  | cons item front ih =>
      have notHere := earlier [] (item :: front) rfl (by simp)
      have later := ih (by
        intro pre rest split proper
        exact earlier (item :: pre) rest (by rw [split]; rfl) proper)
      simp only [List.cons_append] at notHere ⊢
      rw [position, if_neg notHere, later]
      rfl

theorem position_starts {needle text : List Item} {index : Nat}
    (found : position needle text = some index) :
    text = text.take index ++ needle ++ text.drop (index + needle.length) := by
  induction text generalizing index with
  | nil => cases found
  | cons item rest ih =>
      rw [position] at found
      split at found
      · rename_i starts
        cases found
        obtain ⟨tail, same⟩ := starts
        simp [← same]
      · obtain ⟨previous, foundLater, rfl⟩ := Option.map_eq_some_iff.mp found
        have split := ih foundLater
        calc
          item :: rest = item :: (rest.take previous ++ needle ++
              rest.drop (previous + needle.length)) := congrArg (item :: ·) split
          _ = _ := by
              rw [show previous + 1 + needle.length = previous + needle.length + 1 by omega]
              simp

theorem position_within {needle text : List Item} {index : Nat}
    (found : position needle text = some index) : index + needle.length ≤ text.length := by
  induction text generalizing index with
  | nil => cases found
  | cons item rest ih =>
      rw [position] at found
      split at found
      · rename_i starts
        cases found
        simpa using starts.length_le
      · obtain ⟨previous, foundLater, rfl⟩ := Option.map_eq_some_iff.mp found
        have later := ih foundLater
        rw [List.length_cons]
        omega

theorem position_fits {needle text : List Item} {index : Nat}
    (found : position needle text = some index) : needle.length ≤ text.length :=
  Nat.le_trans (Nat.le_add_left _ index) (position_within found)

/-- Bytes that arrive later do not move the first occurrence. -/
theorem position_append {needle front : List Item} {index : Nat} (back : List Item)
    (found : position needle front = some index) :
    position needle (front ++ back) = some index := by
  induction front generalizing index with
  | nil => cases found
  | cons item rest ih =>
      rw [position] at found
      rw [List.cons_append, position]
      split at found
      · rename_i starts
        cases found
        rw [if_pos]
        exact starts.trans (List.prefix_append (item :: rest) back)
      · rename_i startsLater
        obtain ⟨previous, foundLater, rfl⟩ := Option.map_eq_some_iff.mp found
        have fits := position_fits foundLater
        have notHere : ¬ needle <+: item :: (rest ++ back) := by
          intro starts
          have within := List.prefix_of_prefix_length_le starts
            (List.prefix_append (item :: rest) back) (by rw [List.length_cons]; omega)
          exact startsLater within
        rw [if_neg notHere, ih foundLater]
        rfl

theorem occurs_iff {needle text : List Item} (nonempty : needle ≠ []) :
    occurs needle text = true ↔ needle <:+: text := by
  constructor
  · intro found
    obtain ⟨index, position⟩ := Option.isSome_iff_exists.mp found
    exact ⟨_, _, (position_starts position).symm⟩
  · intro occurrence
    obtain ⟨front, back, rfl⟩ := occurrence
    induction front with
    | nil =>
        obtain ⟨head, tail, rfl⟩ := List.exists_cons_of_ne_nil nonempty
        simp [occurs, position]
    | cons item front ih =>
        simp only [occurs, List.cons_append, position] at ih ⊢
        split
        · rfl
        · simpa using ih

theorem occurs_in_front {needle front : List Item} (nonempty : needle ≠ []) (back : List Item)
    (found : occurs needle front = true) : occurs needle (front ++ back) = true :=
  (occurs_iff nonempty).mpr (((occurs_iff nonempty).mp found).trans
    (List.infix_append' [] front back))

end Search

/-! ## Lines on the wire -/

/-- The bytes before the first CRLF and the bytes behind it. -/
def splitLine (text : List UInt8) : Option (List UInt8 × List UInt8) :=
  (position crlf text).map fun index => (text.take index, text.drop (index + 2))

/-- A line feed only ever ends a line at a CRLF, so a line without one is taken
whole. -/
theorem position_of_line_end (line rest : List UInt8) (unbroken : (0x0A : UInt8) ∉ line) :
    position crlf (line ++ crlf ++ rest) = some line.length := by
  apply position_at_first_start (by simp [crlf])
  intro pre tail split nonempty starts
  obtain ⟨head, more, rfl⟩ := List.exists_cons_of_ne_nil nonempty
  obtain ⟨after, same⟩ := starts
  cases more with
  | nil => simp [crlf] at same
  | cons second more =>
      simp only [crlf, List.cons_append, List.cons.injEq] at same
      exact unbroken (by simp [split, ← same.2.1])

theorem split_line_append (line rest : List UInt8) (unbroken : (0x0A : UInt8) ∉ line) :
    splitLine (line ++ crlf ++ rest) = some (line, rest) := by
  have lengths : line.length + 2 = (line ++ crlf).length := by simp [crlf]
  rw [splitLine, position_of_line_end line rest unbroken]
  simp only [Option.map_some, lengths, List.drop_left]
  rw [List.append_assoc, List.take_left]

/-! ## The empty line behind a block of lines -/

def blankLine : List UInt8 := crlf ++ crlf

theorem not_blank_line_start {byte : UInt8} {rest : List UInt8} (second : rest.head? ≠ some 0x0A) :
    ¬ blankLine <+: byte :: rest := by
  intro starts
  obtain ⟨tail, same⟩ := starts
  apply second
  simp only [blankLine, crlf, List.cons_append, List.cons.injEq] at same
  rw [← same.2]
  rfl

theorem unbroken_head {line : List UInt8} (unbroken : (0x0A : UInt8) ∉ line) (rest : List UInt8) :
    (line ++ crlf ++ rest).head? ≠ some 0x0A := by
  cases line with
  | nil => simp [crlf]
  | cons byte line =>
      intro same
      simp only [List.cons_append, List.head?_cons, Option.some.injEq] at same
      exact unbroken (by simp [same])

theorem position_behind_line (line rest : List UInt8) (unbroken : (0x0A : UInt8) ∉ line) :
    position blankLine (line ++ crlf ++ rest) =
      (position blankLine (crlf ++ rest)).map (· + line.length) := by
  induction line with
  | nil => simp
  | cons byte line ih =>
      have lineUnbroken : (0x0A : UInt8) ∉ line := fun member => unbroken (by simp [member])
      rw [List.cons_append, List.cons_append, position,
        if_neg (not_blank_line_start (unbroken_head lineUnbroken rest)), ih lineUnbroken,
        Option.map_map]
      rfl

theorem position_behind_line_end (line rest : List UInt8) (unbroken : (0x0A : UInt8) ∉ line)
    (nonempty : line ≠ []) :
    position blankLine (crlf ++ (line ++ crlf ++ rest)) =
      (position blankLine (line ++ crlf ++ rest)).map (· + 2) := by
  obtain ⟨byte, more, rfl⟩ := List.exists_cons_of_ne_nil nonempty
  have moreUnbroken : (0x0A : UInt8) ∉ more := fun member => unbroken (by simp [member])
  have notAtEnd : ¬ blankLine <+: 0x0D :: 0x0A :: (byte :: more ++ crlf ++ rest) := by
    intro starts
    obtain ⟨tail, same⟩ := starts
    simp only [blankLine, crlf, List.cons_append, List.cons.injEq, true_and,
      List.nil_append] at same
    apply unbroken_head moreUnbroken rest
    rw [crlf, ← same.2]
    rfl
  have notBehind : ¬ blankLine <+: 0x0A :: (byte :: more ++ crlf ++ rest) := by
    intro starts
    obtain ⟨tail, same⟩ := starts
    simp [blankLine, crlf] at same
  rw [crlf, List.cons_append, List.cons_append, List.nil_append, ← crlf, position,
    if_neg notAtEnd, position, if_neg notBehind, Option.map_map]
  rfl

/-- Lines without line feeds, of which only the first may be empty, end at the
first empty line. -/
theorem position_of_blank_line (first : List UInt8) (others : List (List UInt8))
    (rest : List UInt8) (unbroken : ∀ line ∈ first :: others, (0x0A : UInt8) ∉ line)
    (nonempty : ∀ line ∈ others, line ≠ []) :
    position blankLine (first ++ (others.map (crlf ++ ·)).flatten ++ (blankLine ++ rest)) =
      some (first ++ (others.map (crlf ++ ·)).flatten).length := by
  induction others generalizing first with
  | nil =>
      have here : position blankLine (crlf ++ (crlf ++ rest)) = some 0 := rfl
      have atEnd := position_behind_line first (crlf ++ rest) (unbroken first (by simp))
      rw [here] at atEnd
      simpa [blankLine] using atEnd
  | cons line others ih =>
      have firstUnbroken := unbroken first (by simp)
      have lineUnbroken := unbroken line (by simp)
      have later := ih line (by intro other member; exact unbroken other (by simp [member]))
        (by intro other member; exact nonempty other (by simp [member]))
      have ended : ∃ behind, line ++ (others.map (crlf ++ ·)).flatten ++ (blankLine ++ rest) =
          line ++ crlf ++ behind := by
        cases others with
        | nil => exact ⟨crlf ++ rest, by simp [blankLine]⟩
        | cons next others =>
            exact ⟨next ++ (others.map (crlf ++ ·)).flatten ++ (blankLine ++ rest),
            by simp⟩
      obtain ⟨behind, same⟩ := ended
      have whole : first ++ ((line :: others).map (crlf ++ ·)).flatten ++ (blankLine ++ rest) =
          first ++ crlf ++ (line ++ crlf ++ behind) := by
        rw [← same]
        simp
      rw [whole, position_behind_line first _ firstUnbroken,
        position_behind_line_end line behind lineUnbroken (nonempty line (by simp)), ← same, later]
      simp only [Option.map_some, List.map_cons, List.flatten_cons, List.length_append, crlf,
        List.length_cons, List.length_nil]
      congr 1
      omega

theorem split_line_further {text line rest : List UInt8} (back : List UInt8)
    (split : splitLine text = some (line, rest)) :
    splitLine (text ++ back) = some (line, rest ++ back) := by
  obtain ⟨index, found, same⟩ := Option.map_eq_some_iff.mp split
  have within : index + 2 ≤ text.length := position_within found
  cases same
  rw [splitLine, position_append back found, Option.map_some,
    List.take_append_of_le_length (by omega), List.drop_append_of_le_length within]

theorem split_line_sound {text line rest : List UInt8}
    (split : splitLine text = some (line, rest)) :
    text = line ++ crlf ++ rest := by
  obtain ⟨index, found, same⟩ := Option.map_eq_some_iff.mp split
  cases same
  exact position_starts found

end MultiProxy.ByteScan
