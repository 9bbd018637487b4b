import MultiProxy.Authorities

/-!
# Which authorities are accepted

The grammar of an authority, and what `parse_authority` takes beyond it: empty
brackets, any number of colons behind them, the plus sign of the integer parser,
and a plain host that itself has colons or brackets in it.
-/

namespace MultiProxy.AuthorityGrammar

open MultiProxy.LossyText MultiProxy.ProxyRequests MultiProxy.Authorities

set_option autoImplicit false

/-! ## The grammar -/

structure PortDigits (digits : List Char) (port : UInt16) : Prop where
  nonempty : digits ≠ []
  decimal : ∀ character ∈ digits, character.isDigit = true
  value : Nat.ofDigitChars 10 digits 0 = port.toNat

/-- `h:d` or `[h]:d`. -/
inductive AuthorityOf : List Char → List Char → UInt16 → Prop where
  | plain {host digits : List Char} {port : UInt16} (nonempty : host ≠ [])
      (free : ':' ∉ host ∧ '[' ∉ host ∧ ']' ∉ host) (written : PortDigits digits port) :
      AuthorityOf (host ++ ':' :: digits) host port
  | bracketed {host digits : List Char} {port : UInt16} (nonempty : host ≠ [])
      (closed : ']' ∉ host) (written : PortDigits digits port) :
      AuthorityOf ('[' :: (host ++ ']' :: ':' :: digits)) host port

/-- Exactly the authorities of the grammar, with their host and port, are accepted. -/
def AcceptedByGrammar (authority : String) : Prop :=
  ∀ host port, parseAuthority authority = .ok (host, port) ↔
    AuthorityOf authority.toList host.toList port

/-! ## What is accepted -/

theorem digit_not_marked {digits : List Char} {character : Char}
    (decimal : ∀ digit ∈ digits, digit.isDigit = true) (marked : character.isDigit = false) :
    character ∉ digits := by
  intro member
  have digit := decimal character member
  rw [marked] at digit
  cases digit

/-- Of what the integer parser accepts, the digits alone are what has no sign. -/
theorem port_digits_iff (text : List Char) (port : UInt16) :
    PortDigits text port ↔ parseU16 text = some port ∧ text.head? ≠ some '+' := by
  constructor
  · intro written
    have unsigned : text.head? ≠ some '+' := by
      intro plus
      exact digit_not_marked written.decimal (by decide) (List.mem_of_mem_head? plus)
    refine ⟨?_, unsigned⟩
    simp only [parseU16, if_neg unsigned]
    rw [if_pos ⟨written.nonempty, written.decimal⟩, written.value, if_pos port.toNat_lt,
      UInt16.ofNat_toNat]
  · rintro ⟨parsed, unsigned⟩
    simp only [parseU16, if_neg unsigned] at parsed
    split at parsed
    · rename_i form
      split at parsed
      · rename_i small
        cases parsed
        exact ⟨form.1, form.2, (UInt16.toNat_ofNat_of_lt' small).symm⟩
      · cases parsed
    · cases parsed

theorem number_has_no_colon {number : List Char} {port : UInt16}
    (parsed : parseU16 number = some port) : ':' ∉ number := by
  intro member
  rw [parseU16] at parsed
  by_cases plus : number.head? = some '+'
  · obtain ⟨rest, rfl⟩ := List.head?_eq_some_iff.mp plus
    simp only [List.head?_cons, if_pos, List.tail_cons] at parsed
    rcases List.mem_cons.mp member with colon | inRest
    · exact absurd colon (by decide)
    · rw [if_neg] at parsed
      · cases parsed
      · rintro ⟨_, decimal⟩
        exact digit_not_marked decimal (by decide) inRest
  · simp only [if_neg plus] at parsed
    rw [if_neg] at parsed
    · cases parsed
    · rintro ⟨_, decimal⟩
      exact digit_not_marked decimal (by decide) member

theorem parse_port_ok_iff (text : List Char) (port : UInt16) :
    parsePort text = .ok port ↔ parseU16 text = some port := by
  unfold parsePort
  cases parseU16 text <;> simp

/-- What stands in brackets in front of any colons and a number. -/
structure BracketedForm (chars host : List Char) (colons : Nat) (number : List Char)
    (port : UInt16) : Prop where
  form : chars = '[' :: (host ++ ']' :: (List.replicate colons ':' ++ number))
  closed : ']' ∉ host
  parsed : parseU16 number = some port

/-- What stands in front of the last colon, with a number behind it. -/
structure PlainForm (chars host number : List Char) (port : UInt16) : Prop where
  form : chars = host ++ ':' :: number
  nonempty : host ≠ []
  plain : host.head? ≠ some '['
  parsed : parseU16 number = some port

theorem colons_dropped (colons : Nat) {number : List Char} (noColon : ':' ∉ number) :
    (List.replicate colons ':' ++ number).dropWhile (· = ':') = number := by
  rw [List.dropWhile_append_of_pos]
  · apply List.dropWhile_eq_self_iff.mpr
    intro some
    have first := ByteScan.kept_items noColon _ (List.getElem_mem some)
    simpa using first
  · intro character member
    simpa using List.eq_of_mem_replicate member

theorem bracketed_form_accepted {authority : String} {host number : List Char} {colons : Nat}
    {port : UInt16} (bracketed : BracketedForm authority.toList host colons number port) :
    parseAuthority authority = .ok (String.ofList host, port) := by
  have noColon := number_has_no_colon bracketed.parsed
  have behind : List.replicate colons ':' ++ number ≠ [] := by
    intro empty
    have parsed := bracketed.parsed
    rw [(List.append_eq_nil_iff.mp empty).2] at parsed
    cases parsed
  rw [parse_bracketed_form bracketed.form bracketed.closed, if_neg behind,
    colons_dropped colons noColon, (parse_port_ok_iff number port).mpr bracketed.parsed]
  rfl

theorem plain_form_accepted {authority : String} {host number : List Char} {port : UInt16}
    (plain : PlainForm authority.toList host number port) :
    parseAuthority authority = .ok (String.ofList host, port) := by
  have start : authority.toList.head? ≠ some '[' := by
    rw [plain.form, List.head?_append_of_ne_nil _ plain.nonempty]
    exact plain.plain
  rw [parse_plain_form plain.form (number_has_no_colon plain.parsed) start,
    (parse_port_ok_iff number port).mpr plain.parsed]
  exact if_neg plain.nonempty

theorem accepted_in_brackets {authority host : String} {port : UInt16} {inner : List Char}
    (start : authority.toList = '[' :: inner)
    (accepted : parseAuthority authority = .ok (host, port)) :
    ∃ colons number, BracketedForm authority.toList host.toList colons number port := by
  by_cases closes : ']' ∈ inner
  · obtain ⟨inside, rest, rfl, closed⟩ := List.eq_append_cons_of_mem closes
    rw [parse_bracketed_form start closed] at accepted
    split at accepted
    · cases accepted
    · cases number : parsePort (rest.dropWhile (· = ':')) with
      | error message =>
          rw [number] at accepted
          cases accepted
      | ok found =>
          rw [number] at accepted
          cases accepted
          refine ⟨(rest.takeWhile (· = ':')).length, rest.dropWhile (· = ':'), ?_, ?_,
            (parse_port_ok_iff _ _).mp number⟩
          · have colons : List.replicate (rest.takeWhile (· = ':')).length ':' =
                rest.takeWhile (· = ':') := by
              symm
              rw [List.eq_replicate_iff]
              refine ⟨rfl, ?_⟩
              intro character member
              simpa using List.mem_takeWhile_imp member
            rw [colons, List.takeWhile_append_dropWhile, String.toList_ofList]
            exact start
          · rw [String.toList_ofList]
            exact closed
  · rw [parse_unclosed start closes] at accepted
    cases accepted

theorem accepted_plainly {authority host : String} {port : UInt16}
    (start : authority.toList.head? ≠ some '[')
    (accepted : parseAuthority authority = .ok (host, port)) :
    ∃ number, PlainForm authority.toList host.toList number port := by
  by_cases colon : ':' ∈ authority.toList
  · obtain ⟨number, front, reversed, last⟩ :=
      List.eq_append_cons_of_mem (List.mem_reverse.mpr colon)
    have form : authority.toList = front.reverse ++ ':' :: number.reverse := by
      have back := congrArg List.reverse reversed
      simpa using back
    have noColon : ':' ∉ number.reverse := fun member => last (List.mem_reverse.mp member)
    rw [parse_plain_form form noColon start] at accepted
    cases parsed : parsePort number.reverse with
    | error message =>
        rw [parsed] at accepted
        cases accepted
    | ok found =>
        rw [parsed] at accepted
        simp only [Except.bind] at accepted
        split at accepted
        · cases accepted
        · rename_i nonempty
          cases accepted
          rw [String.toList_ofList]
          refine ⟨number.reverse, form, nonempty, ?_, (parse_port_ok_iff _ _).mp parsed⟩
          rw [form, List.head?_append_of_ne_nil _ nonempty] at start
          exact start
  · rw [parse_without_colon colon start] at accepted
    cases accepted

/-! ## What is accepted beyond the grammar -/

/-- The authorities that are taken although they are none. -/
inductive Lenient (chars : List Char) : Prop where
  | bracketed (host : List Char) (colons : Nat) (number : List Char) (port : UInt16)
      (accepted : BracketedForm chars host colons number port)
      (slack : host = [] ∨ colons ≠ 1 ∨ number.head? = some '+')
  | plain (host number : List Char) (port : UInt16)
      (accepted : PlainForm chars host number port)
      (slack : (':' ∈ host ∨ '[' ∈ host ∨ ']' ∈ host) ∨ number.head? = some '+')

theorem authority_accepted {authority : String} {host : List Char} {port : UInt16}
    (known : AuthorityOf authority.toList host port) :
    parseAuthority authority = .ok (String.ofList host, port) := by
  generalize same : authority.toList = chars at known
  cases known with
  | @plain _ digits _ nonempty free written =>
      have parsed := ((port_digits_iff digits port).mp written).1
      have plain : host.head? ≠ some '[' := by
        intro bracket
        exact free.2.1 (List.mem_of_mem_head? bracket)
      have form : PlainForm authority.toList host digits port := ⟨same, nonempty, plain, parsed⟩
      exact plain_form_accepted form
  | @bracketed _ digits _ nonempty closed written =>
      have parsed := ((port_digits_iff digits port).mp written).1
      have form : BracketedForm authority.toList host 1 digits port := ⟨same, closed, parsed⟩
      exact bracketed_form_accepted form

theorem bracketed_slack_not_grammar {host number : List Char} {colons : Nat} {port : UInt16}
    {chars : List Char} (accepted : BracketedForm chars host colons number port)
    (slack : host = [] ∨ colons ≠ 1 ∨ number.head? = some '+') :
    ¬ AuthorityOf chars host port := by
  intro known
  obtain ⟨form, _, parsed⟩ := accepted
  cases known with
  | @plain _ digits _ nonempty free written =>
      obtain ⟨first, more, rfl⟩ := List.exists_cons_of_ne_nil nonempty
      have same := (List.cons.inj form).1
      subst same
      exact free.2.1 List.mem_cons_self
  | @bracketed _ digits _ nonempty closed written =>
      have behind := List.append_cancel_left (List.cons.inj form).2
      have same : ':' :: digits = List.replicate colons ':' ++ number :=
        (List.cons.inj behind).2
      have noColon : ':' ∉ digits := digit_not_marked written.decimal (by decide)
      match colons with
      | 0 =>
          have inNumber : ':' ∈ number := by
            rw [List.replicate_zero, List.nil_append] at same
            rw [← same]
            exact List.mem_cons_self
          exact number_has_no_colon parsed inNumber
      | 1 =>
          have sameDigits : digits = number := (List.cons.inj same).2
          rw [← sameDigits] at slack
          rcases slack with empty | many | plus
          · exact nonempty empty
          · exact many rfl
          · exact ((port_digits_iff digits port).mp written).2 plus
      | more + 2 =>
          have sameDigits : digits = ':' :: (List.replicate more ':' ++ number) :=
            (List.cons.inj same).2
          rw [sameDigits] at noColon
          exact noColon List.mem_cons_self

theorem plain_slack_not_grammar {host number : List Char} {port : UInt16} {chars : List Char}
    (accepted : PlainForm chars host number port)
    (slack : (':' ∈ host ∨ '[' ∈ host ∨ ']' ∈ host) ∨ number.head? = some '+') :
    ¬ AuthorityOf chars host port := by
  intro known
  obtain ⟨form, nonempty, plain, parsed⟩ := accepted
  cases known with
  | @plain _ digits _ _ free written =>
      have sameDigits : digits = number := (List.cons.inj (List.append_cancel_left form)).2
      rw [← sameDigits] at slack
      rcases slack with (colon | opened | closed) | plus
      · exact free.1 colon
      · exact free.2.1 opened
      · exact free.2.2 closed
      · exact ((port_digits_iff digits port).mp written).2 plus
  | @bracketed _ digits _ _ closed written =>
      obtain ⟨first, more, rfl⟩ := List.exists_cons_of_ne_nil nonempty
      have same := (List.cons.inj form).1
      exact plain (by rw [← same]; rfl)

theorem lenient_not_by_grammar {authority : String} (lenient : Lenient authority.toList) :
    ¬ AcceptedByGrammar authority := by
  intro exact
  cases lenient with
  | bracketed host colons number port accepted slack =>
      have known := (exact _ port).mp (bracketed_form_accepted accepted)
      rw [String.toList_ofList] at known
      exact bracketed_slack_not_grammar accepted slack known
  | plain host number port accepted slack =>
      have known := (exact _ port).mp (plain_form_accepted accepted)
      rw [String.toList_ofList] at known
      exact plain_slack_not_grammar accepted slack known

theorem accepted_in_grammar {authority host : String} {port : UInt16}
    (strict : ¬ Lenient authority.toList)
    (accepted : parseAuthority authority = .ok (host, port)) :
    AuthorityOf authority.toList host.toList port := by
  by_cases start : authority.toList.head? = some '['
  · obtain ⟨inner, chars⟩ := List.head?_eq_some_iff.mp start
    obtain ⟨colons, number, bracketed⟩ := accepted_in_brackets chars accepted
    have exactly : ¬ (host.toList = [] ∨ colons ≠ 1 ∨ number.head? = some '+') :=
      fun slack => strict (.bracketed _ _ _ _ bracketed slack)
    simp only [not_or, not_not] at exactly
    obtain ⟨nonempty, rfl, unsigned⟩ := exactly
    rw [bracketed.form]
    exact .bracketed nonempty bracketed.closed
      ((port_digits_iff number port).mpr ⟨bracketed.parsed, unsigned⟩)
  · obtain ⟨number, plain⟩ := accepted_plainly start accepted
    have exactly : ¬ ((':' ∈ host.toList ∨ '[' ∈ host.toList ∨ ']' ∈ host.toList) ∨
        number.head? = some '+') := fun slack => strict (.plain _ _ _ plain slack)
    simp only [not_or] at exactly
    rw [plain.form]
    exact .plain plain.nonempty exactly.1
      ((port_digits_iff number port).mpr ⟨plain.parsed, exactly.2⟩)

/-- The accepted authorities are those of the grammar, except for the lenient ones. -/
theorem authority_by_grammar_iff (authority : String) :
    AcceptedByGrammar authority ↔ ¬ Lenient authority.toList := by
  constructor
  · intro exact lenient
    exact lenient_not_by_grammar lenient exact
  · intro strict host port
    constructor
    · intro accepted
      exact accepted_in_grammar strict accepted
    · intro known
      have accepted := authority_accepted known
      rwa [String.ofList_toList] at accepted

/-- `[]:443` is a CONNECT authority with an empty host. -/
theorem empty_brackets_accepted :
    parseAuthority "[]:443" = .ok ("", 443) ∧ ¬ AcceptedByGrammar "[]:443" := by
  have form : BracketedForm "[]:443".toList [] 1 "443".toList 443 :=
    ⟨by decide, by decide, by decide⟩
  constructor
  · exact bracketed_form_accepted form
  · exact lenient_not_by_grammar (.bracketed _ _ _ _ form (Or.inl rfl))

end MultiProxy.AuthorityGrammar
