import MultiProxy.HostTexts
import MultiProxy.ProxyRequests

/-!
# What a CONNECT authority parses to

A host of any form in front of its port, as `parse_authority` gives it back: a
plain host as it stands, a bracketed one without its brackets.
-/

namespace MultiProxy.Authorities

open MultiProxy.ByteScan MultiProxy.HostTexts MultiProxy.UpstreamDsn MultiProxy.ProxyRequests

set_option autoImplicit false

theorem parse_port_decimal (port : UInt16) :
    parsePort (Nat.repr port.toNat).toList = .ok port := by
  unfold parsePort
  rw [LossyText.parse_u16_repr]

/-! ## The two forms of an authority -/

theorem parse_bracketed_form {authority : String} {host rest : List Char}
    (form : authority.toList = '[' :: (host ++ ']' :: rest)) (closed : ']' ∉ host) :
    parseAuthority authority =
      if rest = [] then .error "Missing port after IPv6 address"
      else (parsePort (rest.dropWhile (· = ':'))).map fun port => (String.ofList host, port) := by
  unfold parseAuthority
  rw [form]
  simp only [before_separator closed, from_separator closed]
  cases rest with
  | nil => rfl
  | cons first more => rfl

theorem parse_unclosed {authority : String} {inner : List Char}
    (form : authority.toList = '[' :: inner) (unclosed : ']' ∉ inner) :
    parseAuthority authority = .error "Unclosed IPv6 bracket" := by
  have behind : inner.dropWhile (· ≠ ']') = [] := by
    rw [List.dropWhile_eq_nil_iff]
    exact kept_items unclosed
  unfold parseAuthority
  rw [form]
  simp only [behind]

theorem parse_plain_form {authority : String} {host number : List Char}
    (form : authority.toList = host ++ ':' :: number) (last : ':' ∉ number)
    (plain : authority.toList.head? ≠ some '[') :
    parseAuthority authority =
      (parsePort number).bind fun port =>
        if host = [] then .error "Empty host" else .ok (String.ofList host, port) := by
  have reversed : authority.toList.reverse = number.reverse ++ ':' :: host.reverse := by
    rw [form]
    simp
  have noColon : ':' ∉ number.reverse := by
    rw [List.mem_reverse]
    exact last
  unfold parseAuthority
  split
  · rename_i inner same
    rw [same] at plain
    exact absurd rfl plain
  · simp only [reversed, before_separator noColon, from_separator noColon,
      List.reverse_eq_nil_iff, List.reverse_reverse]
    rfl

theorem parse_without_colon {authority : String} (noColon : ':' ∉ authority.toList)
    (plain : authority.toList.head? ≠ some '[') :
    parseAuthority authority = .error "Missing port in authority" := by
  have behind : authority.toList.reverse.dropWhile (· ≠ ':') = [] := by
    rw [List.dropWhile_eq_nil_iff]
    apply kept_items
    rw [List.mem_reverse]
    exact noColon
  unfold parseAuthority
  split
  · rename_i inner same
    rw [same] at plain
    exact absurd rfl plain
  · simp only [behind]

/-! ## A host in front of its port -/

theorem parse_plain_authority {host : String} (port : UInt16) (nonempty : host ≠ "")
    (plain : host.toList.head? ≠ some '[') :
    parseAuthority (hostPort host port) = .ok (host, port) := by
  have someHost : host.toList ≠ [] := by
    intro empty
    exact nonempty (String.toList_inj.mp empty)
  have start : (hostPort host port).toList.head? ≠ some '[' := by
    rw [host_port_chars, List.head?_append_of_ne_nil _ someHost]
    exact plain
  rw [parse_plain_form (host_port_chars host port) (decimal_has_no_colon port.toNat) start,
    parse_port_decimal, String.ofList_toList]
  exact if_neg someHost

/-- The brackets of a literal are not part of the host. -/
theorem parse_bracketed_authority {literal : String} (port : UInt16)
    (closed : ']' ∉ literal.toList) :
    parseAuthority (hostPort (bracketed literal) port) = .ok (literal, port) := by
  have chars : (hostPort (bracketed literal) port).toList =
      '[' :: (literal.toList ++ ']' :: ':' :: (Nat.repr port.toNat).toList) := by
    rw [host_port_chars, bracketed_chars]
    simp
  have digits : (':' :: (Nat.repr port.toNat).toList).dropWhile (· = ':') =
      (Nat.repr port.toNat).toList := by
    rw [List.dropWhile_cons_of_pos (by decide)]
    apply List.dropWhile_eq_self_iff.mpr
    intro some
    have first := kept_items (decimal_has_no_colon port.toNat) _ (List.getElem_mem some)
    simpa using first
  rw [parse_bracketed_form chars closed, if_neg (List.cons_ne_nil _ _), digits,
    parse_port_decimal, String.ofList_toList]
  rfl

end MultiProxy.Authorities
