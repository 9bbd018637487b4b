import MultiProxy.DsnParsing

/-!
A reader of the URLs that DSNs are written as. It cuts the text at its marks,
and reads from every DSN that is written well what a URL parser reads.
-/

namespace MultiProxy.DsnReader

open MultiProxy.RustRuntime MultiProxy.LossyText MultiProxy.PercentCoding MultiProxy.HostTexts
open MultiProxy.UpstreamDsn MultiProxy.PathRequest MultiProxy.PathDestination MultiProxy.DsnParsing

set_option autoImplicit false

/-- What stands before the first mark, and what stands behind it. -/
def cut (mark : Char) (text : List Char) : List Char × List Char :=
  (text.takeWhile (· ≠ mark), (text.dropWhile (· ≠ mark)).tail)

theorem cut_at {mark : Char} {front : List Char} (free : mark ∉ front) (back : List Char) :
    cut mark (front ++ mark :: back) = (front, back) := by
  rw [cut, ByteScan.before_separator free, ByteScan.from_separator free]
  rfl

theorem cut_free {mark : Char} {text : List Char} (free : mark ∉ text) :
    cut mark text = (text, []) := by
  have keeps : ∀ character ∈ text, decide (character ≠ mark) = true := by
    intro character member
    exact decide_eq_true fun same => free (same ▸ member)
  rw [cut, List.takeWhile_eq_self_iff.mpr keeps, List.dropWhile_eq_nil_iff.mpr keeps]
  rfl

def schemeOf (text : String) : Scheme :=
  if startsWith text "http://" then .http
  else if startsWith text "socks5://" then .socks5
  else .ssh

def cutUserinfo (authority : List Char) : List Char × List Char :=
  if '@' ∈ authority then cut '@' authority else ([], authority)

def readHost (place : List Char) : List Char :=
  if place.head? = some '[' then (cut ']' place).1 ++ [']'] else (cut ':' place).1

def spelledHost (scheme : Scheme) (host : List Char) : String :=
  if scheme = .http ∧ host.head? ≠ some '[' then lowered (String.ofList host)
  else String.ofList host

def readUrl (text : String) : DsnUrl :=
  let scheme := schemeOf text
  let (authority, query) := cut '?' (text.toList.drop scheme.text.length)
  let (userinfo, place) := cutUserinfo authority
  let (name, pass) := cut ':' userinfo
  let host := readHost place
  let port := parseU16 (place.drop host.length).tail
  { hostStr := some (spelledHost scheme host)
    port := if port = scheme.ownPort then none else port
    username := String.ofList name
    password := if pass = [] then none else some (String.ofList pass)
    queryPairs := formPairs (utf8 (String.ofList query)) }

theorem free_of_class {allowed : Char → Bool} {mark : Char} {text : List Char}
    (inside : ∀ character ∈ text, allowed character = true) (outside : allowed mark = false) :
    mark ∉ text := by
  intro member
  rw [inside mark member] at outside
  cases outside

/-! ## The userinfo -/

def nameChars (userinfo : Option Userinfo) : List Char :=
  ((userinfo.map Userinfo.name).getD "").toList

def passChars (userinfo : Option Userinfo) : List Char :=
  ((userinfo.bind Userinfo.pass).getD "").toList

/-- The userinfo without the sign that ends it. -/
def rawUserinfo : Option Userinfo → List Char
  | none => []
  | some ⟨name, none⟩ => name.toList
  | some ⟨name, some pass⟩ => name.toList ++ ':' :: pass.toList

theorem userinfo_text_chars (info : Userinfo) :
    (userinfoText (some info)).toList = rawUserinfo (some info) ++ ['@'] := by
  obtain ⟨name, pass⟩ := info
  cases pass with
  | none => simp [userinfoText, rawUserinfo]
  | some pass => simp [userinfoText, rawUserinfo]

section Userinfo

variable {userinfo : Option Userinfo}
  (wellFormed : ∀ info, userinfo = some info → WellFormed info)

include wellFormed

theorem raw_userinfo_free {mark : Char} (other : mark ≠ ':')
    (outside : isUserinfoChar mark = false) : mark ∉ rawUserinfo userinfo := by
  cases same : userinfo with
  | none => exact List.not_mem_nil
  | some info =>
      have form := wellFormed info same
      obtain ⟨name, given⟩ := info
      have inName : mark ∉ name.toList := free_of_class form.name outside
      cases given with
      | none => exact inName
      | some pass =>
          have inPass : mark ∉ pass.toList := free_of_class (form.pass pass rfl) outside
          simp [rawUserinfo, inName, inPass, other]

theorem userinfo_text_free {mark : Char} (other : mark ≠ ':') (notSign : mark ≠ '@')
    (outside : isUserinfoChar mark = false) : mark ∉ (userinfoText userinfo).toList := by
  have raw := raw_userinfo_free wellFormed other outside
  cases same : userinfo with
  | none => exact List.not_mem_nil
  | some info =>
      rw [same] at raw
      rw [userinfo_text_chars]
      simp [raw, notSign]

theorem userinfo_cut {place : List Char} (unsigned : '@' ∉ place) :
    cutUserinfo ((userinfoText userinfo).toList ++ place) = (rawUserinfo userinfo, place) := by
  have raw := raw_userinfo_free wellFormed (by decide : '@' ≠ ':') (by decide)
  cases same : userinfo with
  | none =>
      rw [cutUserinfo, userinfoText, String.toList_empty, List.nil_append, if_neg unsigned]
      rfl
  | some info =>
      rw [same] at raw
      have signed : '@' ∈ (userinfoText (some info)).toList ++ place := by
        rw [userinfo_text_chars]
        simp
      rw [cutUserinfo, if_pos signed, userinfo_text_chars, List.append_assoc]
      exact cut_at raw place

theorem name_and_pass_cut :
    cut ':' (rawUserinfo userinfo) = (nameChars userinfo, passChars userinfo) := by
  cases same : userinfo with
  | none => rfl
  | some info =>
      have form := wellFormed info same
      obtain ⟨name, given⟩ := info
      have free : ':' ∉ name.toList := free_of_class form.name (by decide)
      cases given with
      | none => exact cut_free free
      | some pass => exact cut_at free pass.toList

end Userinfo

/-! ## The host and the port -/

theorem plain_host_read {host : List Char} (noBracket : host.head? ≠ some '[')
    (noColon : ':' ∉ host) (nonempty : host ≠ []) (port : Option UInt16) :
    readHost (host ++ (portText port).toList) = host := by
  have first : (host ++ (portText port).toList).head? ≠ some '[' := by
    rw [List.head?_append_of_ne_nil host nonempty]
    exact noBracket
  rw [readHost, if_neg first]
  cases port with
  | none =>
      have empty : (portText none).toList = [] := rfl
      rw [empty, List.append_nil, cut_free noColon]
  | some port => rw [port_text_chars, cut_at noColon]

theorem host_read {host : String} (isHost : Host host) (port : Option UInt16) :
    readHost (host.toList ++ (portText port).toList) = host.toList := by
  have nonempty : host.toList ≠ [] :=
    fun empty => host_nonempty isHost (String.toList_eq_nil_iff.mp empty)
  cases isHost with
  | domain isName =>
      have noColon : ':' ∉ host.toList := free_of_class isName.chars (by decide)
      exact plain_host_read (name_has_no_bracket isName) noColon nonempty port
  | ipv4 first second third fourth =>
      have noColon : ':' ∉ (dottedText first second third fourth).toList := by
        intro member
        obtain dot | digit := dotted_char member
        · exact absurd dot (by decide)
        · exact absurd digit (by decide)
      exact plain_host_read (dotted_has_no_bracket first second third fourth) noColon nonempty port
  | ipv6 denotes =>
      rename_i literal address
      have closes : ']' ∉ '[' :: literal.toList := by
        simpa using (literal_without_bracket denotes).2
      have shape : (bracketed literal).toList ++ (portText port).toList =
          ('[' :: literal.toList) ++ ']' :: (portText port).toList := by
        rw [bracketed_chars]
        simp
      have first : (('[' :: literal.toList) ++ ']' :: (portText port).toList).head? = some '[' :=
        rfl
      rw [shape, readHost, if_pos first, cut_at closes, bracketed_chars]
      rfl

theorem port_read (port : Option UInt16) : parseU16 (portText port).toList.tail = port := by
  cases port with
  | none => rfl
  | some port =>
      rw [port_text_chars]
      exact parse_u16_repr port

theorem host_spelled {host : String} (isHost : Host host) (scheme : Scheme) :
    Spelled (scheme = .http) host (spelledHost scheme host.toList) := by
  cases isHost with
  | domain isName =>
      have spelling : spelledHost scheme host.toList =
          if decide (scheme = .http) then lowered host else host := by
        simp only [spelledHost, name_has_no_bracket isName, ne_eq, not_false_eq_true, and_true,
          String.ofList_toList, decide_eq_true_eq]
      rw [spelling]
      exact .domain isName
  | ipv4 first second third fourth =>
      have lower := (lowered_iff _).mpr (dotted_has_no_upper first second third fourth)
      have spelling : spelledHost scheme (dottedText first second third fourth).toList =
          dottedText first second third fourth := by
        rw [spelledHost, String.ofList_toList, lower, ite_self]
      rw [spelling]
      exact .ipv4 first second third fourth
  | ipv6 denotes =>
      rename_i literal address
      have bracket : (bracketed literal).toList.head? = some '[' := by
        rw [bracketed_chars]
        rfl
      have spelling : spelledHost scheme (bracketed literal).toList = bracketed literal := by
        rw [spelledHost, if_neg (fun plain => plain.2 bracket), String.ofList_toList]
      rw [spelling]
      exact .ipv6 denotes denotes

/-! ## Whole texts -/

theorem scheme_read (written : DsnText) : schemeOf written.text = written.scheme := by
  have isHttp : startsWith written.text "http://" = _ := text_begins written .http
  have isSocks5 : startsWith written.text "socks5://" = _ := text_begins written .socks5
  simp only [schemeOf, isHttp, isSocks5, decide_eq_true_eq]
  cases written.scheme <;> rfl

theorem query_cut {authority : List Char} (unmarked : '?' ∉ authority) (query : Option String) :
    cut '?' (authority ++ (queryText query).toList) = (authority, (query.getD "").toList) := by
  cases query with
  | none =>
      have empty : (queryText none).toList = [] := rfl
      rw [empty, List.append_nil, cut_free unmarked]
      rfl
  | some query =>
      have marked : (queryText (some query)).toList = '?' :: query.toList := by
        have rendered : queryText (some query) = "?" ++ query := rfl
        simp [rendered]
      rw [marked, cut_at unmarked]
      rfl

theorem host_unmarked {host : String} (isHost : Host host) :
    '?' ∉ host.toList ∧ '@' ∉ host.toList :=
  ⟨free_of_class (host_chars isHost) (by decide), free_of_class (host_chars isHost) (by decide)⟩

theorem port_unmarked (port : Option UInt16) :
    '?' ∉ (portText port).toList ∧ '@' ∉ (portText port).toList := by
  constructor
  all_goals
    intro member
    obtain colon | digit := port_text_char member
    · exact absurd colon (by decide)
    · exact absurd digit (by decide)

theorem behind_scheme (written : DsnText) :
    written.text.toList.drop written.scheme.text.length =
      ((userinfoText written.userinfo).toList ++
        (written.host.toList ++ (portText written.port).toList)) ++
          (queryText written.query).toList := by
  rw [DsnText.text, String.toList_append, ← String.length_toList, List.drop_left]
  simp

theorem read_pieces {written : DsnText} (well : WellWritten written) :
    readUrl written.text =
      { hostStr := some (spelledHost written.scheme written.host.toList)
        port := if written.port = written.scheme.ownPort then none else written.port
        username := String.ofList (nameChars written.userinfo)
        password := if passChars written.userinfo = [] then none
          else some (String.ofList (passChars written.userinfo))
        queryPairs := formPairs (utf8 (written.query.getD "")) } := by
  have hostFree := host_unmarked well.host
  have portFree := port_unmarked written.port
  have placeFree : '@' ∉ written.host.toList ++ (portText written.port).toList := by
    simp [hostFree.2, portFree.2]
  have infoFree : '?' ∉ (userinfoText written.userinfo).toList :=
    userinfo_text_free well.userinfo (by decide) (by decide) (by decide)
  have authorityFree : '?' ∉ (userinfoText written.userinfo).toList ++
      (written.host.toList ++ (portText written.port).toList) := by
    simp [infoFree, hostFree.1, portFree.1]
  simp only [readUrl, scheme_read, behind_scheme, query_cut authorityFree,
    userinfo_cut well.userinfo placeFree, name_and_pass_cut well.userinfo, host_read well.host,
    List.drop_left, port_read, String.ofList_toList]

theorem pass_read (userinfo : Option Userinfo) :
    (if passChars userinfo = [] then none else some (String.ofList (passChars userinfo))) =
      (userinfo.bind Userinfo.pass).filter (· ≠ "") := by
  rw [passChars]
  cases userinfo.bind Userinfo.pass with
  | none => rfl
  | some pass =>
      rw [Option.getD_some, String.ofList_toList]
      by_cases empty : pass = ""
      · subst empty
        rfl
      · have chars : pass.toList ≠ [] := mt String.toList_eq_nil_iff.mp empty
        rw [if_neg chars, Option.filter_some]
        exact (if_pos (decide_eq_true empty)).symm

def parseDsnUrl (text : String) : Except String DsnUrl := .ok (readUrl text)

theorem reads_dsns : ReadsDsns parseDsnUrl := by
  intro written well _
  refine ⟨readUrl written.text, rfl, ?_⟩
  rw [read_pieces well]
  constructor
  · exact ⟨_, rfl, host_spelled well.host written.scheme⟩
  · rfl
  · exact String.ofList_toList
  · exact pass_read written.userinfo
  · rfl

end MultiProxy.DsnReader
