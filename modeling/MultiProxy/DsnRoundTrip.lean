import MultiProxy.DsnReader

/-!
# What is written in a DSN comes back

DSNs are written with a key path and a keepalive in their query, and parsed. The
port is the one thing that may be lost: where an `http` DSN names port 80, the
URL has none and the channel gets port 8080.
-/

namespace MultiProxy.DsnRoundTrip

open MultiProxy.RustRuntime MultiProxy.LossyText MultiProxy.PercentCoding MultiProxy.HostTexts
open MultiProxy.UpstreamDsn MultiProxy.DsnParsing MultiProxy.DsnReader

set_option autoImplicit false

/-! ## DSNs and their texts -/

/-- A DSN as someone means to write it. Only `ssh` has the last two. -/
structure WrittenDsn where
  scheme : Scheme
  userinfo : Option Userinfo
  host : String
  port : Option UInt16
  keyPath : Option String
  keepalive : Option UInt64

def keyPiece (keep : UInt8 → Bool) (path : String) : String := "key=" ++ encodeText keep path

def keepalivePiece (secs : UInt64) : String := s!"keepalive={secs}"

def sshQuery (keep : UInt8 → Bool) : Option String → Option UInt64 → Option String
  | none, none => none
  | some path, none => some (keyPiece keep path)
  | none, some secs => some (keepalivePiece secs)
  | some path, some secs => some (keyPiece keep path ++ "&" ++ keepalivePiece secs)

namespace WrittenDsn

def pieces (keep : UInt8 → Bool) (written : WrittenDsn) : DsnText where
  scheme := written.scheme
  userinfo := written.userinfo
  host := written.host
  port := written.port
  query := if written.scheme = .ssh then sshQuery keep written.keyPath written.keepalive else none

/-- The text of the DSN, with the key path percent-encoded. -/
def text (keep : UInt8 → Bool) (written : WrittenDsn) : String := (written.pieces keep).text

structure Legal (written : WrittenDsn) : Prop where
  userinfo : ∀ info, written.userinfo = some info → WellFormed info
  host : Host written.host
  lower : written.host.toList.head? ≠ some '[' →
    ∀ character ∈ written.host.toList, character.isUpper = false

/-- The DSN is the one that was meant. The host may be spelled another way only
where it is an IPv6 literal. -/
def Recovers (written : WrittenDsn) : Dsn → Prop
  | .http dsn => written.scheme = .http ∧ Spelled false written.host dsn.host ∧
      dsn.port = written.port.getD 8080
  | .socks5 dsn => written.scheme = .socks5 ∧ Spelled false written.host dsn.host ∧
      dsn.port = written.port.getD 1080
  | .ssh dsn => written.scheme = .ssh ∧ Spelled false written.host dsn.host ∧
      dsn.port = written.port.getD 22 ∧ dsn.keyPath = written.keyPath ∧
      dsn.keepalive = written.keepalive.getD 30

end WrittenDsn

/-- An encoder of query values: it escapes what would structure the query. -/
structure QueryCoding (keep : UInt8 → Bool) : Prop where
  chars : ∀ byte, keep byte = true → isQueryChar (Char.ofNat byte.toNat) = true
  sign : keep 0x25 = false
  ampersand : keep 0x26 = false
  plus : keep 0x2B = false

theorem QueryCoding.keepsVisible {keep : UInt8 → Bool} (coding : QueryCoding keep) :
    KeepsVisible keep where
  visible := by
    intro byte kept
    have range := of_decide_eq_true (Bool.and_eq_true_iff.mp (coding.chars byte kept)).1
    rw [ascii_char_code] at range
    exact range
  escapes := coding.sign

theorem alphanumeric_query_char {character : Char} (alphanumeric : character.isAlphanum = true) :
    isQueryChar character = true := by
  have marks : ∀ mark ∈ "\"#'<>".toList, mark.isAlphanum = false := by decide
  have unmarked : character ∉ "\"#'<>".toList := by
    intro member
    rw [marks character member] at alphanumeric
    cases alphanumeric
  rw [isQueryChar, decide_eq_true (alphanumeric_visible alphanumeric), decide_eq_true unmarked]
  rfl

theorem decimal_bytes (number : Nat) {byte : UInt8} (mark : Char) (code : mark.toNat = byte.toNat)
    (low : byte < 0x80) (other : mark.isDigit = false) : byte ∉ utf8 (Nat.repr number) := by
  intro member
  have digit := decimal_digit (low_char_of_utf8 code low member)
  rw [other] at digit
  cases digit

section Query

variable {keep : UInt8 → Bool} (coding : QueryCoding keep)

theorem keepalive_piece_text (secs : UInt64) :
    keepalivePiece secs = "keepalive" ++ "=" ++ Nat.repr secs.toNat := rfl

theorem keepalive_piece_bytes (secs : UInt64) :
    utf8 (keepalivePiece secs) = utf8 "keepalive" ++ 0x3D :: utf8 (Nat.repr secs.toNat) := by
  have equals : utf8 "=" = [0x3D] := by decide
  rw [keepalive_piece_text, utf8_append, utf8_append, equals]
  simp

theorem keepalive_pair (secs : UInt64) :
    formPair (utf8 (keepalivePiece secs)) = ("keepalive", Nat.repr secs.toNat) := by
  have name : decodeComponent (utf8 "keepalive") = "keepalive" :=
    decode_component_plain (by decide) (by decide)
  have noSign : (0x25 : UInt8) ∉ utf8 (Nat.repr secs.toNat) :=
    decimal_bytes _ '%' (by decide) (by decide) (by decide)
  have noPlus : (0x2B : UInt8) ∉ utf8 (Nat.repr secs.toNat) :=
    decimal_bytes _ '+' (by decide) (by decide) (by decide)
  have value := decode_component_plain noSign noPlus
  rw [keepalive_piece_bytes, form_pair_split (by decide), name, value]

theorem keepalive_piece_whole (secs : UInt64) :
    (0x26 : UInt8) ∉ utf8 (keepalivePiece secs) ∧ utf8 (keepalivePiece secs) ≠ [] := by
  have name : (0x26 : UInt8) ∉ utf8 "keepalive" := by decide
  have value : (0x26 : UInt8) ∉ utf8 (Nat.repr secs.toNat) :=
    decimal_bytes _ '&' (by decide) (by decide) (by decide)
  rw [keepalive_piece_bytes]
  constructor
  · simp [name, value]
  · simp

include coding

theorem key_piece_bytes (path : String) :
    utf8 (keyPiece keep path) = utf8 "key" ++ 0x3D :: percentEncode keep (utf8 path) := by
  have name : utf8 "key=" = utf8 "key" ++ [0x3D] := by decide
  rw [keyPiece, utf8_append, utf8_encode_text coding.keepsVisible, name]
  simp

theorem key_pair (path : String) : formPair (utf8 (keyPiece keep path)) = ("key", path) := by
  have name : decodeComponent (utf8 "key") = "key" :=
    decode_component_plain (by decide) (by decide)
  rw [key_piece_bytes coding, form_pair_split (by decide), name,
    decode_component_encoded coding.sign coding.plus]

theorem key_piece_whole (path : String) :
    (0x26 : UInt8) ∉ utf8 (keyPiece keep path) ∧ utf8 (keyPiece keep path) ≠ [] := by
  have name : (0x26 : UInt8) ∉ utf8 "key" := by decide
  have value : (0x26 : UInt8) ∉ percentEncode keep (utf8 path) := by
    intro member
    obtain kept | other := encoded_byte member
    · rw [coding.ampersand] at kept
      cases kept
    · exact absurd other (by decide)
  rw [key_piece_bytes coding]
  constructor
  · simp [name, value]
  · simp

theorem ssh_query_pairs (keyPath : Option String) (keepalive : Option UInt64) :
    formPairs (utf8 ((sshQuery keep keyPath keepalive).getD "")) =
      keyPath.toList.map (fun path => ("key", path)) ++
        keepalive.toList.map fun secs => ("keepalive", Nat.repr secs.toNat) := by
  cases keyPath with
  | none =>
      cases keepalive with
      | none => rfl
      | some secs =>
          have joined : formPairs ([0x26].intercalate [utf8 (keepalivePiece secs)]) =
              [formPair (utf8 (keepalivePiece secs))] :=
            form_pairs_joined (by simp) (by simpa using keepalive_piece_whole secs)
          rw [keepalive_pair] at joined
          simpa [sshQuery] using joined
  | some path =>
      cases keepalive with
      | none =>
          have joined : formPairs ([0x26].intercalate [utf8 (keyPiece keep path)]) =
              [formPair (utf8 (keyPiece keep path))] :=
            form_pairs_joined (by simp) (by simpa using key_piece_whole coding path)
          rw [key_pair coding] at joined
          simpa [sshQuery] using joined
      | some secs =>
          have ampersand : utf8 "&" = [0x26] := by decide
          have joined : formPairs ([0x26].intercalate
              [utf8 (keyPiece keep path), utf8 (keepalivePiece secs)]) =
                [formPair (utf8 (keyPiece keep path)), formPair (utf8 (keepalivePiece secs))] :=
            form_pairs_joined (by simp)
              (by simpa using And.intro (key_piece_whole coding path) (keepalive_piece_whole secs))
          rw [key_pair coding, keepalive_pair] at joined
          simpa [sshQuery, ampersand] using joined

theorem key_piece_chars (path : String) :
    ∀ character ∈ (keyPiece keep path).toList, isQueryChar character = true := by
  intro character member
  have name : ∀ letter ∈ "key=".toList, isQueryChar letter = true := by decide
  have encoded := encoded_text_allowed coding.chars (by decide)
    (fun _ alphanumeric => alphanumeric_query_char alphanumeric) path
  rw [keyPiece, String.toList_append] at member
  obtain inName | inPath := List.mem_append.mp member
  · exact name character inName
  · exact encoded character inPath

omit coding in
theorem keepalive_piece_chars (secs : UInt64) :
    ∀ character ∈ (keepalivePiece secs).toList, isQueryChar character = true := by
  intro character member
  have name : ∀ letter ∈ ("keepalive" ++ "=").toList, isQueryChar letter = true := by decide
  rw [keepalive_piece_text, String.toList_append] at member
  obtain inName | digit := List.mem_append.mp member
  · exact name character inName
  · exact alphanumeric_query_char (by simp [Char.isAlphanum, decimal_digit digit])

theorem ssh_query_chars {keyPath : Option String} {keepalive : Option UInt64} {query : String}
    (same : sshQuery keep keyPath keepalive = some query) :
    ∀ character ∈ query.toList, isQueryChar character = true := by
  intro character member
  cases keyPath with
  | none =>
      cases keepalive with
      | none => cases same
      | some secs =>
          cases same
          exact keepalive_piece_chars secs character member
  | some path =>
      cases keepalive with
      | none =>
          cases same
          exact key_piece_chars coding path character member
      | some secs =>
          cases same
          rw [String.toList_append, String.toList_append] at member
          obtain inFront | inBack := List.mem_append.mp member
          · obtain inKey | ampersand := List.mem_append.mp inFront
            · exact key_piece_chars coding path character inKey
            · rw [List.mem_singleton.mp ampersand]
              decide
          · exact keepalive_piece_chars secs character inBack

theorem pieces_well_written {written : WrittenDsn} (legal : written.Legal) :
    WellWritten (written.pieces keep) where
  userinfo := legal.userinfo
  host := legal.host
  query := by
    intro query same
    simp only [WrittenDsn.pieces] at same
    split at same
    · exact ssh_query_chars coding same
    · cases same

end Query

theorem written_values {url : DsnUrl} {keyPath : Option String} {keepalive : Option UInt64}
    (pairs : url.queryPairs = keyPath.toList.map (fun path => ("key", path)) ++
      keepalive.toList.map fun secs => ("keepalive", Nat.repr secs.toNat)) :
    queryValue url "key" = keyPath ∧
      queryValue url "keepalive" = keepalive.map fun secs => Nat.repr secs.toNat := by
  unfold queryValue
  rw [pairs]
  cases keyPath with
  | none => cases keepalive <;> simp
  | some path => cases keepalive <;> simp

/-- For a name in lower case the scheme makes no difference to the spelling. -/
theorem spelled_without_case {special : Bool} {text spelling : String}
    (lower : text.toList.head? ≠ some '[' → ∀ character ∈ text.toList, character.isUpper = false)
    (spelled : Spelled special text spelling) : Spelled false text spelling := by
  cases spelled with
  | domain isName =>
      have same : (if special then lowered text else text) = text := by
        rw [(lowered_iff text).mpr (lower (name_has_no_bracket isName)), ite_self]
      rw [same]
      exact .domain isName
  | ipv4 first second third fourth => exact .ipv4 first second third fourth
  | ipv6 denotes same => exact .ipv6 denotes same

section Recovery

variable {parseUrl : String → Except String DsnUrl} (crate : ReadsDsns parseUrl)
  {keep : UInt8 → Bool} (coding : QueryCoding keep) {written : WrittenDsn} (legal : written.Legal)
  (accepted : written.scheme = .http → hasAceLabel written.host = true →
    ∃ url, parseUrl (written.text keep) = .ok url)

include crate coding legal accepted

theorem written_dsn_read :
    ∃ url host, fromStr parseUrl (written.text keep) = .ok (dsnOf written.scheme url host) ∧
      ReadAs (written.pieces keep) url ∧ Spelled false written.host host := by
  have well := pieces_well_written coding legal
  obtain ⟨url, parses, read⟩ := crate (written.pieces keep) well accepted
  obtain ⟨host, named, spelled⟩ := read.host
  exact ⟨url, host, from_str_ok (text_visible well) parses named, read,
    spelled_without_case legal.lower spelled⟩

/-- A DSN that was written is recovered, except where an `http` DSN names port 80. -/
theorem dsn_recovered_iff :
    (∃ dsn, fromStr parseUrl (written.text keep) = .ok dsn ∧ written.Recovers dsn) ↔
      ¬ (written.scheme = .http ∧ written.port = some 80) := by
  obtain ⟨url, host, parsed, read, spelled⟩ := written_dsn_read crate coding legal accepted
  rw [exists_parsed_iff parsed]
  cases scheme : written.scheme with
  | http =>
      have port : url.port = if written.port = some 80 then none else written.port := by
        simpa [WrittenDsn.pieces, scheme, Scheme.ownPort] using read.port
      by_cases own : written.port = some 80
      · simp [dsnOf, WrittenDsn.Recovers, scheme, spelled, port, own]
      · simp [dsnOf, WrittenDsn.Recovers, scheme, spelled, port, own]
  | socks5 =>
      have ownPort : (written.pieces keep).scheme.ownPort = none := by
        rw [WrittenDsn.pieces, scheme]
        rfl
      have port : url.port = written.port := read.port_kept ownPort
      simp [dsnOf, WrittenDsn.Recovers, scheme, spelled, port]
  | ssh =>
      have ownPort : (written.pieces keep).scheme.ownPort = none := by
        rw [WrittenDsn.pieces, scheme]
        rfl
      have port : url.port = written.port := read.port_kept ownPort
      have query : (written.pieces keep).query =
          sshQuery keep written.keyPath written.keepalive := by
        rw [WrittenDsn.pieces, if_pos scheme]
      have pairs := read.pairs
      rw [query, ssh_query_pairs coding] at pairs
      have values := written_values pairs
      have keepalive : ((queryValue url "keepalive").bind fun v => parseU64 v.toList) =
          written.keepalive := by
        rw [values.2]
        cases written.keepalive with
        | none => rfl
        | some secs => exact parse_u64_repr secs
      simp [dsnOf, WrittenDsn.Recovers, scheme, spelled, port, values.1, keepalive]

end Recovery

theorem alphanumeric_coding : QueryCoding keepAlphanumeric where
  chars := fun _ kept => alphanumeric_query_char kept
  sign := by decide
  ampersand := by decide
  plus := by decide

def officeTunnel : WrittenDsn where
  scheme := .ssh
  userinfo := some ⟨"root", none⟩
  host := "host"
  port := none
  keyPath := some "~/.ssh/id_rsa"
  keepalive := some 20

theorem office_tunnel_legal : officeTunnel.Legal where
  userinfo := by
    intro info same
    cases same
    refine ⟨by decide, by decide, ?_⟩
    intro pass given
    cases given
  host := .domain ⟨by decide, by decide, by decide⟩
  lower := fun _ => by decide

example : officeTunnel.text keepAlphanumeric =
    "ssh://root@host?key=%7E%2F%2Essh%2Fid%5Frsa&keepalive=20" := by decide

theorem office_tunnel_recovered :
    ∃ dsn, fromStr parseDsnUrl (officeTunnel.text keepAlphanumeric) = .ok dsn ∧
      officeTunnel.Recovers dsn := by
  have notHttp : officeTunnel.scheme ≠ .http := by decide
  exact (dsn_recovered_iff reads_dsns alphanumeric_coding office_tunnel_legal
    (fun http => absurd http notHttp)).mpr fun own => notHttp own.1

def webProxy : WrittenDsn where
  scheme := .http
  userinfo := none
  host := "proxy"
  port := some 80
  keyPath := none
  keepalive := none

theorem web_proxy_legal : webProxy.Legal where
  userinfo := by
    intro info same
    cases same
  host := .domain ⟨by decide, by decide, by decide⟩
  lower := fun _ => by decide

/-- Port 80 is written, and the channel gets port 8080. -/
theorem written_port_replaced :
    webProxy.Legal ∧ webProxy.text keepAlphanumeric = "http://proxy:80" ∧
      fromStr parseDsnUrl "http://proxy:80" =
        .ok (.http { host := "proxy", port := 8080, user := none, pass := none }) ∧
      ¬ ∃ dsn, fromStr parseDsnUrl (webProxy.text keepAlphanumeric) = .ok dsn ∧
        webProxy.Recovers dsn := by
  have text : webProxy.text keepAlphanumeric = "http://proxy:80" := by decide
  have parsed : fromStr parseDsnUrl "http://proxy:80" =
      .ok (.http { host := "proxy", port := 8080, user := none, pass := none }) := by decide
  refine ⟨web_proxy_legal, text, parsed, ?_⟩
  rintro ⟨dsn, same, recovers⟩
  rw [text, parsed] at same
  cases same
  exact absurd recovers.2.2 (by decide)

end MultiProxy.DsnRoundTrip
