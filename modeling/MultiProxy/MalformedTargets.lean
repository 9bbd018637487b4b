import MultiProxy.PathDestination
import MultiProxy.RequestRuns

/-!
# How malformed targets are answered

A target is refused in four places: the prefix of the path, the CONNECT
authority, the URL and its host. Only the first of them answers the client; the
others end the service call in an error, and hyper drops the connection.
-/

namespace MultiProxy.MalformedTargets

open MultiProxy.UpstreamDsn MultiProxy.InteractionPrograms.Program MultiProxy.ChannelHealth
open MultiProxy.PathRequest MultiProxy.ProxyRequests MultiProxy.PathDestination
open MultiProxy.RequestRuns

set_option autoImplicit false

/-! ## Requests with a malformed target -/

def AsksHealth (request : ClientRequest) : Prop := request.uri.path = "/health"

instance (request : ClientRequest) : Decidable (AsksHealth request) :=
  inferInstanceAs (Decidable (_ = _))

/-- A CONNECT request with an authority. Every other one names its target in the path. -/
def AsksTunnel (request : ClientRequest) : Prop :=
  request.method = "CONNECT" ∧ request.uri.authority.getD "" ≠ ""

instance (request : ClientRequest) : Decidable (AsksTunnel request) :=
  inferInstanceAs (Decidable (_ ∧ _))

def Prefixed (path : String) : Prop :=
  ∃ isHttps behind, path = "/" ++ (schemeText isHttps ++ behind)

/-- A URL of one of the two schemes that parses and has a host. -/
def NamesTarget (parseUrl : String → Except String Url) (path : String) : Prop :=
  ∃ isHttps behind parsed host, path = "/" ++ (schemeText isHttps ++ behind) ∧
    parseUrl (schemeText isHttps ++ behind) = .ok parsed ∧ parsed.hostStr = some host

inductive Malformed (service : Service) (request : ClientRequest) : Prop where
  | authority (notHealth : ¬ AsksHealth request) (tunnel : AsksTunnel request)
      (refused : ∀ host port,
        parseAuthority (request.uri.authority.getD "") ≠ .ok (host, port))
  | path (notHealth : ¬ AsksHealth request) (forward : ¬ AsksTunnel request)
      (refused : ¬ NamesTarget service.parseUrl request.uri.path)

/-- The request is answered with 400 whatever surrounds it, and the channels are
left as they are. -/
structure Rejected (service : Service) (request : ClientRequest) : Prop where
  answered : ∀ (around : Surroundings) (world : World), ∃ contentType message,
    (runAlone around (handleRequest service request) world).1 =
      some (.ok (.fixed 400 contentType message))
  unchanged : ∀ (around : Surroundings) (world : World),
    (runAlone around (handleRequest service request) world).2.channels = world.channels

/-! ## What a refused target ends in -/

theorem starts_with_iff (text front : String) :
    startsWith text front = true ↔ ∃ behind, text = front ++ behind := by
  rw [startsWith, List.isPrefixOf_iff_prefix]
  constructor
  · rintro ⟨behind, same⟩
    refine ⟨String.ofList behind, ?_⟩
    rw [← String.toList_inj, String.toList_append, String.toList_ofList, same]
  · rintro ⟨behind, rfl⟩
    rw [String.toList_append]
    exact List.prefix_append _ _

theorem prefixed_iff (path : String) :
    Prefixed path ↔ startsWith path "/http://" = true ∨ startsWith path "/https://" = true := by
  have http : ∀ behind : String, "/" ++ ("http://" ++ behind) = "/http://" ++ behind :=
    fun behind => (String.append_assoc).symm
  have https : ∀ behind : String, "/" ++ ("https://" ++ behind) = "/https://" ++ behind :=
    fun behind => (String.append_assoc).symm
  rw [starts_with_iff, starts_with_iff]
  constructor
  · rintro ⟨isHttps, behind, rfl⟩
    cases isHttps with
    | false => exact Or.inl ⟨behind, http behind⟩
    | true => exact Or.inr ⟨behind, https behind⟩
  · rintro (⟨behind, rfl⟩ | ⟨behind, rfl⟩)
    · exact ⟨false, behind, (http behind).symm⟩
    · exact ⟨true, behind, (https behind).symm⟩

theorem path_target_of_no_prefix (parseUrl : String → Except String Url) {uri : Uri}
    (noPrefix : ¬ Prefixed uri.path) :
    ∃ message, pathTarget parseUrl uri = .error (.badRequest message) := by
  simp only [prefixed_iff, not_or, Bool.not_eq_true] at noPrefix
  have refused : parsePathTarget uri.path = .error
      "Invalid path format. Expected /https://target.com or CONNECT host:port HTTP/1.1" := by
    simp only [parsePathTarget, noPrefix.1, noPrefix.2, Bool.not_false, Bool.and_self, if_true]
  rw [pathTarget, refused]
  exact ⟨_, rfl⟩

theorem path_target_of_no_host {parseUrl : String → Except String Url} {uri : Uri}
    (prefixed : Prefixed uri.path) (refused : ¬ NamesTarget parseUrl uri.path) :
    ∃ message, pathTarget parseUrl uri = .error (.invalidInput message) := by
  obtain ⟨isHttps, behind, path⟩ := prefixed
  have scheme : (!startsWith (schemeText isHttps ++ behind) "http://" &&
      !startsWith (schemeText isHttps ++ behind) "https://") = false := by
    cases isHttps with
    | false => simp [schemeText, starts_with_append]
    | true => simp [schemeText, starts_with_append]
  simp only [pathTarget, path, path_target_parsed, scheme, Bool.false_eq_true, if_false]
  cases parses : parseUrl (schemeText isHttps ++ behind) with
  | error message => exact ⟨message, rfl⟩
  | ok parsed =>
      simp only
      split
      · exact ⟨_, rfl⟩
      · rename_i host named
        exact absurd ⟨isHttps, behind, parsed, host, path, parses, named⟩ refused

theorem forward_without_prefix (service : Service) {request : ClientRequest}
    (noPrefix : ¬ Prefixed request.uri.path) :
    ∃ message, handlePathForward service request = pure (.ok (errorResponse 400 message)) := by
  obtain ⟨message, refused⟩ := path_target_of_no_prefix service.parseUrl noPrefix
  rw [handlePathForward, refused]
  exact ⟨message, rfl⟩

theorem forward_without_host {service : Service} {request : ClientRequest}
    (prefixed : Prefixed request.uri.path)
    (refused : ¬ NamesTarget service.parseUrl request.uri.path) :
    ∃ message, handlePathForward service request = pure (.error message) := by
  obtain ⟨message, unanswered⟩ := path_target_of_no_host prefixed refused
  rw [handlePathForward, unanswered]
  exact ⟨message, rfl⟩

section Dispatch

variable (service : Service) {request : ClientRequest}

theorem tunnel_refused (notHealth : ¬ AsksHealth request) (tunnel : AsksTunnel request)
    (refused : ∀ host port, parseAuthority (request.uri.authority.getD "") ≠ .ok (host, port)) :
    ∃ message, handleRequest service request = pure (.error message) := by
  rw [handle_request_tunnels service notHealth tunnel]
  cases parsed : parseAuthority (request.uri.authority.getD "") with
  | error message => exact ⟨message, rfl⟩
  | ok found => exact absurd parsed (refused found.1 found.2)

variable {service}

theorem error_not_rejected {message : String}
    (ended : handleRequest service request = pure (.error message)) :
    ¬ Rejected service request := by
  intro rejected
  obtain ⟨contentType, body, answered⟩ :=
    rejected.answered cutSurroundings (World.initial [])
  rw [ended] at answered
  cases answered

theorem answer_is_rejected {message : String}
    (ended : handleRequest service request = pure (.ok (errorResponse 400 message))) :
    Rejected service request := by
  constructor
  · intro around world
    rw [ended]
    exact ⟨"text/plain", message, rfl⟩
  · intro around world
    rw [ended]
    rfl

/-- A malformed request is answered with 400 exactly when it is not a CONNECT
request with an authority and its path lacks the prefix of a target. -/
theorem malformed_rejected_iff (malformed : Malformed service request) :
    Rejected service request ↔ ¬ AsksTunnel request ∧ ¬ Prefixed request.uri.path := by
  cases malformed with
  | authority notHealth tunnel refused =>
      obtain ⟨message, ended⟩ := tunnel_refused service notHealth tunnel refused
      apply iff_of_false (error_not_rejected ended)
      intro both
      exact both.1 tunnel
  | path notHealth forward refused =>
      have dispatched := handle_request_forwards service notHealth forward
      by_cases prefixed : Prefixed request.uri.path
      · obtain ⟨message, ended⟩ := forward_without_host prefixed refused
        apply iff_of_false (error_not_rejected (dispatched.trans ended))
        intro both
        exact both.2 prefixed
      · obtain ⟨message, ended⟩ := forward_without_prefix service prefixed
        exact iff_of_true (answer_is_rejected (dispatched.trans ended)) ⟨forward, prefixed⟩

end Dispatch

theorem names_target_is_prefixed {parseUrl : String → Except String Url} {path : String}
    (named : NamesTarget parseUrl path) : Prefixed path := by
  obtain ⟨isHttps, behind, _, _, same, _⟩ := named
  exact ⟨isHttps, behind, same⟩

theorem root_not_prefixed : ¬ Prefixed "/" := by
  rw [prefixed_iff]
  decide

/-- `GET /` is told the format that is expected. -/
theorem get_root_is_rejected : Rejected exampleService (getRequest "/") :=
  (malformed_rejected_iff (.path (by decide) (by decide)
    (fun named => root_not_prefixed (names_target_is_prefixed named)))).mpr
    ⟨by decide, root_not_prefixed⟩

def connectWithoutPort : ClientRequest where
  method := "CONNECT"
  uri := { authority := some "example.com", path := "", query := none }
  headers := []
  body := .ok []
  method_unbroken := connect_unbroken
  headers_well_formed := no_headers_well_formed

/-- The connection is dropped instead of answered. -/
theorem authority_without_port_is_not_rejected :
    Malformed exampleService connectWithoutPort ∧
      ¬ Rejected exampleService connectWithoutPort := by
  have refused : ∀ host port, parseAuthority (connectWithoutPort.uri.authority.getD "") ≠
      .ok (host, port) := by
    intro host port parsed
    cases parsed
  have notHealth : ¬ AsksHealth connectWithoutPort := by
    intro health
    exact absurd health (by decide)
  have tunnel : AsksTunnel connectWithoutPort := by decide
  obtain ⟨message, ended⟩ := tunnel_refused exampleService notHealth tunnel refused
  exact ⟨.authority notHealth tunnel refused, error_not_rejected ended⟩

end MultiProxy.MalformedTargets
