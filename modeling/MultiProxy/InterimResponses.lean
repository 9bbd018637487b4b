import MultiProxy.SegmentedResponses

/-!
# Interim responses before the final one

A client's `Expect: 100-continue` is sent on, so an upstream may answer with
interim heads before its response. `read_streaming_response` reads one head. What
is behind it, further heads included, is body to it.
-/

namespace MultiProxy.InterimResponses

open MultiProxy.RustRuntime MultiProxy.ByteScan MultiProxy.LossyText MultiProxy.MessageFraming
open MultiProxy.DuplexStream MultiProxy.DuplexStream.Exchange MultiProxy.StreamingResponse
open MultiProxy.RelayedBody MultiProxy.RelayedHeads MultiProxy.SegmentedResponses

set_option autoImplicit false

/-- A head that announces a later one. Switching protocols is not among them. -/
def Interim (head : ResponseHead) : Prop := head.code < 200 ∧ head.code ≠ 101

/-- What the upstream sends: interim heads, a head, and the bytes behind it. -/
def sentBytes : List ResponseHead → ResponseHead → List UInt8 → List UInt8
  | [], final, content => final.text ++ (blankLine ++ content)
  | interim :: interims, final, content =>
      interim.text ++ (blankLine ++ sentBytes interims final content)

def firstHead (interims : List ResponseHead) (final : ResponseHead) : ResponseHead :=
  interims.head?.getD final

def behindFirst : List ResponseHead → ResponseHead → List UInt8 → List UInt8
  | [], _, content => content
  | _ :: interims, final, content => sentBytes interims final content

theorem sent_bytes_first (interims : List ResponseHead) (final : ResponseHead)
    (content : List UInt8) :
    sentBytes interims final content =
      (firstHead interims final).text ++ (blankLine ++ behindFirst interims final content) := by
  cases interims with
  | nil => rfl
  | cons interim interims => rfl

/-- The response is the given head's, and its body yields these bytes and no others. -/
structure HandedOn (head : ResponseHead) (content : List UInt8) (response : Response) : Prop where
  status : response.status = head.code
  headers : response.headers = head.fields.filterMap relayedField
  body : ∃ frames, Yields response.body frames ∧ frames.flatten = content

theorem first_head_handed_on {types : HeaderTypes} (documented : types.AsDocumented)
    (head : ResponseHead) (behind : List UInt8) (stream : Duplex)
    (clean : EndsCleanly stream.incoming)
    (delivers : received stream.incoming = head.text ++ (blankLine ++ behind)) :
    (head.text.length + blankLine.length ≤ 65536 →
        ∃ response after, (readStreamingResponse types).run stream = (.ok response, after)) ∧
      ∀ response after, (readStreamingResponse types).run stream = (.ok response, after) →
        HandedOn head behind response := by
  apply sent_head_answered documented head.sent stream delivers
  intro leading rest whole restClean
  obtain ⟨frames, yields, joined, _⟩ :=
    new_body_yields leading { stream with incoming := rest } (restClean clean)
  exact ⟨head.status_code_kept, rfl, frames, yields, joined.trans whole⟩

/-- A response is the final one's exactly if no interim response came before it. -/
theorem final_response_iff_no_interim {types : HeaderTypes} (documented : types.AsDocumented)
    (interims : List ResponseHead) (final : ResponseHead) (content : List UInt8)
    (interim : ∀ head ∈ interims, Interim head) (isFinal : 200 ≤ final.code) (stream : Duplex)
    (clean : EndsCleanly stream.incoming)
    (delivers : received stream.incoming = sentBytes interims final content) :
    ((firstHead interims final).text.length + blankLine.length ≤ 65536 →
        ∃ response after, (readStreamingResponse types).run stream = (.ok response, after)) ∧
      ∀ response after, (readStreamingResponse types).run stream = (.ok response, after) →
        (HandedOn final content response ↔ interims = []) := by
  rw [sent_bytes_first] at delivers
  obtain ⟨answered, handed⟩ := first_head_handed_on documented _ _ stream clean delivers
  refine ⟨answered, ?_⟩
  intro response after ok
  have first := handed response after ok
  cases interims with
  | nil => exact ⟨fun _ => rfl, fun _ => first⟩
  | cons head others =>
      have early := (interim head (by simp)).1
      apply iff_of_false
      · intro whole
        have same : final.code = head.code := whole.status.symm.trans first.status
        rw [same] at isFinal
        exact absurd early (UInt16.not_lt.mpr isFinal)
      · simp

def bareHead (code : UInt16) (inRange : 100 ≤ code ∧ code ≤ 999) : ResponseHead where
  version := utf8 "HTTP/1.1"
  code := code
  reason := []
  fields := []
  version_visible := http_version_visible
  code_in_range := inRange
  reason_legal := by simp
  fields_sent := by simp

def continueHead : ResponseHead := bareHead 100 (by decide)

def earlyHintsHead : ResponseHead := bareHead 103 (by decide)

def createdHead : ResponseHead := bareHead 201 (by decide)

def sentAtOnce (bytes : List UInt8) : Duplex where
  incoming := [.data bytes]
  sent := []
  flushed := 0
  writes := []

/-- The client is answered with 100, and the final head is in the body. -/
theorem continue_taken_for_final :
    ∃ response after, (readStreamingResponse strictHeaders).run
        (sentAtOnce (sentBytes [continueHead] createdHead (utf8 "ok"))) = (.ok response, after) ∧
      response.status = 100 ∧
      (∃ frames, Yields response.body frames ∧
        frames.flatten = utf8 "HTTP/1.1 201 \r\n\r\nok") ∧
      ¬ HandedOn createdHead (utf8 "ok") response := by
  obtain ⟨answered, handed⟩ := first_head_handed_on strict_headers_documented continueHead
    (sentBytes [] createdHead (utf8 "ok"))
    (sentAtOnce (sentBytes [continueHead] createdHead (utf8 "ok"))) trivial (List.append_nil _)
  obtain ⟨response, after, ran⟩ := answered (by decide)
  have first := handed response after ran
  refine ⟨response, after, ran, first.status, ?_, ?_⟩
  · have content : sentBytes [] createdHead (utf8 "ok") = utf8 "HTTP/1.1 201 \r\n\r\nok" := by
      decide
    rw [← content]
    exact first.body
  · intro whole
    have same : createdHead.code = continueHead.code := whole.status.symm.trans first.status
    exact absurd same (by decide)

theorem created_behind_early_hints_is_lost :
    ∃ response after, (readStreamingResponse strictHeaders).run
        (sentAtOnce (sentBytes [earlyHintsHead] createdHead [])) = (.ok response, after) ∧
      ¬ HandedOn createdHead [] response := by
  obtain ⟨answered, same⟩ := final_response_iff_no_interim strict_headers_documented
    [earlyHintsHead] createdHead [] (by
      intro head member
      rw [List.mem_singleton] at member
      subst member
      exact ⟨by decide, by decide⟩)
    (by decide) (sentAtOnce (sentBytes [earlyHintsHead] createdHead [])) trivial (List.append_nil _)
  obtain ⟨response, after, ran⟩ := answered (by decide)
  refine ⟨response, after, ran, ?_⟩
  rw [same response after ran]
  simp

end MultiProxy.InterimResponses
