import TokenGate.Http.Message
import TokenGate.Json.Basic
/-!
Traces of requests: each request has a span, and one that names where it comes from follows the
span of its parent.
-/
namespace TokenGate.Http

structure Span where
  name : String
  fields : List (String × Json)
  deriving Repr

/-- The spans of a request in the order in which they begin, and which of them follows which. -/
structure Trace where
  spans : List Span
  follows : List (String × String)
  deriving Repr

/-- Whether a request asks for a WebSocket connection. -/
def isUpgrade (h : Headers) : Bool :=
  match (h.get? "upgrade").bind valueText? with
  | some s => lower s = "websocket"
  | none => false

/-- The identifiers of the trace and of the parent that a request names:
`version-trace-parent-flags`. -/
def parentOf? (h : Headers) : Option (String × String) := do
  let text ← valueText? (← h.get? "traceparent")
  match text.toList.splitOn '-' with
  | [_, trace, parent, _] => some (String.ofList trace, String.ofList parent)
  | _ => none

/-- The trace of a request on a listener that was answered with a status. -/
def trace (listener : String) (request : Request) (status : Nat) : Trace :=
  let span : Span := ⟨"api_request", [
    ("listener", .str listener),
    ("http.method", .str request.method),
    ("http.target", .str request.path),
    ("upgrade", .bool (isUpgrade request.headers)),
    ("http.status", Json.ofInt status)]⟩
  match parentOf? request.headers with
  | none => ⟨[span], []⟩
  | some (traceId, parentId) =>
    let parent : Span := ⟨"parent_trace", [
      ("trace_id", .str traceId), ("parent_span_id", .str parentId)]⟩
    ⟨[span, parent], [(span.name, parent.name)]⟩

end TokenGate.Http
