import TokenGate.Client.Endpoint
import TokenGate.Node.Basic
import TokenGate.Proofs.Http.Authority
/-!
The endpoints of a node, as clients read them: the scheme says how calls are carried, and the path
is the one under which the node serves them.
-/
namespace TokenGate

open Client (Carrier)
open Net (SocketAddr)

namespace Client

/-- The scheme of endpoints over which calls are carried in the clear. -/
def Carrier.scheme : Carrier → String
  | .http => "http"
  | .websocket => "ws"

/-- The endpoint of an address. -/
def endpointOf (c : Carrier) (a : SocketAddr) : String := s!"{c.scheme}://{a.text}"

theorem toList_endpointOf (c : Carrier) (a : SocketAddr) :
    (endpointOf c a).toList = c.scheme.toList ++ ':' :: '/' :: '/' :: a.text.toList := by
  have hs : "://".toList = [':', '/', '/'] := rfl
  have hi (s : String) : toString s = s := rfl
  simp only [endpointOf, String.toList_append, hs, hi, List.append_assoc, List.cons_append,
    List.nil_append]

theorem splitScheme_endpointOf (c : Carrier) (a : SocketAddr) :
    splitScheme (endpointOf c a) = some (c.scheme, a.text) := by
  have hr : Http.afterScheme? (c.scheme.toList ++ ':' :: '/' :: '/' :: a.text.toList) =
      some a.text.toList := by
    cases c <;> rfl
  have hl : (c.scheme.toList ++ ':' :: '/' :: '/' :: a.text.toList).length -
      a.text.toList.length - 3 = c.scheme.toList.length := by
    simp only [List.length_append, List.length_cons]
    omega
  simp only [splitScheme, toList_endpointOf, hr, Option.map_some, hl, List.take_left,
    String.ofList_toList]

theorem utf8ByteSize_ofList_le (cs : List Char) :
    (String.ofList cs).utf8ByteSize ≤ 4 * cs.length := by
  induction cs with
  | nil => exact Nat.le_refl 0
  | cons c cs ih =>
    have hc := c.utf8Size_le_four
    rw [String.ofList_cons, String.utf8ByteSize_append, String.utf8ByteSize_singleton,
      List.length_cons]
    omega

theorem parse_endpointOf (c : Carrier) (a : SocketAddr) :
    Endpoint.parse (endpointOf c a) = .ok ⟨c, "/", true⟩ := by
  cases c with
  | http =>
    obtain ⟨host, hu⟩ := Http.Url.parse_text a
    have hc : carrier? (Carrier.scheme .http) = some .http := by decide
    simp only [Endpoint.parse, splitScheme_endpointOf, hc, hu]
  | websocket =>
    have hc : carrier? (Carrier.scheme .websocket) = some .websocket := by decide
    have hl : (endpointOf .websocket a).utf8ByteSize ≤ Http.Uri.maxLength := by
      have hs := utf8ByteSize_ofList_le (endpointOf .websocket a).toList
      have ha := a.length_text
      have hw : (Carrier.scheme .websocket).toList.length = 2 := rfl
      rw [String.ofList_toList, toList_endpointOf, List.length_append, hw] at hs
      simp only [List.length_cons] at hs
      simp only [Http.Uri.maxLength]
      omega
    simp only [Endpoint.parse, splitScheme_endpointOf, hc, Http.Uri.parse_text a hl]
    rfl

end Client

variable {n : Node} {l : Listener} {c : Carrier} {endpoint : String}

/-- An endpoint that a node gives for a listener is read as one of this listener. -/
theorem Node.endpoint_eq_ok (h : n.endpoint l c.scheme = .ok endpoint) :
    (n.address l).isOk ∧ Client.Endpoint.parse endpoint = .ok ⟨c, "/", true⟩ := by
  obtain ⟨a, ha, he⟩ := bind_eq_ok.1 h
  cases he
  rw [ha]
  exact ⟨rfl, Client.parse_endpointOf c a⟩

/-- A listener that is open has endpoints. -/
theorem Node.exists_endpoint (h : (n.address l).isOk) (scheme : String) :
    ∃ endpoint, n.endpoint l scheme = .ok endpoint := by
  obtain ⟨a, ha⟩ := exists_eq_ok h
  refine ⟨s!"{scheme}://{a.text}", ?_⟩
  rw [Node.endpoint, ha]
  rfl

end TokenGate
