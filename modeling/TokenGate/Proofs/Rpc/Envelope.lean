import TokenGate.Proofs.Json.Decoder
import TokenGate.Proofs.Json.Extent
import TokenGate.Rpc.Envelope
/-!
Errors and responses, there and back. The decoder of errors gives an error back from its value, and
responses keep their ids in their texts, whatever becomes of results and data that nest too deep.
-/
namespace TokenGate.Rpc

open Json (Plain ReadsAs)

/-- An error without data that are null. -/
def Error.withoutNull (e : Error) : Error :=
  match e.data with
  | some .null => { e with data := none }
  | _ => e

theorem Error.toValue_eq (e : Error) :
    e.toValue = .obj (("code", Json.ofInt e.code.toInt) :: match e.data with
      | none => [("message", .str e.message)]
      | some d => [("data", d), ("message", .str e.message)]) := by
  obtain ⟨code, message, data⟩ := e
  cases data with
  | none => rfl
  | some d => rfl

namespace Error

open Json.Decoder (fieldFromMember fieldFromMember_of)

variable (e : Error)

theorem code_fromValue (code : Int32) :
    (Json.Decoder.integer "i32" (-0x8000_0000) (0x8000_0000 - 1)).fromValue
      (Json.ofInt code.toInt) = .ok code.toInt := by
  have hl := Int32.le_toInt code
  have hu := Int32.toInt_lt code
  rw [Json.ofInt_eq_num (Json.int32_inRange code)]
  exact if_pos (by omega)

theorem code_fromMember (code : Int32) :
    fieldFromMember fields e ("code", Json.ofInt code.toInt) = .ok { e with code } := by
  have hf : fields.find? (·.key = "code") = some (.of "code" .required _ _) := rfl
  rw [fieldFromMember_of hf (code_fromValue code), Int32.ofInt_toInt]

theorem message_fromMember (message : String) :
    fieldFromMember fields e ("message", .str message) = .ok { e with message } := rfl

theorem data_fromMember (d : Json) :
    fieldFromMember fields e ("data", d) =
      .ok { e with data := if d matches .null then none else some d } := by
  cases d <;> rfl

/-- The decoder gives an error back from its value, but for data that are null. -/
theorem fromValue_toValue : decoder.fromValue e.toValue = .ok e.withoutNull := by
  obtain ⟨code, message, data⟩ := e
  rw [toValue_eq]
  cases data with
  | none =>
    simp only [decoder, Json.Decoder.record, List.foldlM_cons, List.foldlM_nil, code_fromMember,
      message_fromMember, bind, Except.bind, pure, Except.pure]
    rfl
  | some d =>
    simp only [decoder, Json.Decoder.record, List.foldlM_cons, List.foldlM_nil, code_fromMember,
      message_fromMember, data_fromMember, bind, Except.bind, pure, Except.pure]
    cases d <;> rfl

theorem plain_toValue (h : ∀ d ∈ e.data, Plain n d) : Plain (n + 1) e.toValue := by
  obtain ⟨code, message, data⟩ := e
  rw [toValue_eq, Json.ofInt_eq_num (Json.int32_inRange code)]
  cases data with
  | none =>
    refine .obj (by simp only [Json.Ascending, List.pairwise_cons, List.forall_mem_cons]; decide) ?_
    simp only [List.forall_mem_cons]
    exact ⟨.int, .str, List.forall_mem_nil _⟩
  | some d =>
    refine .obj (by simp only [Json.Ascending, List.pairwise_cons, List.forall_mem_cons]; decide) ?_
    simp only [List.forall_mem_cons]
    exact ⟨.int, h d rfl, .str, List.forall_mem_nil _⟩

end Error

variable {id result : Json} {e : Error}

theorem ascending_success :
    Json.Ascending [("id", id), ("jsonrpc", .str "2.0"), ("result", result)] := by
  simp only [Json.Ascending, List.pairwise_cons, List.forall_mem_cons]
  decide

theorem ascending_failure :
    Json.Ascending [("error", e.toValue), ("id", id), ("jsonrpc", .str "2.0")] := by
  simp only [Json.Ascending, List.pairwise_cons, List.forall_mem_cons]
  decide

theorem plain_success (hi : Plain 126 id) (hr : Plain 126 result) :
    Plain 127 (success id result) := by
  refine .obj ascending_success ?_
  simp only [List.forall_mem_cons]
  exact ⟨hi, .str, hr, List.forall_mem_nil _⟩

theorem plain_failure (hi : Plain 126 id) (hd : ∀ d ∈ e.data, Plain 125 d) :
    Plain 127 (failure id e) := by
  refine .obj ascending_failure ?_
  simp only [List.forall_mem_cons]
  exact ⟨e.plain_toValue hd, hi, .str, List.forall_mem_nil _⟩

/-- Whatever is read from the text of a response, it bears the id of the response, and it has an
error if the response has one. -/
theorem get?_of_read_respond {r : Except Error Json} (hi : Plain 126 id)
    (h : Json.read (respond id r).text = .ok j) :
    j.get? "id" = some id ∧ (j.get? "error").isSome = !r.isOk := by
  cases r with
  | ok result =>
    obtain ⟨ms, rfl, hms⟩ := Json.read_text_members ascending_success h
    exact ⟨Json.lookup_of_plain (hms "id") hi, (isSome_eq_of_rel (hms "error")).symm⟩
  | error e =>
    obtain ⟨ms, rfl, hms⟩ := Json.read_text_members ascending_failure h
    exact ⟨Json.lookup_of_plain (hms "id") hi, (isSome_eq_of_rel (hms "error")).symm⟩

end TokenGate.Rpc
