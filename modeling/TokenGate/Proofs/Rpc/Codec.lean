import TokenGate.Proofs.Json.Shape
import TokenGate.Proofs.Rpc.Envelope
/-!
Errors as texts, there and back. A text gives an error back as it was written, but for data that are
null; and what is decoded from any text never has such data, and nests no deeper than what is read.
-/
namespace TokenGate.Rpc.Error

open Json (Plain Whole)
open Json.Decoder (keepsAt_of optional_eq_some reads_any reads_integer reads_null reads_string
  yields_true yieldsAt_record)

variable {e : Error}

theorem withoutNull_eq (h : ∀ d ∈ e.data, d ≠ .null) : e.withoutNull = e := by
  obtain ⟨code, message, data⟩ := e
  rcases data with _ | d
  · rfl
  · cases d with
    | null => exact absurd rfl (h .null rfl)
    | bool | num | str | arr | obj => rfl

theorem code_reads (code : Int32) :
    (Json.Decoder.integer "i32" (-0x8000_0000) (0x8000_0000 - 1)).Reads n
      (Json.ofInt code.toInt) code.toInt := by
  have hl := Int32.le_toInt code
  have hu := Int32.toInt_lt code
  rw [Json.ofInt_eq_num (Json.int32_inRange code)]
  apply reads_integer
  omega

/-- Data that are null are read as if there were none. -/
theorem data_reads (h : Plain n d) :
    (Json.Decoder.optional .any).Reads n d (if d matches .null then none else some d) := by
  cases d with
  | null => exact reads_null
  | bool | num | str | arr | obj => exact (reads_any h).optional nofun

theorem decoder_reads (h : ∀ d ∈ e.data, Plain n d) :
    decoder.Reads (n + 1) e.toJson e.withoutNull := by
  obtain ⟨code, message, data⟩ := e
  apply Json.Decoder.Sets.reads
  apply Json.Decoder.Sets.field rfl (by decide) (code_reads code)
  apply Json.Decoder.Sets.field rfl (by decide) (reads_string message)
  rw [Int32.ofInt_toInt]
  rcases data with _ | d
  · exact .done rfl
  · apply Json.Decoder.Sets.field rfl (by decide) (data_reads (h d rfl))
    cases d <;> exact .done rfl

theorem data_yieldsAt : (Json.Decoder.optional .any).YieldsAt n fun data =>
    ∀ d ∈ data, d ≠ .null ∧ (Whole d → Plain n d) := by
  rintro cs data rest h d rfl
  obtain ⟨hn, h⟩ := optional_eq_some h
  have hr := Json.orMalformed_eq_ok.1 h
  constructor
  · rintro rfl
    exact hn (Json.begins_of_readValue_null hr)
  · exact Json.plain_of_isRead ⟨_, _, hr⟩

theorem decoder_yieldsAt : decoder.YieldsAt n fun e =>
    ∀ d ∈ e.data, d ≠ .null ∧ (Whole d → Plain (n - 1) d) := by
  apply yieldsAt_record
  · simp only [fields, List.forall_mem_cons]
    refine ⟨?code, ?message, ?data, List.forall_mem_nil _⟩
    case data => exact keepsAt_of data_yieldsAt fun _ _ hd _ => hd
    all_goals exact keepsAt_of (yields_true _) fun _ _ _ he => he
  · exact nofun

/-- An error is decoded from its text as it was written, with null for data taken as none, and from
its value in a response no differently. An error that is decoded from any text comes back as
itself. -/
theorem codec_lossless :
    (∀ e : Error, (∀ d ∈ e.data, Plain 126 d) →
      decoder.decode e.toJson.text = .ok e.withoutNull ∧
      ∀ id, ∃ j, (failure id e).get? "error" = some j ∧
        decoder.decodeValue j = decoder.decode e.toJson.text) ∧
    (∀ text e, decoder.decode text = .ok e → (∀ d ∈ e.data, Whole d) →
      decoder.decode e.toJson.text = .ok e ∧
      ∀ id, ∃ j, (failure id e).get? "error" = some j ∧ decoder.decodeValue j = .ok e) := by
  have hread (e : Error) (h : ∀ d ∈ e.data, Plain 126 d) :
      decoder.decode e.toJson.text = .ok e.withoutNull := (decoder_reads h).decode_text
  have hvalue (e : Error) (id : Json) : ∃ j, (failure id e).get? "error" = some j ∧
      decoder.decodeValue j = .ok e.withoutNull := by
    refine ⟨e.toValue, rfl, ?_⟩
    rw [Json.Decoder.decodeValue, e.fromValue_toValue]
    rfl
  constructor
  · intro e h
    rw [hread e h]
    exact ⟨rfl, hvalue e⟩
  · intro text e hd hw
    have hdata := decoder_yieldsAt.of_decode hd
    have hn : e.withoutNull = e := withoutNull_eq fun d hm => (hdata d hm).1
    have hp : ∀ d ∈ e.data, Plain 126 d := fun d hm => (hdata d hm).2 (hw d hm)
    have hread := hread e hp
    have hvalue := hvalue e
    rw [hn] at hread hvalue
    exact ⟨hread, hvalue⟩

/-- Null for data is taken as none, and members may come in the reverse order. -/
theorem codec_lossless_reversed :
    let empty : Error := ⟨-32602, "no \"id\"\n", some .null⟩
    let e : Error := ⟨-32000, "\\", some (.obj [("é", .arr [.int (-1)])])⟩
    let text := (Json.obj e.members.reverse).text
    decoder.decode empty.toJson.text = .ok { empty with data := none } ∧
      decoder.decode text = .ok e ∧ decoder.decode e.toJson.text = .ok e := by
  intro empty e text
  have hn : ∀ d ∈ empty.data, Plain 126 d := by
    rintro d ⟨⟩
    exact .null
  have hp : Plain 126 (.obj [("é", .arr [.int (-1)])]) := by
    apply Plain.obj (List.pairwise_singleton _ _)
    exact List.forall_mem_singleton.2 (.arr (List.forall_mem_singleton.2 .int))
  have ht : decoder.decode text = .ok e := by
    apply Json.Decoder.Reads.decode_text
    apply Json.Decoder.Sets.reads
    apply Json.Decoder.Sets.field rfl (by decide) (data_reads hp)
    apply Json.Decoder.Sets.field rfl (by decide) (reads_string "\\")
    apply Json.Decoder.Sets.field rfl (by decide) (code_reads (-32000))
    exact .done rfl
  have hw : ∀ d ∈ e.data, Whole d := by
    rintro d ⟨⟩
    apply Whole.obj
    exact List.forall_mem_singleton.2 (.arr (List.forall_mem_singleton.2 .int))
  exact ⟨(codec_lossless.1 empty hn).1, ht, (codec_lossless.2 text e ht hw).1⟩

end TokenGate.Rpc.Error
