import Mathlib.Logic.Relation
import TokenGate.Http.Bearer
import TokenGate.Proofs.Text.Utf8
/-!
The header field for tokens: which bytes in it are text, and that the other fields stay as they are
when a token is put in.
-/
namespace TokenGate

namespace Http

variable {cs : List Char} {fields : Headers}

theorem isTextByte_iff : isTextByte b ↔ b = 9 ∨ 0x20 ≤ b ∧ b ≤ 0x7E := by
  simp only [isTextByte, Bool.or_eq_true, Bool.and_eq_true, decide_eq_true_eq]
  exact or_comm

theorem lt_of_isTextByte (h : isTextByte b) : b < 0x80 := by
  rcases isTextByte_iff.1 h with rfl | ⟨-, hu⟩
  · decide
  · exact UInt8.lt_of_le_of_lt hu (by decide)

theorem toNat_lt_of_isTextByte (h : ∀ b ∈ Utf8.encode (String.ofList cs), isTextByte b) :
    ∀ c ∈ cs, c.toNat < 128 :=
  Utf8.toNat_lt_of_encode fun b hb => lt_of_isTextByte (h b hb)

/-- A value of bytes for text is read as the text that it encodes. -/
theorem valueText?_of_isTextByte (h : ∀ b ∈ Utf8.encode (String.ofList cs), isTextByte b) :
    valueText? (Utf8.encode (String.ofList cs)) = some (String.ofList cs) := by
  have ha := toNat_lt_of_isTextByte h
  have hm : (cs.map fun c => Char.ofNat (UInt8.ofNat c.toNat).toNat) = cs := by
    rw [List.map_congr_left fun c hc => Utf8.ofNat_toNat (ha c hc)]
    exact List.map_id' cs
  rw [valueText?, if_pos (List.all_eq_true.2 h), Utf8.encode_ofList ha, List.map_map]
  exact congrArg (fun cs => some (String.ofList cs)) hm

theorem Headers.values_set (fields : Headers) (name : String) (value : Bytes) :
    (fields.set name value).values name = [value] := by
  have hf : (fields.filter (·.name ≠ name)).filter (·.name = name) = [] := by
    rw [List.filter_eq_nil_iff]
    intro f hf
    simpa using (List.mem_filter.1 hf).2
  simp only [Headers.values, Headers.set, List.filter_append, hf, List.nil_append]
  simp

theorem Headers.get?_set (fields : Headers) (name : String) (value : Bytes) :
    (fields.set name value).get? name = some value := by
  rw [Headers.get?, Headers.values_set]
  rfl

theorem Headers.values_set_of_ne (h : Headers) (value : Bytes) (hn : name ≠ other) :
    (h.set other value).values name = h.values name := by
  have hf : ((h.filter (·.name ≠ other)).filter (·.name = name)) = h.filter (·.name = name) := by
    rw [List.filter_filter]
    refine List.filter_congr fun f _ => ?_
    by_cases he : f.name = name
    · simp only [he, hn, decide_true, ne_eq, not_false_eq_true, Bool.and_self]
    · simp only [he, decide_false, Bool.false_and]
  have ho : ([⟨other, value⟩] : Headers).filter (·.name = name) = [] := by
    simp only [List.filter_cons, hn.symm, decide_false, Bool.false_eq_true, if_false,
      List.filter_nil]
  simp only [Headers.values, Headers.set, List.filter_append, hf, ho, List.append_nil]

theorem Headers.get?_set_of_ne (h : Headers) (value : Bytes) (hn : name ≠ other) :
    (h.set other value).get? name = h.get? name := by
  rw [Headers.get?, Headers.values_set_of_ne h value hn, Headers.get?]

/-- Header fields that have come from others by nothing but tokens being put in. -/
def Bears : Headers → Headers → Prop :=
  Relation.ReflTransGen fun h h' => ∃ token, setBearer h token = .ok h'

theorem Bears.get?_eq (h : Bears fields fields') (hn : name ≠ authorization) :
    fields'.get? name = fields.get? name := by
  induction h with
  | refl => rfl
  | tail _ hs ih =>
    obtain ⟨token, hs⟩ := hs
    simp only [setBearer] at hs
    split at hs
    · cases hs
      rw [Headers.get?_set_of_ne _ _ hn, ih]
    · cases hs

theorem bearerToken_congr (h : fields.get? authorization = fields'.get? authorization) :
    bearerToken fields = bearerToken fields' := by
  simp only [bearerToken, h]

end Http

end TokenGate
