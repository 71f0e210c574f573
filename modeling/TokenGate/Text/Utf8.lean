import TokenGate.Text.Decimal
/-!
Bytes and text: every text has one encoding in UTF-8, and bytes that are no encoding are refused
at the first sequence that cannot stand there.
-/
namespace TokenGate

abbrev Bytes := List UInt8

namespace Utf8

def encode (s : String) : Bytes := s.toUTF8.data.toList

/-- Where bytes stop being UTF-8, and how many bytes are wrong there; no count means that the
bytes end inside a character. -/
structure Fault where
  index : Nat
  width : Option Nat
  deriving Repr, DecidableEq

def Fault.message (f : Fault) : String :=
  match f.width with
  | some n => s!"invalid utf-8 sequence of {n} bytes from index {f.index}"
  | none => s!"incomplete utf-8 byte sequence from index {f.index}"

def isTail (b : UInt8) : Bool := 0x80 ≤ b && b ≤ 0xBF

/-- Second bytes that may follow the first byte of a character of three bytes. -/
def isSecondOfThree (first second : UInt8) : Bool :=
  if first = 0xE0 then 0xA0 ≤ second && second ≤ 0xBF
  else if first = 0xED then 0x80 ≤ second && second ≤ 0x9F
  else isTail second

/-- Second bytes that may follow the first byte of a character of four bytes. -/
def isSecondOfFour (first second : UInt8) : Bool :=
  if first = 0xF0 then 0x90 ≤ second && second ≤ 0xBF
  else if first = 0xF4 then 0x80 ≤ second && second ≤ 0x8F
  else isTail second

/-- The first fault of bytes that stand at an index. -/
def faultFrom (i : Nat) : Bytes → Option Fault
  | [] => none
  | a :: rest =>
    if a < 0x80 then faultFrom (i + 1) rest
    else if 0xC2 ≤ a ∧ a ≤ 0xDF then
      match rest with
      | [] => some ⟨i, none⟩
      | b :: rest => if isTail b then faultFrom (i + 2) rest else some ⟨i, some 1⟩
    else if 0xE0 ≤ a ∧ a ≤ 0xEF then
      match rest with
      | [] => some ⟨i, none⟩
      | b :: rest =>
        if !isSecondOfThree a b then some ⟨i, some 1⟩ else
        match rest with
        | [] => some ⟨i, none⟩
        | c :: rest => if isTail c then faultFrom (i + 3) rest else some ⟨i, some 2⟩
    else if 0xF0 ≤ a ∧ a ≤ 0xF4 then
      match rest with
      | [] => some ⟨i, none⟩
      | b :: rest =>
        if !isSecondOfFour a b then some ⟨i, some 1⟩ else
        match rest with
        | [] => some ⟨i, none⟩
        | c :: rest =>
          if !isTail c then some ⟨i, some 2⟩ else
          match rest with
          | [] => some ⟨i, none⟩
          | d :: rest => if isTail d then faultFrom (i + 4) rest else some ⟨i, some 3⟩
    else some ⟨i, some 1⟩

def decode? (b : Bytes) : Option String := String.fromUTF8? ⟨b.toArray⟩

/-- The text that bytes encode, or their first fault. -/
def decode (b : Bytes) : Except Fault String :=
  match decode? b with
  | some s => .ok s
  | none => .error ((faultFrom 0 b).getD ⟨0, none⟩)

theorem decode?_encode (s : String) : decode? (encode s) = some s := by
  have h : (⟨(encode s).toArray⟩ : ByteArray) = s.toUTF8 := by simp [encode]
  have hv : s.toUTF8.IsValidUTF8 := s.isValidUTF8
  simp only [decode?, h, String.fromUTF8?, dif_pos hv]
  rfl

theorem decode_encode (s : String) : decode (encode s) = .ok s := by
  simp [decode, decode?_encode]

end Utf8

end TokenGate
