import TokenGate.Json.Decoder
/-!
Reading a value from bytes that need not be a text. A byte that belongs to no character is out of
place wherever it stands; inside a string that is found out at the end of the string.
-/
namespace TokenGate.Json

/-- A byte as a character of one byte; a delete stands for any that is not ASCII. -/
def byteChar (b : UInt8) : Char := if b < 0x80 then Char.ofNat b.toNat else '\x7f'

/-- What is wrong with a text in which a control character stands for a byte that belongs to no
character, with the characters behind it. -/
def faultAmid (text : String) (after : List Char) : Fault :=
  let inString : Fault :=
    match stringBody after with
    | .ok (_, rest) => Cause.invalidCodePoint.before rest
    | .error f => f
  -- a control character is as much out of place as the byte, and tells if it is inside a string
  match read text with
  | .ok _ => inString
  | .error f => if f = Cause.controlCharacter.before after then inString else f

/-- Decodes the value that bytes hold. -/
def decodeBytes (b : Bytes) : Except DecodeError Json :=
  match Utf8.decode b with
  | .ok text => Decoder.any.decode text
  | .error fault =>
    let before := (Utf8.decode? (b.take fault.index)).getD ""
    let after := (b.drop (fault.index + 1)).map byteChar
    let text := String.ofList (before.toList ++ '\x01' :: after)
    let f := faultAmid text after
    .error (.malformed f.cause (.ofLeft text f.left))

theorem decodeBytes_of_text {s : String} (h : Utf8.decode? b = some s) :
    decodeBytes b = Decoder.any.decode s := by
  rw [decodeBytes, Utf8.decode, h]

theorem decodeBytes_of_no_text (h : Utf8.decode? b = none) : ∃ e, decodeBytes b = .error e := by
  rw [decodeBytes, Utf8.decode, h]
  exact ⟨_, rfl⟩

end TokenGate.Json
