import TokenGate.Text.Quoted
import TokenGate.Text.Utf8
/-!
Bytes as hexadecimal digits, two for each byte. Digits of both cases are read, lower-case ones are
written.
-/
namespace TokenGate.Hex

/-- Why a text is no hexadecimal spelling of bytes. -/
inductive Fault where
  | oddLength
  | badDigit (byte : UInt8) (index : Nat)
  deriving Repr, DecidableEq

/-- A bad byte is shown as the character of the same number. -/
def Fault.message : Fault → String
  | .oddLength => "Odd number of digits"
  | .badDigit b i =>
    s!"Invalid character {Text.quotedChar (Char.ofNat b.toNat)} at position {i}"

def digitChars : List Char := "0123456789abcdef".toList

def digitChar (n : Nat) : Char := digitChars.getD n '0'

/-- The value of a digit, given as a byte of text. -/
def nibble? (b : UInt8) : Option Nat :=
  let n := b.toNat
  if 48 ≤ n ∧ n ≤ 57 then some (n - 48)
  else if 97 ≤ n ∧ n ≤ 102 then some (n - 87)
  else if 65 ≤ n ∧ n ≤ 70 then some (n - 55)
  else none

def nibble (index : Nat) (b : UInt8) : Except Fault Nat :=
  match nibble? b with
  | some n => .ok n
  | none => .error (.badDigit b index)

/-- Reads pairs of digits from an index on. -/
def pairs (index : Nat) : Bytes → Except Fault Bytes
  | high :: low :: rest => do
    let h ← nibble index high
    let l ← nibble (index + 1) low
    let tail ← pairs (index + 2) rest
    return UInt8.ofNat (16 * h + l) :: tail
  | _ => .ok []

/-- An odd number of bytes is refused before any digit is looked at. -/
def decodeBytes (b : Bytes) : Except Fault Bytes :=
  if b.length % 2 = 1 then .error .oddLength else pairs 0 b

def decode (s : String) : Except Fault Bytes := decodeBytes (Utf8.encode s)

def encodeChars (b : Bytes) : List Char :=
  b.flatMap fun x => [digitChar (x.toNat / 16), digitChar (x.toNat % 16)]

def encode (b : Bytes) : String := String.ofList (encodeChars b)

end TokenGate.Hex
