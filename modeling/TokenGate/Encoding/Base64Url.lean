import TokenGate.Text.Utf8
/-!
Base64 with the alphabet that is safe in addresses, without padding. Reading accepts only what
writing produces: bits that no byte uses must be zero.
-/
namespace TokenGate.Base64Url

def alphabet : List Char :=
  "ABCDEFGHIJKLMNOPQRSTUVWXYZabcdefghijklmnopqrstuvwxyz0123456789-_".toList

def symbol (n : Nat) : Char := alphabet.getD n 'A'

def value? (c : Char) : Option Nat := alphabet.idxOf? c

def encodeChars : Bytes → List Char
  | a :: b :: c :: rest =>
    let n := (a.toNat * 256 + b.toNat) * 256 + c.toNat
    symbol (n / 262144) :: symbol (n / 4096 % 64) :: symbol (n / 64 % 64) :: symbol (n % 64) ::
      encodeChars rest
  | [a, b] =>
    let n := (a.toNat * 256 + b.toNat) * 4
    [symbol (n / 4096), symbol (n / 64 % 64), symbol (n % 64)]
  | [a] =>
    let n := a.toNat * 16
    [symbol (n / 64), symbol (n % 64)]
  | [] => []

def decodeChars? : List Char → Option Bytes
  | c₁ :: c₂ :: c₃ :: c₄ :: rest => do
    let v₁ ← value? c₁
    let v₂ ← value? c₂
    let v₃ ← value? c₃
    let v₄ ← value? c₄
    let tail ← decodeChars? rest
    let n := ((v₁ * 64 + v₂) * 64 + v₃) * 64 + v₄
    return UInt8.ofNat (n / 65536) :: UInt8.ofNat (n / 256 % 256) :: UInt8.ofNat (n % 256) :: tail
  | [c₁, c₂, c₃] => do
    let v₁ ← value? c₁
    let v₂ ← value? c₂
    let v₃ ← value? c₃
    let n := (v₁ * 64 + v₂) * 64 + v₃
    if n % 4 = 0 then some [UInt8.ofNat (n / 1024), UInt8.ofNat (n / 4 % 256)] else none
  | [c₁, c₂] => do
    let v₁ ← value? c₁
    let v₂ ← value? c₂
    let n := v₁ * 64 + v₂
    if n % 16 = 0 then some [UInt8.ofNat (n / 16)] else none
  | [_] => none
  | [] => some []

def encode (b : Bytes) : String := String.ofList (encodeChars b)

def decode? (s : String) : Option Bytes := decodeChars? s.toList

end TokenGate.Base64Url
