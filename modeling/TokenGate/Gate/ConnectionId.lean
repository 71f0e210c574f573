import TokenGate.Text.Decimal
/-!
Identifiers of connections: 128 bits that begin with the time of opening, so that they sort by it.
-/
namespace TokenGate.Gate

structure ConnectionId where
  value : Nat
  value_lt : value < 0x1_0000_0000_0000_0000_0000_0000_0000_0000
  deriving Repr, DecidableEq

namespace ConnectionId

/-- The version that stands in every identifier. -/
def version : Nat := 7

/-- An identifier of 48 bits of time in milliseconds, the version, 12 random bits, the variant and
62 random bits. -/
def make (millis random : Nat) : ConnectionId :=
  let high := millis % 0x1_0000_0000_0000 * 0x1_0000 + version * 0x1000 +
    random / 0x4000_0000_0000_0000 % 0x1000
  let low := 2 * 0x4000_0000_0000_0000 + random % 0x4000_0000_0000_0000
  ⟨high * 0x1_0000_0000_0000_0000 + low, by simp only [high, low, version]; omega⟩

/-- A number with a given count of hexadecimal digits. -/
def field (count n : Nat) : List Char :=
  let digits := Text.hexDigits n
  List.replicate (count - digits.length) '0' ++ digits

/-- The text of an identifier: five groups of hexadecimal digits. -/
def text (id : ConnectionId) : String :=
  let n := id.value
  String.ofList <|
    field 8 (n / 0x1_0000_0000_0000_0000_0000_0000) ++
      '-' :: field 4 (n / 0x1_0000_0000_0000_0000_0000 % 0x1_0000) ++
      '-' :: field 4 (n / 0x1_0000_0000_0000_0000 % 0x1_0000) ++
      '-' :: field 4 (n / 0x1_0000_0000_0000 % 0x1_0000) ++
      '-' :: field 12 (n % 0x1_0000_0000_0000)

/-- The version that an identifier bears. -/
def versionOf (id : ConnectionId) : Nat := id.value / 0x1000_0000_0000_0000_0000 % 16

end ConnectionId

end TokenGate.Gate
