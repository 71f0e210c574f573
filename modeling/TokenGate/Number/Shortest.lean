import TokenGate.Number.Binary64
import TokenGate.Text.Decimal
/-!
The shortest decimal that reads back as a given binary number: of the decimals with the fewest
digits that round to the number, the nearest one.
-/
namespace TokenGate.Binary64

/-- A decimal `digits * 10 ^ exponent`. -/
structure Decimal where
  digits : Nat
  exponent : Int
  deriving Repr, DecidableEq

/-- The interval of values that round to a number, and the number itself, in units of
`2 ^ unit`; the ends belong to it when the significand is even. -/
structure Neighbourhood where
  low : Nat
  value : Nat
  high : Nat
  unit : Int
  closed : Bool
  deriving Repr

def neighbourhood (x : Binary64) : Neighbourhood :=
  let m := x.significand
  let isFirstOfBinade := m = 0x10_0000_0000_0000 ∧ x.magnitude ≥ 0x20_0000_0000_0000
  { low := if isFirstOfBinade then 4 * m - 1 else 4 * m - 2
    value := 4 * m
    high := 4 * m + 2
    unit := x.exponent - 2
    closed := m % 2 = 0 }

/-- Factors that bring multiples of `2 ^ unit` and of `10 ^ place` to one whole unit. -/
def commonUnit (unit place : Int) : Nat × Nat :=
  (Nat.pow 2 unit.toNat * Nat.pow 10 (-place).toNat,
    Nat.pow 2 (-unit).toNat * Nat.pow 10 place.toNat)

/-- The nearest multiple of `10 ^ place` that lies in the interval. -/
def onGrid? (n : Neighbourhood) (place : Int) : Option Nat :=
  let (p, q) := commonUnit n.unit place
  let value := n.value * p
  let inside (d : Nat) : Bool :=
    if n.closed then n.low * p ≤ d * q && d * q ≤ n.high * p
    else n.low * p < d * q && d * q < n.high * p
  let below := value / q
  let above := below + 1
  let nearer := if 2 * (value % q) < q ∨ (2 * (value % q) = q ∧ below % 2 = 0)
    then below else above
  if inside nearer then some nearer
  else if inside below then some below
  else if inside above then some above
  else none

/-- The place of the first digit: the greatest power of ten not above the number. -/
def leadingPlace (n : Neighbourhood) : Int :=
  let (p, q) := commonUnit n.unit (-400)
  ((Text.digits (n.value * p / q)).length : Int) - 401

/-- Drops zeros at the end of the digits, at most a given number of them. -/
def Decimal.dropZeros : Nat → Decimal → Decimal
  | 0, d => d
  | fuel + 1, d =>
    if d.digits % 10 = 0 then dropZeros fuel ⟨d.digits / 10, d.exponent + 1⟩ else d

/-- Tries more and more digits. -/
def shortestFrom (n : Neighbourhood) (first : Int) : Nat → Nat → Decimal
  | 0, _ => ⟨0, 0⟩
  | fuel + 1, count =>
    let place := first + 1 - count
    match onGrid? n place with
    | some d => Decimal.dropZeros 20 ⟨d, place⟩
    | none => shortestFrom n first fuel (count + 1)

/-- The shortest decimal for the absolute value of a number that is not zero. -/
def shortest (x : Binary64) : Decimal :=
  let n := neighbourhood x
  shortestFrom n (leadingPlace n) 17 1

end TokenGate.Binary64
