/-!
Finite binary floating-point numbers of 64 bits: rounding of ratios, products and quotients, each
to the nearest number and to the even one of two that are equally near.
-/
namespace TokenGate

/-- A finite number: its sign, and the bits of its absolute value. -/
structure Binary64 where
  negative : Bool
  magnitude : Nat
  finite : magnitude < 0x7FF0000000000000
  deriving Repr, DecidableEq

namespace Binary64

def zero : Binary64 := ⟨false, 0, by decide⟩

def negate (x : Binary64) : Binary64 := { x with negative := !x.negative }

/-- A positive number of which the absolute value has these bits, unless they mean infinity. -/
def ofMagnitude? (bits : Nat) : Option Binary64 :=
  if h : bits < 0x7FF0000000000000 then some ⟨false, bits, h⟩ else none

/-- The absolute value is `significand * 2 ^ exponent`. -/
def significand (x : Binary64) : Nat :=
  if x.magnitude < 0x10_0000_0000_0000 then x.magnitude
  else 0x10_0000_0000_0000 + x.magnitude % 0x10_0000_0000_0000

def exponent (x : Binary64) : Int :=
  if x.magnitude < 0x10_0000_0000_0000 then -1074
  else (x.magnitude / 0x10_0000_0000_0000 : Nat) - 1075

/-- `n * 2 ^ e` as a ratio of whole numbers. -/
def scaled (n : Nat) (e : Int) : Nat × Nat :=
  if 0 ≤ e then (n * Nat.pow 2 e.toNat, 1) else (n, Nat.pow 2 (-e).toNat)

def ratio (x : Binary64) : Nat × Nat := scaled x.significand x.exponent

/-- A quotient rounded to the nearest whole number, a half to the even one. -/
def roundDiv (num den : Nat) : Nat :=
  let n := num / den
  let r := num % den
  if 2 * r > den ∨ (2 * r = den ∧ n % 2 = 1) then n + 1 else n

/-- The number nearest to `num / den`, or nothing when that is out of range. -/
def ofRatio? (num den : Nat) : Option Binary64 :=
  if num = 0 then some zero else
  let length : Int := (Nat.log2 num : Int) - Nat.log2 den
  let quotient (e : Int) : Nat × Nat :=
    let (p, q) := scaled 1 e
    (num * q, den * p)
  let low := max (length - 53) (-1074)
  let (n, d) := quotient low
  let e := if n / d < 0x20_0000_0000_0000 then low else low + 1
  let (n, d) := quotient e
  ofMagnitude? ((e + 1074).toNat * 0x10_0000_0000_0000 + roundDiv n d)

def ofNat? (n : Nat) : Option Binary64 := ofRatio? n 1

/-- The product of two absolute values. -/
def mul? (x y : Binary64) : Option Binary64 :=
  ofRatio? (x.ratio.1 * y.ratio.1) (x.ratio.2 * y.ratio.2)

/-- The quotient of two absolute values, the second of which is not zero. -/
def div? (x y : Binary64) : Option Binary64 :=
  ofRatio? (x.ratio.1 * y.ratio.2) (x.ratio.2 * y.ratio.1)

end Binary64

end TokenGate
