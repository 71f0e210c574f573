/-!
Whole numbers in decimal: how they are written, and how an unsigned number is read back.
-/
namespace TokenGate.Text

/-- Digits of a number, most significant first; zero has one digit. -/
def digits (n : Nat) : List Char := Nat.toDigits 10 n

/-- A number in decimal, with a minus sign when it is negative. -/
def decimalChars (i : Int) : List Char :=
  if i < 0 then '-' :: digits i.natAbs else digits i.natAbs

def decimal (i : Int) : String := String.ofList (decimalChars i)

def digitValue (c : Char) : Nat := c.toNat - 48

/-- The number that a run of digits denotes. -/
def ofDigits (cs : List Char) : Nat :=
  cs.foldl (fun n c => 10 * n + digitValue c) 0

/-- Reads a nonempty run of digits, with at most one plus sign before it, that denotes a number
below `bound`. -/
def unsigned? (bound : Nat) (s : String) : Option Nat :=
  let cs := match s.toList with
    | '+' :: rest => rest
    | cs => cs
  if cs ≠ [] ∧ cs.all Char.isDigit ∧ ofDigits cs < bound then some (ofDigits cs) else none

/-- Lower-case hexadecimal digits of a number, without leading zeros. -/
def hexDigits (n : Nat) : List Char := Nat.toDigits 16 n

end TokenGate.Text
