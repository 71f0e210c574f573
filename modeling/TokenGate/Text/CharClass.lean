import TokenGate.Text.Decimal
/-!
Classes of characters, written as words such as `2D` and `41-5A`: code points in upper-case
hexadecimal digits, alone or the first and the last of a run.
-/
namespace TokenGate.Text

/-- The number that upper-case hexadecimal digits denote. -/
def ofHexDigits (cs : List Char) : Nat :=
  cs.foldl (fun n c => 16 * n + if c.isDigit then digitValue c else c.toNat - 55) 0

/-- What stands between blanks and ends of lines. -/
def words (s : String) : List (List Char) :=
  (s.toList.splitOnP fun c => c = ' ' || c = '\n').filter (· ≠ [])

/-- What stands before a character, and what stands after it. -/
def divide (c : Char) (cs : List Char) : List Char × List Char :=
  (cs.takeWhile (· ≠ c), (cs.dropWhile (· ≠ c)).drop 1)

structure CharClass where
  /-- First and last code point of each run. -/
  runs : List (Nat × Nat)

namespace CharClass

def read (s : String) : CharClass where
  runs := (words s).map fun word =>
    let (first, last) := divide '-' word
    (ofHexDigits first, ofHexDigits (if last = [] then first else last))

def contains (k : CharClass) (c : Char) : Bool :=
  k.runs.any fun (first, last) => first ≤ c.toNat && c.toNat ≤ last

end CharClass

end TokenGate.Text
