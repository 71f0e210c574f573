import TokenGate.Net.Address
/-!
Reading addresses of the Internet protocol. An octet is decimal and has no leading zeros, a
segment is hexadecimal and has at most four digits; one run of zeros may be left out, and the last
two segments may be written as four octets.
-/
namespace TokenGate.Net

/-- Reads an octet. -/
def octet? (cs : List Char) : Option (UInt8 × List Char) :=
  let run := cs.takeWhile Char.isDigit
  let n := Text.ofDigits run
  if run = [] ∨ 3 < run.length ∨ 255 < n ∨ (run.head? = some '0' ∧ 1 < run.length) then none
  else some (UInt8.ofNat n, cs.dropWhile Char.isDigit)

/-- Reads a given character. -/
def given? (c : Char) : List Char → Option (List Char)
  | d :: rest => if d = c then some rest else none
  | [] => none

/-- Reads four octets. -/
def octets? (cs : List Char) : Option ((UInt8 × UInt8 × UInt8 × UInt8) × List Char) := do
  let (a, cs) ← octet? cs
  let (b, cs) ← octet? (← given? '.' cs)
  let (c, cs) ← octet? (← given? '.' cs)
  let (d, cs) ← octet? (← given? '.' cs)
  return ((a, b, c, d), cs)

def hexDigitValue? (c : Char) : Option Nat :=
  let n := c.toNat
  if 48 ≤ n ∧ n ≤ 57 then some (n - 48)
  else if 97 ≤ n ∧ n ≤ 102 then some (n - 87)
  else if 65 ≤ n ∧ n ≤ 70 then some (n - 55)
  else none

/-- Reads a segment. -/
def segment? (cs : List Char) : Option (Nat × List Char) :=
  let isDigit (c : Char) := (hexDigitValue? c).isSome
  let run := cs.takeWhile isDigit
  if run = [] ∨ 4 < run.length then none
  else some (run.foldl (fun n c => 16 * n + (hexDigitValue? c).getD 0) 0, cs.dropWhile isDigit)

/-- Segments that have been read, whether the last two were octets, and what is left. -/
structure Segments where
  values : List Nat
  octets : Bool
  rest : List Char

/-- Reads at most a number of segments. -/
def readSegments : Nat → Bool → List Char → Segments
  | 0, _, cs => ⟨[], false, cs⟩
  | n + 1, first, cs =>
    match (if first then some cs else given? ':' cs) with
    | none => ⟨[], false, cs⟩
    | some rest =>
      match (if n = 0 then none else octets? rest) with
      | some ((a, b, c, d), rest) =>
        ⟨[a.toNat * 256 + b.toNat, c.toNat * 256 + d.toNat], true, rest⟩
      | none =>
        match segment? rest with
        | none => ⟨[], false, cs⟩
        | some (g, rest) =>
          let s := readSegments n false rest
          { s with values := g :: s.values }

def ofSegments? (values : List Nat) : Option IpAddr :=
  let words := (values.map UInt16.ofNat).toArray
  if h : words.size = 8 then some (.v6 ⟨words, h⟩) else none

/-- Reads an address of the newer kind. -/
def v6? (cs : List Char) : Option (IpAddr × List Char) := do
  let head := readSegments 8 true cs
  if head.values.length = 8 then return (← ofSegments? head.values, head.rest)
  if head.octets then none
  let rest ← given? ':' (← given? ':' head.rest)
  let tail := readSegments (7 - head.values.length) true rest
  let zeros := List.replicate (8 - head.values.length - tail.values.length) 0
  return (← ofSegments? (head.values ++ zeros ++ tail.values), tail.rest)

/-- Reads a text that is an address of either kind. -/
def IpAddr.parse? (s : String) : Option IpAddr :=
  match octets? s.toList with
  | some ((a, b, c, d), rest) => if rest = [] then some (.v4 a b c d) else none
  | none =>
    match v6? s.toList with
    | some (a, []) => some a
    | _ => none

end TokenGate.Net
