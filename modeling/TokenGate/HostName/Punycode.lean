/-!
Text in letters, digits and hyphens that stands for text in any characters. It holds the plain
characters first, and after the last hyphen the others, each by how far it is from the one before:
in steps through all places of the text, and through all code points.
-/
namespace TokenGate.HostName.Punycode

/-- The value of a digit: letters come before decimal digits. -/
def digitValue? (c : Char) : Option Nat :=
  if 'a' ≤ c ∧ c ≤ 'z' then some (c.toNat - 97)
  else if '0' ≤ c ∧ c ≤ '9' then some (c.toNat - 22)
  else none

/-- The least digit at a place of a number that is not its last one. -/
def threshold (place bias : Nat) : Nat :=
  if place ≤ bias then 1 else if bias + 26 ≤ place then 26 else place - bias

/-- Distances and other numbers have at most 32 bits. -/
def maxNumber : Nat := 0xFFFFFFFF

/-- Reads a number, least significant digit first, and adds it to another one. -/
def readNumber? (bias : Nat) : (place weight sum : Nat) → List Char → Option (Nat × List Char)
  | _, _, _, [] => none
  | place, weight, sum, c :: rest => do
    let digit ← digitValue? c
    let sum := sum + digit * weight
    let least := threshold place bias
    if maxNumber < sum then none
    else if digit < least then return (sum, rest)
    else if maxNumber < weight * (36 - least) then none
    else readNumber? bias (place + 36) (weight * (36 - least)) sum rest

theorem length_lt_of_readNumber? {bias place weight sum : Nat} {cs : List Char}
    {r : Nat × List Char} (h : readNumber? bias place weight sum cs = some r) :
    r.2.length < cs.length := by
  induction cs generalizing place weight sum with
  | nil => simp [readNumber?] at h
  | cons c rest ih =>
    simp only [readNumber?, Option.bind_eq_bind, Option.bind_eq_some_iff] at h
    obtain ⟨digit, -, h⟩ := h
    split at h
    · simp at h
    · split at h
      · simp only [pure, Option.some.injEq] at h
        simp [← h]
      · split at h
        · simp at h
        · have := ih h
          simp only [List.length_cons]
          omega

/-- Divides a distance until it is small, and counts how often. -/
def shrink (count delta : Nat) : Nat × Nat :=
  if 455 < delta then shrink (count + 1) (delta / 35) else (count, delta)
termination_by delta
decreasing_by omega

/-- The bias for the next number, after a distance in a text that has a number of characters now. -/
def adapt (delta length : Nat) (isFirst : Bool) : Nat :=
  let delta := if isFirst then delta / 700 else delta / 2
  let (count, delta) := shrink 0 (delta + delta / length)
  36 * count + 36 * delta / (delta + 38)

/-- Puts the characters that are left into a text, from a code point and a place on. -/
def insertAll? (text : List Char) (code place bias : Nat) (cs : List Char) :
    Option (List Char) :=
  if cs = [] then some text
  else
    match _h : readNumber? bias 36 1 place cs with
    | none => none
    | some (sum, rest) =>
      let length := text.length + 1
      let code := code + sum / length
      if code.isValidChar then
        insertAll? (text.insertIdx (sum % length) (Char.ofNat code)) code (sum % length + 1)
          (adapt (sum - place) length (place = 0)) rest
      else none
termination_by cs.length
decreasing_by exact length_lt_of_readNumber? ‹_›

/-- Reads the text that a text in letters, digits and hyphens stands for. -/
def decode? (cs : List Char) : Option (List Char) :=
  let code := (cs.reverse.takeWhile (· ≠ '-')).reverse
  let plain := cs.take (cs.length - code.length - 1)
  if plain = [] then insertAll? [] 128 0 72 cs else insertAll? plain 128 0 72 code

end TokenGate.HostName.Punycode
