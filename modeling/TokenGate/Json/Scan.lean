import TokenGate.Json.Basic
import TokenGate.Json.Fault
import TokenGate.Text.Decimal
/-!
The parts of a JSON text that hold no other values: blanks, names, strings and numbers.
-/
namespace TokenGate.Json

def isBlank (c : Char) : Bool := c = ' ' || c = '\n' || c = '\t' || c = '\r'

def skipBlanks (cs : List Char) : List Char := cs.dropWhile isBlank

/-- Reads the given characters. -/
def expectIdent : List Char → List Char → Except Fault (List Char)
  | [], cs => .ok cs
  | _ :: _, [] => .error (Cause.eofInValue.before [])
  | x :: xs, c :: cs =>
    if x = c then expectIdent xs cs else .error (Cause.expectedIdent.at (c :: cs))

def hexValue? (c : Char) : Option Nat :=
  let n := c.toNat
  if 48 ≤ n ∧ n ≤ 57 then some (n - 48)
  else if 97 ≤ n ∧ n ≤ 102 then some (n - 87)
  else if 65 ≤ n ∧ n ≤ 70 then some (n - 55)
  else none

/-- The number that four hexadecimal digits denote. -/
def hex4? (a b c d : Char) : Option Nat := do
  return ((← hexValue? a) * 16 + (← hexValue? b)) * 256 + (← hexValue? c) * 16 + (← hexValue? d)

def isLeadingSurrogate (n : Nat) : Bool := 0xD800 ≤ n && n ≤ 0xDBFF

def isTrailingSurrogate (n : Nat) : Bool := 0xDC00 ≤ n && n ≤ 0xDFFF

/-- The fault of an escape that should have four digits in its next four bytes. -/
def hexEscapeFault (cs : List Char) : Fault :=
  if width cs < 4 then ⟨.eofInString, 0⟩ else ⟨.invalidEscape, width cs - 4⟩

/-- The character that a letter after a backslash stands for. -/
def simpleEscape? : Char → Option Char
  | '"' => some '"'
  | '\\' => some '\\'
  | '/' => some '/'
  | 'b' => some '\x08'
  | 'f' => some '\x0c'
  | 'n' => some '\n'
  | 'r' => some '\r'
  | 't' => some '\t'
  | _ => none

/-- Puts a character before those that have been read. -/
def push (c : Char) (r : Except Fault (List Char × List Char)) :
    Except Fault (List Char × List Char) :=
  r.map fun (s, rest) => (c :: s, rest)

/-- Reads the characters of a string up to its closing quote. A character outside the basic plane
may be written as a pair of escapes. -/
def stringBody : List Char → Except Fault (List Char × List Char)
  | [] => .error ⟨.eofInString, 0⟩
  | '"' :: rest => .ok ([], rest)
  | '\\' :: 'u' :: a :: b :: c :: d :: rest =>
    match hex4? a b c d with
    | none => .error (hexEscapeFault (a :: b :: c :: d :: rest))
    | some n =>
      if isTrailingSurrogate n then .error (Cause.loneSurrogate.before rest)
      else if isLeadingSurrogate n then
        match rest with
        | '\\' :: 'u' :: a :: b :: c :: d :: rest =>
          match hex4? a b c d with
          | none => .error (hexEscapeFault (a :: b :: c :: d :: rest))
          | some m =>
            if isTrailingSurrogate m then
              push (Char.ofNat (0x10000 + (n - 0xD800) * 0x400 + (m - 0xDC00))) (stringBody rest)
            else .error (Cause.loneSurrogate.before rest)
        | '\\' :: 'u' :: rest => .error (hexEscapeFault rest)
        | ['\\'] => .error ⟨.eofInString, 0⟩
        | '\\' :: rest => .error (Cause.hexEscapeEnds.at rest)
        | [] => .error ⟨.eofInString, 0⟩
        | rest => .error (Cause.hexEscapeEnds.at rest)
      else push (Char.ofNat n) (stringBody rest)
  | '\\' :: 'u' :: rest => .error (hexEscapeFault rest)
  | ['\\'] => .error ⟨.eofInString, 0⟩
  | '\\' :: c :: rest =>
    match simpleEscape? c with
    | some c => push c (stringBody rest)
    | none => .error (Cause.invalidEscape.at (c :: rest))
  | c :: rest =>
    if c.toNat < 0x20 then .error (Cause.controlCharacter.before rest)
    else push c (stringBody rest)

def readString (cs : List Char) : Except Fault (String × List Char) :=
  (stringBody cs).map fun (s, rest) => (String.ofList s, rest)

/-- Adds digits to a significand as long as it stays below `2 ^ 64`, and counts them. -/
def accumulate (significand count : Nat) : List Char → Nat × Nat × List Char
  | [] => (significand, count, [])
  | c :: rest =>
    let next := significand * 10 + Text.digitValue c
    if c.isDigit ∧ next < 0x1_0000_0000_0000_0000 then accumulate next (count + 1) rest
    else (significand, count, c :: rest)

def startsWithDigit : List Char → Bool
  | c :: _ => c.isDigit
  | [] => false

/-- The absolute value `significand * 10 ^ exponent`, rounded first to the significand and then at
each product or quotient with a power of ten. -/
def scaleByTen (exponent : Int) : Nat → Binary64 → Option Binary64
  | 0, _ => some .zero
  | fuel + 1, x =>
    if exponent.natAbs ≤ 308 then do
      let power ← Binary64.ofNat? (Nat.pow 10 exponent.natAbs)
      if 0 ≤ exponent then x.mul? power else x.div? power
    else if x.magnitude = 0 then some x
    else if 0 ≤ exponent then none
    else do
      let y ← x.div? (← Binary64.ofNat? (Nat.pow 10 308))
      scaleByTen (exponent + 308) fuel y

/-- A number with a sign; three quotients by `10 ^ 308` leave nothing of a significand. -/
def double (negative : Bool) (significand : Nat) (exponent : Int) (cs : List Char) :
    Except Fault (Number × List Char) :=
  match (Binary64.ofNat? significand).bind (scaleByTen exponent 4) with
  | some x => .ok (.double (if negative then x.negate else x), cs)
  | none => .error (Cause.numberOutOfRange.before cs)

/-- Reads the digits of an exponent; nothing stands for one of `2 ^ 31` or more. -/
def exponentDigits (n : Nat) : List Char → Option Nat × List Char
  | [] => (some n, [])
  | c :: rest =>
    if c.isDigit then
      let next := n * 10 + Text.digitValue c
      if next < 0x8000_0000 then exponentDigits next rest else (none, rest)
    else (some n, c :: rest)

/-- Reads an exponent after its letter. -/
def exponentPart (negative : Bool) (significand : Nat) (shift : Int) (cs : List Char) :
    Except Fault (Number × List Char) :=
  let (down, cs) := match cs with
    | '+' :: rest => (false, rest)
    | '-' :: rest => (true, rest)
    | cs => (false, cs)
  match cs with
  | [] => .error ⟨.eofInValue, 0⟩
  | c :: rest =>
    if !c.isDigit then .error (Cause.invalidNumber.at (c :: rest)) else
    match exponentDigits (Text.digitValue c) rest with
    | (some e, rest) =>
      double negative significand (if down then shift - e else shift + e) rest
    | (none, rest) =>
      if significand ≠ 0 ∧ !down then .error (Cause.numberOutOfRange.before rest)
      else
        let zero := Binary64.zero
        .ok (.double (if negative then zero.negate else zero), rest.dropWhile Char.isDigit)

/-- Reads what may follow the digits of a floating-point number. -/
def afterFraction (negative : Bool) (significand : Nat) (exponent : Int) (cs : List Char) :
    Except Fault (Number × List Char) :=
  match cs with
  | 'e' :: rest => exponentPart negative significand exponent rest
  | 'E' :: rest => exponentPart negative significand exponent rest
  | cs => double negative significand exponent cs

/-- Reads the digits after a decimal point. -/
def fractionPart (negative : Bool) (significand : Nat) (shift : Int) (cs : List Char) :
    Except Fault (Number × List Char) :=
  let (significand, count, rest) := accumulate significand 0 cs
  if startsWithDigit rest then
    afterFraction negative significand (shift - count) (rest.dropWhile Char.isDigit)
  else if count = 0 then
    match rest with
    | [] => .error ⟨.eofInValue, 0⟩
    | rest => .error (Cause.invalidNumber.at rest)
  else afterFraction negative significand (shift - count) rest

/-- A number without point and exponent: a whole number where 64 bits hold it; zero with a minus
sign is no whole number. -/
def wholeNumber (negative : Bool) (significand : Nat) (cs : List Char) :
    Except Fault (Number × List Char) :=
  if negative ∧ significand = 0 then double true 0 0 cs
  else
    match Number.ofInt? (if negative then -(significand : Int) else significand) with
    | some n => .ok (n, cs)
    | none => double negative significand 0 cs

/-- Reads what follows the first digits of a number. -/
def afterDigits (negative : Bool) (significand : Nat) (cs : List Char) :
    Except Fault (Number × List Char) :=
  match cs with
  | '.' :: rest => fractionPart negative significand 0 rest
  | 'e' :: rest => exponentPart negative significand 0 rest
  | 'E' :: rest => exponentPart negative significand 0 rest
  | cs =>
    if startsWithDigit cs then
      let rest := cs.dropWhile Char.isDigit
      let dropped : Int := cs.length - rest.length
      match rest with
      | '.' :: rest => fractionPart negative significand dropped rest
      | rest => afterFraction negative significand dropped rest
    else wholeNumber negative significand cs

/-- Reads a number after its sign. A zero is the only digit before the point or stands alone. -/
def unsignedNumber (negative : Bool) : List Char → Except Fault (Number × List Char)
  | [] => .error ⟨.eofInValue, 0⟩
  | '0' :: rest =>
    if startsWithDigit rest then .error (Cause.invalidNumber.at rest)
    else afterDigits negative 0 rest
  | c :: rest =>
    if !c.isDigit then .error (Cause.invalidNumber.at (c :: rest)) else
    let (significand, _, rest) := accumulate (Text.digitValue c) 1 rest
    afterDigits negative significand rest

def readNumber : List Char → Except Fault (Number × List Char)
  | '-' :: rest => unsignedNumber true rest
  | cs => unsignedNumber false cs

end TokenGate.Json
