import TokenGate.Text.Utf8
/-!
What is wrong with a text that is no JSON, and where. A fault is placed by the number of bytes
that are left after it.
-/
namespace TokenGate.Json

inductive Cause where
  | eofInList
  | eofInObject
  | eofInString
  | eofInValue
  | expectedColon
  | expectedListCommaOrEnd
  | expectedObjectCommaOrEnd
  | expectedIdent
  | expectedValue
  | invalidEscape
  | invalidNumber
  | numberOutOfRange
  | controlCharacter
  | invalidCodePoint
  | keyNotString
  | loneSurrogate
  | trailingComma
  | trailingCharacters
  | hexEscapeEnds
  | recursionLimit
  deriving Repr, DecidableEq

def Cause.message : Cause → String
  | .eofInList => "EOF while parsing a list"
  | .eofInObject => "EOF while parsing an object"
  | .eofInString => "EOF while parsing a string"
  | .eofInValue => "EOF while parsing a value"
  | .expectedColon => "expected `:`"
  | .expectedListCommaOrEnd => "expected `,` or `]`"
  | .expectedObjectCommaOrEnd => "expected `,` or `\x7d`"
  | .expectedIdent => "expected ident"
  | .expectedValue => "expected value"
  | .invalidEscape => "invalid escape"
  | .invalidNumber => "invalid number"
  | .numberOutOfRange => "number out of range"
  | .controlCharacter => "control character (\\u0000-\\u001F) found while parsing a string"
  | .invalidCodePoint => "invalid unicode code point"
  | .keyNotString => "key must be a string"
  | .loneSurrogate => "lone leading surrogate in hex escape"
  | .trailingComma => "trailing comma"
  | .trailingCharacters => "trailing characters"
  | .hexEscapeEnds => "unexpected end of hex escape"
  | .recursionLimit => "recursion limit exceeded"

structure Fault where
  cause : Cause
  left : Nat
  deriving Repr, DecidableEq

/-- Bytes that characters take. -/
def width (cs : List Char) : Nat := cs.foldl (fun n c => n + c.utf8Size) 0

/-- A fault right before the characters that are left. -/
def Cause.before (cause : Cause) (cs : List Char) : Fault := ⟨cause, width cs⟩

/-- A fault at the first byte that is left, or at the end if there is none. -/
def Cause.at (cause : Cause) (cs : List Char) : Fault := ⟨cause, width cs - 1⟩

/-- A line and a column, the column in bytes. -/
structure Position where
  line : Nat
  column : Nat
  deriving Repr, DecidableEq

/-- The position in a text before which all but the given number of bytes stand. -/
def Position.ofLeft (text : String) (left : Nat) : Position :=
  let bytes := Utf8.encode text
  let before := bytes.take (bytes.length - left)
  { line := 1 + before.count 10
    column := (before.reverse.takeWhile (· ≠ 10)).length }

def Position.suffix (p : Position) : String := s!" at line {p.line} column {p.column}"

end TokenGate.Json
