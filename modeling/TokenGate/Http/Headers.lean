import TokenGate.Text.Utf8
/-!
Header fields of requests and responses. Names do not distinguish letter case and may repeat; the
values of one name keep their order.
-/
namespace TokenGate.Http

def lowerChar (c : Char) : Char := if c.isUpper then Char.ofNat (c.toNat + 32) else c

/-- A text with the letters of ASCII in lower case. -/
def lower (s : String) : String := String.ofList (s.toList.map lowerChar)

/-- A header field; its name is in lower case. -/
structure Field where
  name : String
  value : Bytes
  deriving Repr, DecidableEq

abbrev Headers := List Field

inductive HeaderError where
  | invalidName
  | invalidValue
  deriving Repr, DecidableEq

def HeaderError.message : HeaderError → String
  | .invalidName => "invalid HTTP header name"
  | .invalidValue => "failed to parse header value"

def isTokenChar (c : Char) : Bool :=
  c.isAlphanum || "!#$%&'*+-.^_`|~".toList.contains c

/-- Bytes that a value may hold: no controls but the tab. -/
def isValueByte (b : UInt8) : Bool := (0x20 ≤ b && b ≠ 0x7F) || b = 9

/-- Bytes that a value may hold if it is to be read as text. -/
def isTextByte (b : UInt8) : Bool := (0x20 ≤ b && b ≤ 0x7E) || b = 9

def isValue (v : Bytes) : Bool := v.all isValueByte

namespace Headers

/-- The values of a name, in order; the name is given in lower case. -/
def values (name : String) (h : Headers) : List Bytes :=
  (h.filter (·.name = name)).map (·.value)

/-- The first value of a name. -/
def get? (name : String) (h : Headers) : Option Bytes := (values name h).head?

def append (h : Headers) (f : Field) : Headers := h ++ [f]

/-- Replaces all values of a name by one. -/
def set (h : Headers) (name : String) (value : Bytes) : Headers :=
  h.filter (·.name ≠ name) ++ [⟨name, value⟩]

end Headers

/-- A value as text, if it is visible ASCII with spaces and tabs. -/
def valueText? (v : Bytes) : Option String :=
  if v.all isTextByte then some (String.ofList (v.map fun b => Char.ofNat b.toNat)) else none

/-- A header field with a name in any letter case. -/
def Field.parse (name : String) (value : Bytes) : Except HeaderError Field :=
  if name.isEmpty || !name.toList.all isTokenChar then .error .invalidName
  else if !isValue value then .error .invalidValue
  else .ok ⟨lower name, value⟩

end TokenGate.Http
