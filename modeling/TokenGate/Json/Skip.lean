import TokenGate.Json.Scan
/-!
Passing over a JSON value without building it. Nesting is not limited, and escapes need not denote
characters.
-/
namespace TokenGate.Json

/-- Passes over the rest of a string. -/
def skipString : List Char → Except Fault (List Char)
  | [] => .error ⟨.eofInString, 0⟩
  | '"' :: rest => .ok rest
  | '\\' :: 'u' :: a :: b :: c :: d :: rest =>
    match hex4? a b c d with
    | none => .error (hexEscapeFault (a :: b :: c :: d :: rest))
    | some _ => skipString rest
  | '\\' :: 'u' :: rest => .error (hexEscapeFault rest)
  | ['\\'] => .error ⟨.eofInString, 0⟩
  | '\\' :: c :: rest =>
    if (simpleEscape? c).isSome then skipString rest
    else .error (Cause.invalidEscape.at (c :: rest))
  | c :: rest =>
    if c.toNat < 0x20 then .error (Cause.controlCharacter.before (c :: rest)) else skipString rest

def skipExponent (cs : List Char) : Except Fault (List Char) :=
  let cs := match cs with
    | '+' :: rest => rest
    | '-' :: rest => rest
    | cs => cs
  if startsWithDigit cs then .ok (cs.dropWhile Char.isDigit)
  else .error (Cause.invalidNumber.at cs)

/-- Passes over an exponent, if one follows. -/
def skipAfterFraction : List Char → Except Fault (List Char)
  | 'e' :: rest => skipExponent rest
  | 'E' :: rest => skipExponent rest
  | cs => .ok cs

/-- Passes over a number after its sign. -/
def skipNumber (cs : List Char) : Except Fault (List Char) := do
  let rest ← match cs with
    | [] => .error ⟨.invalidNumber, 0⟩
    | '0' :: rest =>
      if startsWithDigit rest then .error (Cause.invalidNumber.at rest) else .ok rest
    | c :: rest =>
      if c.isDigit then .ok (rest.dropWhile Char.isDigit)
      else .error (Cause.invalidNumber.at (c :: rest))
  match rest with
  | '.' :: rest =>
    if startsWithDigit rest then skipAfterFraction (rest.dropWhile Char.isDigit)
    else .error (Cause.invalidNumber.at rest)
  | rest => skipAfterFraction rest

inductive Bracket where
  | list
  | object
  deriving Repr, DecidableEq

/-- What comes next inside the given open brackets: a value, or the end of the innermost one or
one more entry of it, after a comma if it has entries already. -/
inductive Expecting where
  | value (stack : List Bracket)
  | endOrEntry (inner : Bracket) (comma : Bool) (outer : List Bracket)
  deriving Repr, DecidableEq

/-- What comes after a value; nothing if no bracket is open. -/
def Expecting.afterValue : List Bracket → Option Expecting
  | [] => none
  | inner :: outer => some (.endOrEntry inner true outer)

/-- Passes over a key and its colon. -/
def skipKey (cs : List Char) : Except Fault (List Char) :=
  match skipBlanks cs with
  | [] => .error ⟨.eofInObject, 0⟩
  | '"' :: rest => do
    match skipBlanks (← skipString rest) with
    | [] => .error ⟨.eofInObject, 0⟩
    | ':' :: rest => .ok rest
    | rest => .error (Cause.expectedColon.at rest)
  | rest => .error (Cause.keyNotString.at rest)

/-- Starts an entry: in an object, passes over its key. -/
def skipToEntry (inner : Bracket) (outer : List Bracket) (cs : List Char) :
    Except Fault (Option Expecting × List Char) :=
  match inner with
  | .list => .ok (some (.value (inner :: outer)), cs)
  | .object => (skipKey cs).map fun rest => (some (.value (inner :: outer)), rest)

/-- Passes over one token and says what comes next. -/
def Expecting.step : Expecting → List Char → Except Fault (Option Expecting × List Char)
  | .value stack, cs =>
    let after (r : Except Fault (List Char)) := r.map fun rest => (afterValue stack, rest)
    match skipBlanks cs with
    | [] => .error ⟨.eofInValue, 0⟩
    | 'n' :: rest => after (expectIdent ['u', 'l', 'l'] rest)
    | 't' :: rest => after (expectIdent ['r', 'u', 'e'] rest)
    | 'f' :: rest => after (expectIdent ['a', 'l', 's', 'e'] rest)
    | '-' :: rest => after (skipNumber rest)
    | '"' :: rest => after (skipString rest)
    | '[' :: rest => .ok (some (.endOrEntry .list false stack), rest)
    | '\x7b' :: rest => .ok (some (.endOrEntry .object false stack), rest)
    | c :: rest =>
      if c.isDigit then after (skipNumber (c :: rest))
      else .error (Cause.expectedValue.at (c :: rest))
  | .endOrEntry inner comma outer, cs =>
    let close := match inner with
      | .list => ']'
      | .object => '\x7d'
    match skipBlanks cs with
    | [] => .error ⟨if inner = .list then .eofInList else .eofInObject, 0⟩
    | c :: rest =>
      if c = ',' ∧ comma then skipToEntry inner outer rest
      else if c = close then .ok (afterValue outer, rest)
      else if comma then
        .error ((if inner = .list then Cause.expectedListCommaOrEnd
          else Cause.expectedObjectCommaOrEnd).at (c :: rest))
      else skipToEntry inner outer (c :: rest)

/-- Takes steps until nothing more is expected; each takes one unit of fuel. -/
def skipSteps : Nat → Expecting → List Char → Except Fault (List Char)
  | 0, _, cs => .error (Cause.eofInValue.before cs)
  | fuel + 1, e, cs => do
    match ← e.step cs with
    | (none, rest) => return rest
    | (some e, rest) => skipSteps fuel e rest

/-- Passes over a value. Of two steps in a row at least one takes a character. -/
def skipValue (cs : List Char) : Except Fault (List Char) :=
  skipSteps (2 * cs.length + 2) (.value []) cs

end TokenGate.Json
