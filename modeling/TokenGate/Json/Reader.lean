import TokenGate.Json.Scan
/-!
Reading JSON text. Values may nest a limited number of times; of members with equal keys the last
one counts.
-/
namespace TokenGate.Json

/-- Whether one more item of a list follows, and the characters from it, or from the bracket that
ends the list. -/
def nextItem (first : Bool) (cs : List Char) : Except Fault (Bool × List Char) :=
  match skipBlanks cs with
  | [] => .error ⟨.eofInList, 0⟩
  | ']' :: rest => .ok (false, ']' :: rest)
  | ',' :: rest =>
    if first then .ok (true, ',' :: rest) else
    match skipBlanks rest with
    | [] => .error ⟨.eofInValue, 0⟩
    | ']' :: rest => .error (Cause.trailingComma.at (']' :: rest))
    | rest => .ok (true, rest)
  | rest => if first then .ok (true, rest) else .error (Cause.expectedListCommaOrEnd.at rest)

/-- Whether one more member of an object follows, and the characters after the quote that opens
its key, or from the brace that ends the object. -/
def nextKey (first : Bool) (cs : List Char) : Except Fault (Bool × List Char) :=
  let key : List Char → Except Fault (Bool × List Char)
    | [] => .error ⟨.eofInValue, 0⟩
    | '"' :: rest => .ok (true, rest)
    | '\x7d' :: rest => .error (Cause.trailingComma.at ('\x7d' :: rest))
    | rest => .error (Cause.keyNotString.at rest)
  match skipBlanks cs with
  | [] => .error ⟨.eofInObject, 0⟩
  | '\x7d' :: rest => .ok (false, '\x7d' :: rest)
  | ',' :: rest => if first then key (',' :: rest) else key (skipBlanks rest)
  | rest => if first then key rest else .error (Cause.expectedObjectCommaOrEnd.at rest)

/-- Reads the colon after a key. -/
def colon (cs : List Char) : Except Fault (List Char) :=
  match skipBlanks cs with
  | [] => .error ⟨.eofInObject, 0⟩
  | ':' :: rest => .ok rest
  | rest => .error (Cause.expectedColon.at rest)

/-- Reads items up to the end of their list; each takes one unit of fuel. -/
def readItems (item : List Char → Except Fault (Json × List Char)) :
    Nat → Bool → List Char → Except Fault (List Json × List Char)
  | 0, _, cs => .error (Cause.eofInList.before cs)
  | fuel + 1, first, cs => do
    match ← nextItem first cs with
    | (false, rest) => return ([], rest.drop 1)
    | (true, rest) =>
      let (x, rest) ← item rest
      let (xs, rest) ← readItems item fuel false rest
      return (x :: xs, rest)

/-- Reads members up to the end of their object; each takes one unit of fuel. -/
def readMembers (item : List Char → Except Fault (Json × List Char)) :
    Nat → Bool → List Char → Except Fault (List (String × Json) × List Char)
  | 0, _, cs => .error (Cause.eofInObject.before cs)
  | fuel + 1, first, cs => do
    match ← nextKey first cs with
    | (false, rest) => return ([], rest.drop 1)
    | (true, rest) =>
      let (k, rest) ← readString rest
      let rest ← colon rest
      let (v, rest) ← item rest
      let (ms, rest) ← readMembers item fuel false rest
      return ((k, v) :: ms, rest)

/-- Reads a value, given how to read the values inside it, if there may be any. -/
def readWith (nested : Option (List Char → Except Fault (Json × List Char)))
    (cs : List Char) : Except Fault (Json × List Char) :=
  match skipBlanks cs with
  | [] => .error ⟨.eofInValue, 0⟩
  | 'n' :: rest => do return (.null, ← expectIdent ['u', 'l', 'l'] rest)
  | 't' :: rest => do return (.bool true, ← expectIdent ['r', 'u', 'e'] rest)
  | 'f' :: rest => do return (.bool false, ← expectIdent ['a', 'l', 's', 'e'] rest)
  | '"' :: rest => do
    let (s, rest) ← readString rest
    return (.str s, rest)
  | '[' :: rest =>
    match nested with
    | none => .error (Cause.recursionLimit.at ('[' :: rest))
    | some item => do
      let (items, rest) ← readItems item (rest.length + 1) true rest
      return (.arr items, rest)
  | '\x7b' :: rest =>
    match nested with
    | none => .error (Cause.recursionLimit.at ('\x7b' :: rest))
    | some item => do
      let (members, rest) ← readMembers item (rest.length + 1) true rest
      return (.obj (sortMembers members), rest)
  | c :: rest =>
    if c = '-' ∨ c.isDigit then do
      let (n, rest) ← readNumber (c :: rest)
      return (.num n, rest)
    else .error (Cause.expectedValue.at (c :: rest))

/-- Reads a value in which lists and objects nest at most a number of times. -/
def readValue : Nat → List Char → Except Fault (Json × List Char)
  | 0 => readWith none
  | depth + 1 => readWith (some (readValue depth))

/-- How deep lists and objects may nest. -/
def maxDepth : Nat := 127

/-- Requires that only blanks are left. -/
def finish (cs : List Char) : Except Fault Unit :=
  match skipBlanks cs with
  | [] => .ok ()
  | rest => .error (Cause.trailingCharacters.at rest)

/-- Reads a text that holds one value. -/
def read (text : String) : Except Fault Json := do
  let (j, rest) ← readValue maxDepth text.toList
  finish rest
  return j

def read? (text : String) : Option Json := (read text).toOption

/-- Reads a value from bytes, which must be UTF-8. -/
def ofBytes? (b : Bytes) : Option Json := do read? (← Utf8.decode? b)

end TokenGate.Json
