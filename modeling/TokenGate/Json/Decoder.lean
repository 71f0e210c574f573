import TokenGate.Json.Mismatch
import TokenGate.Json.Reader
import TokenGate.Json.Skip
/-!
Decoding of JSON into other types, from a text or from a value. Both ways accept the same values;
decoding a text stops at the first thing that is wrong and says where that is.
-/
namespace TokenGate.Json

/-- Why decoding a text stopped: the text is no JSON there, or a value has another shape than
expected. A mismatch gets its place when the innermost value that shows it has been passed. -/
inductive Failure where
  | malformed (fault : Fault)
  | placed (mismatch : Mismatch) (left : Nat)
  | unplaced (mismatch : Mismatch) (rest : List Char)
  deriving Repr

structure Decoder (α : Type) where
  /-- Reads a value of which lists and objects nest at most a number of times. -/
  fromText : Nat → List Char → Except Failure (α × List Char)
  fromValue : Json → Except Mismatch α

/-- Why a text or a value could not be decoded. -/
inductive DecodeError where
  | malformed (cause : Cause) (position : Position)
  | mismatch (mismatch : Mismatch) (position : Option Position)
  deriving Repr

def DecodeError.message : DecodeError → String
  | .malformed c p => c.message ++ p.suffix
  | .mismatch m (some p) => m.message ++ p.suffix
  | .mismatch m none => m.message

def orMalformed (r : Except Fault α) : Except Failure α := r.mapError .malformed

def Failure.error (text : String) : Failure → DecodeError
  | .malformed f => .malformed f.cause (Position.ofLeft text f.left)
  | .placed m left => .mismatch m (some (Position.ofLeft text left))
  | .unplaced m _ => .mismatch m none

namespace Decoder

/-- Decodes a text that holds one value. -/
def decode (d : Decoder α) (text : String) : Except DecodeError α :=
  let result : Except Failure α := do
    let (x, rest) ← d.fromText maxDepth text.toList
    orMalformed (finish rest)
    return x
  result.mapError (Failure.error text)

def decodeValue (d : Decoder α) (j : Json) : Except DecodeError α :=
  (d.fromValue j).mapError fun m => .mismatch m none

/-- The failure of a value that has another type than expected. A list or an object is not looked
into, any other value is read to its end. -/
def typeFailure (expected : String) (cs : List Char) : Failure :=
  let after (f : Found) (rest : List Char) : Failure :=
    .placed (.invalidType f expected) (width rest)
  let named (f : Found) (r : Except Fault (List Char)) : Failure :=
    match r with
    | .ok rest => after f rest
    | .error fault => .malformed fault
  match cs with
  | [] => .malformed ⟨.eofInValue, 0⟩
  | 'n' :: rest => named .null (expectIdent ['u', 'l', 'l'] rest)
  | 't' :: rest => named (.bool true) (expectIdent ['r', 'u', 'e'] rest)
  | 'f' :: rest => named (.bool false) (expectIdent ['a', 'l', 's', 'e'] rest)
  | '"' :: rest =>
    match readString rest with
    | .ok (s, rest) => after (.string s) rest
    | .error fault => .malformed fault
  | '[' :: _ => after .sequence cs
  | '\x7b' :: _ => after .map cs
  | c :: _ =>
    if c = '-' ∨ c.isDigit then
      match readNumber cs with
      | .ok (n, rest) => after (.number n) rest
      | .error fault => .malformed fault
    else .malformed (Cause.expectedValue.at cs)

/-- A mismatch that is placed right after the value that shows it. -/
def placeAfter (rest : List Char) (r : Except Mismatch α) : Except Failure (α × List Char) :=
  match r with
  | .ok x => .ok (x, rest)
  | .error m => .error (.placed m (width rest))

def any : Decoder Json where
  fromText depth cs := orMalformed (readValue depth cs)
  fromValue j := .ok j

/-- A decoded value that may still be refused; the mismatch is placed by what encloses it. -/
def refine (d : Decoder α) (f : α → Except Mismatch β) : Decoder β where
  fromText depth cs := do
    let (x, rest) ← d.fromText depth cs
    match f x with
    | .ok y => return (y, rest)
    | .error m => .error (.unplaced m rest)
  fromValue j := do f (← d.fromValue j)

def map (f : α → β) (d : Decoder α) : Decoder β := d.refine fun x => .ok (f x)

def bool : Decoder Bool where
  fromText _ cs :=
    match skipBlanks cs with
    | 't' :: rest => do return (true, ← orMalformed (expectIdent ['r', 'u', 'e'] rest))
    | 'f' :: rest => do return (false, ← orMalformed (expectIdent ['a', 'l', 's', 'e'] rest))
    | cs => .error (typeFailure "a boolean" cs)
  fromValue
    | .bool b => .ok b
    | j => .error (.invalidType (found j) "a boolean")

/-- A string, read further by a function; `expected` says what it should spell. -/
def spelled (expected : String) (f : String → Except Mismatch α) : Decoder α where
  fromText _ cs :=
    match skipBlanks cs with
    | '"' :: rest => do
      let (s, rest) ← orMalformed (readString rest)
      placeAfter rest (f s)
    | cs => .error (typeFailure expected cs)
  fromValue
    | .str s => f s
    | j => .error (.invalidType (found j) expected)

def string : Decoder String := spelled "a string" .ok

/-- A whole number between two bounds. -/
def boundedNumber (name : String) (low high : Int) : Number → Except Mismatch Int
  | .int i h =>
    if low ≤ i ∧ i ≤ high then .ok i else .error (.invalidValue (.number (.int i h)) name)
  | n => .error (.invalidType (.number n) name)

def integer (name : String) (low high : Int) : Decoder Int where
  fromText _ cs :=
    match skipBlanks cs with
    | [] => .error (.malformed ⟨.eofInValue, 0⟩)
    | c :: rest =>
      if c = '-' ∨ c.isDigit then do
        let (n, rest) ← orMalformed (readNumber (c :: rest))
        placeAfter rest (boundedNumber name low high n)
      else .error (typeFailure name (c :: rest))
  fromValue
    | .num n => boundedNumber name low high n
    | j => .error (.invalidType (found j) name)

/-- A natural number below `2 ^ bits`. -/
def natural (bits : Nat) : Decoder Nat :=
  (integer s!"u{bits}" 0 (Nat.pow 2 bits - 1 : Nat)).map Int.toNat

/-- A value or null. -/
def optional (d : Decoder α) : Decoder (Option α) where
  fromText depth cs :=
    match skipBlanks cs with
    | 'n' :: rest => do return (none, ← orMalformed (expectIdent ['u', 'l', 'l'] rest))
    | cs => do
      let (x, rest) ← d.fromText depth cs
      return (some x, rest)
  fromValue
    | .null => .ok none
    | j => (d.fromValue j).map some

/-- The characters from which on a list is left: after its bracket, or after a comma, if one of
them is next. -/
def leaveList (cs : List Char) : List Char :=
  match skipBlanks cs with
  | ']' :: rest => rest
  | ',' :: rest => skipBlanks rest
  | cs => cs

def leaveObject (cs : List Char) : List Char :=
  match skipBlanks cs with
  | '\x7d' :: rest => rest
  | cs => cs

/-- Reads the end of a list. -/
def endList (cs : List Char) : Except Fault (List Char) :=
  match skipBlanks cs with
  | [] => .error ⟨.eofInList, 0⟩
  | ']' :: rest => .ok rest
  | ',' :: rest =>
    match skipBlanks rest with
    | ']' :: rest => .error (Cause.trailingComma.at (']' :: rest))
    | rest => .error (Cause.trailingCharacters.at rest)
  | rest => .error (Cause.trailingCharacters.at rest)

/-- Places a mismatch inside a list or an object where it is left, or goes on to its end. -/
def enclose (leave : List Char → List Char) (close : List Char → Except Fault (List Char))
    (r : Except Failure (α × List Char)) : Except Failure (α × List Char) :=
  match r with
  | .ok (x, rest) => (orMalformed (close rest)).map fun rest => (x, rest)
  | .error (.unplaced m rest) => .error (.placed m (width (leave rest)))
  | .error e => .error e

/-- Decodes items up to the end of their list; each takes one unit of fuel. -/
def itemsFromText (item : List Char → Except Failure (α × List Char)) :
    Nat → Bool → List Char → Except Failure (List α × List Char)
  | 0, _, cs => .error (.malformed (Cause.eofInList.before cs))
  | fuel + 1, first, cs => do
    match ← orMalformed (nextItem first cs) with
    | (false, rest) => return ([], rest)
    | (true, rest) =>
      let (x, rest) ← item rest
      let (xs, rest) ← itemsFromText item fuel false rest
      return (x :: xs, rest)

def list (d : Decoder α) : Decoder (List α) where
  fromText depth cs :=
    match skipBlanks cs, depth with
    | '[' :: rest, 0 => .error (.malformed (Cause.recursionLimit.at ('[' :: rest)))
    | '[' :: rest, depth + 1 =>
      enclose leaveList endList (itemsFromText (d.fromText depth) (rest.length + 1) true rest)
    | cs, _ => .error (typeFailure "a sequence" cs)
  fromValue
    | .arr items => items.mapM d.fromValue
    | j => .error (.invalidType (found j) "a sequence")

/-- Whether a field may be missing: never, only in an object, or always. -/
inductive Presence where
  | required
  | optionalInObject
  | defaulted
  deriving Repr, DecidableEq

/-- A field of a record: its key, and how a value of it changes the record. -/
structure Field (ρ : Type) where
  key : String
  presence : Presence
  decoder : Decoder (ρ → ρ)

def Field.of (key : String) (presence : Presence) (d : Decoder α) (set : α → ρ → ρ) : Field ρ :=
  ⟨key, presence, d.map set⟩

/-- How messages name a record with its fields. -/
def expectedFields (name : String) (fields : List (Field ρ)) : String :=
  s!"struct {name} with {fields.length} elements"

/-- Decodes fields in their order from a list that starts at an index. -/
def fieldsFromItems (expected : String) (depth : Nat) :
    List (Field ρ) → Nat → Bool → ρ → List Char → Except Failure (ρ × List Char)
  | [], _, _, r, cs => .ok (r, cs)
  | f :: fs, index, first, r, cs => do
    match ← orMalformed (nextItem first cs) with
    | (false, rest) =>
      if f.presence = .defaulted then
        fieldsFromItems expected depth fs (index + 1) first r rest
      else .error (.unplaced (.invalidLength index expected) rest)
    | (true, rest) =>
      let (set, rest) ← f.decoder.fromText depth rest
      fieldsFromItems expected depth fs (index + 1) false (set r) rest

/-- The first required field that has not been seen. -/
def missing? (fields : List (Field ρ)) (seen : List String) : Option String :=
  (fields.find? fun f => f.presence = .required ∧ ¬ seen.contains f.key).map (·.key)

/-- Decodes fields by their keys; unknown keys are passed over. Each member takes one unit of
fuel. -/
def fieldsFromMembers (fields : List (Field ρ)) (depth : Nat) :
    Nat → Bool → List String → ρ → List Char → Except Failure (ρ × List Char)
  | 0, _, _, _, cs => .error (.malformed (Cause.eofInObject.before cs))
  | fuel + 1, first, seen, r, cs => do
    match ← orMalformed (nextKey first cs) with
    | (false, rest) =>
      match missing? fields seen with
      | some key => .error (.unplaced (.missingField key) rest)
      | none => return (r, rest)
    | (true, rest) =>
      let (key, rest) ← orMalformed (readString rest)
      match fields.find? (·.key = key) with
      | none =>
        let rest ← orMalformed (colon rest)
        let rest ← orMalformed (skipValue rest)
        fieldsFromMembers fields depth fuel false seen r rest
      | some f =>
        if seen.contains key then .error (.unplaced (.duplicateField key) rest) else
        let rest ← orMalformed (colon rest)
        let (set, rest) ← f.decoder.fromText depth rest
        fieldsFromMembers fields depth fuel false (key :: seen) (set r) rest

/-- Decodes fields in their order from values. -/
def fieldsFromValues (expected : String) :
    List (Field ρ) → Nat → ρ → List Json → Except Mismatch (ρ × List Json)
  | [], _, r, items => .ok (r, items)
  | f :: fs, index, r, [] =>
    if f.presence = .defaulted then fieldsFromValues expected fs (index + 1) r []
    else .error (.invalidLength index expected)
  | f :: fs, index, r, item :: items => do
    let set ← f.decoder.fromValue item
    fieldsFromValues expected fs (index + 1) (set r) items

/-- Decodes one member of an object. -/
def fieldFromMember (fields : List (Field ρ)) (r : ρ) (member : String × Json) :
    Except Mismatch ρ :=
  match fields.find? (·.key = member.1) with
  | none => .ok r
  | some f => (f.decoder.fromValue member.2).map fun set => set r

/-- A record, as an object with its fields by their keys or as a list of them in order. -/
def record (name : String) (fields : List (Field ρ)) (start : ρ) : Decoder ρ where
  fromText depth cs :=
    let expected := expectedFields name fields
    match skipBlanks cs, depth with
    | '[' :: rest, 0 => .error (.malformed (Cause.recursionLimit.at ('[' :: rest)))
    | '\x7b' :: rest, 0 => .error (.malformed (Cause.recursionLimit.at ('\x7b' :: rest)))
    | '[' :: rest, depth + 1 =>
      enclose leaveList endList (fieldsFromItems expected depth fields 0 true start rest)
    | '\x7b' :: rest, depth + 1 =>
      enclose leaveObject (fun cs => .ok (cs.drop 1))
        (fieldsFromMembers fields depth (rest.length + 1) true [] start rest)
    | cs, _ => .error (typeFailure s!"struct {name}" cs)
  fromValue
    | .arr items => do
      match ← fieldsFromValues (expectedFields name fields) fields 0 start items with
      | (r, []) => return r
      | _ => .error (.invalidLength items.length "fewer elements in array")
    | .obj members => do
      let r ← members.foldlM (fieldFromMember fields) start
      match missing? fields (members.map (·.1)) with
      | some key => .error (.missingField key)
      | none => return r
    | j => .error (.invalidType (found j) s!"struct {name}")

end Decoder

end TokenGate.Json
