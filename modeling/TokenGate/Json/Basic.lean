import TokenGate.Number.Binary64
/-!
JSON values. A number is a whole number of at most 64 bits or a binary floating-point number; the
members of an object are a list, in order of their keys unless a fixed order is meant.
-/
namespace TokenGate

namespace Json

inductive Number where
  | int (value : Int) (inRange : -0x8000_0000_0000_0000 ≤ value ∧ value < 0x1_0000_0000_0000_0000)
  | double (value : Binary64)
  deriving Repr, DecidableEq

end Json

inductive Json where
  | null
  | bool (value : Bool)
  | num (value : Json.Number)
  | str (value : String)
  | arr (items : List Json)
  | obj (members : List (String × Json))
  deriving Repr

namespace Json

/-- A whole number, if it is in the range of 64 bits, with a sign or without. -/
def Number.ofInt? (i : Int) : Option Number :=
  if h : -0x8000_0000_0000_0000 ≤ i ∧ i < 0x1_0000_0000_0000_0000 then some (.int i h) else none

/-- A whole number of 64 bits or fewer as a value. -/
def int (i : Int)
    (inRange : -0x8000_0000_0000_0000 ≤ i ∧ i < 0x1_0000_0000_0000_0000 := by omega) : Json :=
  .num (.int i inRange)

/-- A whole number as a value; null stands for one out of range. -/
def ofInt (i : Int) : Json :=
  match Number.ofInt? i with
  | some n => .num n
  | none => .null

/-- Puts a member into a list ordered by keys; an equal key gets the new value. -/
def putMember (key : String) (value : Json) : List (String × Json) → List (String × Json)
  | [] => [(key, value)]
  | (k, v) :: rest =>
    if key < k then (key, value) :: (k, v) :: rest
    else if key = k then (key, value) :: rest
    else (k, v) :: putMember key value rest

/-- Members in order of their keys; of members with equal keys the last one stays. -/
def sortMembers (members : List (String × Json)) : List (String × Json) :=
  members.foldl (fun sorted (k, v) => putMember k v sorted) []

/-- An object with its members in order of their keys. -/
def object (members : List (String × Json)) : Json := .obj (sortMembers members)

/-- The value of a member of an object. -/
def get? (key : String) : Json → Option Json
  | .obj members => members.lookup key
  | _ => none

end Json

end TokenGate
