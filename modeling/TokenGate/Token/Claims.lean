import TokenGate.Json.Basic
/-!
What a token says: the header that names its algorithm, and its claims. Of the claims only the
time of issue is looked at, all others are carried along.
-/
namespace TokenGate.Token

/-- The one algorithm that is accepted. -/
def hs256 : String := "HS256"

/-- The algorithm of tokens without a signature. -/
def unsignedAlgorithm : String := "none"

structure Header where
  alg : String
  typ : Option String
  deriving Repr, DecidableEq

/-- The header of a token that is issued. -/
def Header.issue (alg : String) : Header := ⟨alg, some "JWT"⟩

def Header.toJson (h : Header) : Json :=
  .obj <| ("alg", .str h.alg) :: match h.typ with
    | some t => [("typ", .str t)]
    | none => []

/-- A header has an algorithm, and a type if that is not null. -/
def Header.ofMembers? (members : List (String × Json)) : Option Header :=
  match members.lookup "alg", members.lookup "typ" with
  | some (.str alg), none => some ⟨alg, none⟩
  | some (.str alg), some .null => some ⟨alg, none⟩
  | some (.str alg), some (.str typ) => some ⟨alg, some typ⟩
  | _, _ => none

/-- The time of issue in seconds since the epoch, and all other members. -/
structure Claims where
  iat : Option Int64
  extra : List (String × Json)
  deriving Repr

namespace Claims

def issuedAt (iat : Int64) : Claims := ⟨some iat, []⟩

/-- The time of issue is written first. -/
def toJson (c : Claims) : Json :=
  match c.iat with
  | some iat => .obj (("iat", Json.ofInt iat.toInt) :: c.extra)
  | none => .obj c.extra

/-- A time of issue: a whole number of 64 bits with a sign. -/
def seconds? : Json → Option Int64
  | .num (.int i _) => if i < 0x8000_0000_0000_0000 then some (Int64.ofInt i) else none
  | _ => none

def ofMembers? (members : List (String × Json)) : Option Claims :=
  let extra := members.filter (·.1 ≠ "iat")
  match members.lookup "iat" with
  | none => some ⟨none, extra⟩
  | some .null => some ⟨none, extra⟩
  | some j => (seconds? j).map fun iat => ⟨some iat, extra⟩

end Claims

end TokenGate.Token
