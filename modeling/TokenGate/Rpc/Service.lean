import TokenGate.Rpc.Error
/-!
Services: what answers the methods of one namespace.
-/
namespace TokenGate.Rpc

/-- Answers a method, named without its namespace, for the parameters given, if there are any. -/
abbrev Service := String → Option Json → Except Error Json

/-- The parameter at an index. Parameters that are no list stand for a single one. -/
def param? (params : Option Json) (index : Nat) : Option Json :=
  match params with
  | some (.arr items) => items[index]?
  | some j => if index = 0 then some j else none
  | none => none

/-- Decodes the parameter at an index. -/
def param (d : Json.Decoder α) (params : Option Json) (index : Nat) : Except Error α :=
  match param? params index with
  | none => .error (.invalidParams s!"missing parameter at index {index}")
  | some j => (d.decodeValue j).mapError fun e =>
      .invalidParams s!"invalid parameter at index {index}: {e.message}"

end TokenGate.Rpc
