import TokenGate.Json.Printer
import TokenGate.Text.Quoted
/-!
Why a JSON value is not of the shape that was asked for.
-/
namespace TokenGate.Json

/-- What stands where something else was expected. -/
inductive Found where
  | null
  | bool (value : Bool)
  | number (value : Number)
  | string (value : String)
  | sequence
  | map
  deriving Repr

def Found.text : Found → String
  | .null => "null"
  | .bool b => s!"boolean `{b}`"
  | .number (.int i _) => s!"integer `{Text.decimal i}`"
  | .number (.double x) => s!"floating point `{String.ofList (Number.double x).chars}`"
  | .string s => s!"string {Text.quoted s}"
  | .sequence => "sequence"
  | .map => "map"

def found : Json → Found
  | .null => .null
  | .bool b => .bool b
  | .num n => .number n
  | .str s => .string s
  | .arr _ => .sequence
  | .obj _ => .map

inductive Mismatch where
  | invalidType (found : Found) (expected : String)
  | invalidValue (found : Found) (expected : String)
  | invalidLength (length : Nat) (expected : String)
  | missingField (name : String)
  | duplicateField (name : String)
  | other (text : String)
  deriving Repr

def Mismatch.message : Mismatch → String
  | .invalidType f e => s!"invalid type: {f.text}, expected {e}"
  | .invalidValue f e => s!"invalid value: {f.text}, expected {e}"
  | .invalidLength n e => s!"invalid length {n}, expected {e}"
  | .missingField f => s!"missing field `{f}`"
  | .duplicateField f => s!"duplicate field `{f}`"
  | .other t => t

end TokenGate.Json
