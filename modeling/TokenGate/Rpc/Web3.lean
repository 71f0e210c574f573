import TokenGate.Digest.Keccak
import TokenGate.Rpc.Service
/-!
The namespace `web3`: the version of the node, and the hash of hexadecimal data.
-/
namespace TokenGate.Rpc.Web3

/-- Removes a prefix `0x` in either case. -/
def stripPrefix? (s : String) : Option String :=
  match s.toList with
  | '0' :: 'x' :: rest => some (String.ofList rest)
  | '0' :: 'X' :: rest => some (String.ofList rest)
  | _ => none

def sha3 (data : String) : Except Error String :=
  match stripPrefix? data with
  | none => .error (.invalidParams "hex string without 0x prefix")
  | some digits =>
    match Hex.decode digits with
    | .error f => .error (.ofHexFault f)
    | .ok bytes => .ok ("0x" ++ Hex.encode (Keccak.digest bytes))

def service (clientVersion : String) : Service := fun method params =>
  match method with
  | "clientVersion" => .ok (.str clientVersion)
  | "sha3" => do
    let data ← param .string params 0
    return .str (← sha3 data)
  | _ => .error (.methodNotFound ("web3_" ++ method))

end TokenGate.Rpc.Web3
