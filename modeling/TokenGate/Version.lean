/-!
The version of the node, and how it introduces itself.
-/
namespace TokenGate

def version : String := "0.1.0"

def clientVersion : String := s!"QuantumChain/v{version}/linux/rust"

end TokenGate
