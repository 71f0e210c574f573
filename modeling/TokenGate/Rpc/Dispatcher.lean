import TokenGate.Rpc.Registry
/-!
Routing of calls to services. What a listener does not expose looks as if it did not exist.
-/
namespace TokenGate.Rpc

/-- Whether a caller has passed a gate. -/
inductive Caller where
  | anonymous
  | authenticated
  deriving Repr, DecidableEq

/-- The namespaces that a listener exposes. -/
inductive Scope where
  | all
  | modules (names : List String)
  deriving Repr, DecidableEq

def Scope.exposes : Scope → String → Bool
  | .all, _ => true
  | .modules names, name => names.contains name

structure Dispatcher where
  registry : Registry
  scope : Scope

/-- The service that a listener offers under a namespace. -/
def Dispatcher.api? (d : Dispatcher) (name : String) : Option Api :=
  (d.registry.get? name).filter fun _ => d.scope.exposes name

def Dispatcher.dispatch (d : Dispatcher) (method : String) (params : Option Json)
    (caller : Caller) : Except Error Json :=
  match splitMethod method with
  | none => .error (.methodNotFound method)
  | some (ns, name) =>
    match d.api? ns with
    | none => .error (.methodNotFound method)
    | some api =>
      if api.authenticated ∧ caller = .anonymous then .error .unauthorized
      else api.service name params

end TokenGate.Rpc
