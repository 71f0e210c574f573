import TokenGate.Rpc.Service
/-!
The services of a node by their namespaces. No two of them share a namespace.
-/
namespace TokenGate.Rpc

/-- A service under its namespace. Only callers that are authenticated may call it if it says so. -/
structure Api where
  name : String
  version : String := "1.0"
  service : Service
  authenticated : Bool := false

def Api.describe (a : Api) : String :=
  s!"ApiDescriptor \x7b namespace: {Text.quoted a.name}, version: {Text.quoted a.version}, " ++
    s!"authenticated: {a.authenticated}, .. \x7d"

structure Registry where
  apis : List Api
  distinct : (apis.map Api.name).Nodup

namespace Registry

def empty : Registry := ⟨[], by simp⟩

def get? (r : Registry) (name : String) : Option Api := r.apis.find? (·.name = name)

/-- Adds a service; a namespace that is taken is refused and returned. -/
def register (r : Registry) (a : Api) : Except String Registry :=
  if h : a.name ∈ r.apis.map Api.name then .error a.name
  else .ok ⟨r.apis ++ [a], by
    rw [List.map_append, List.nodup_append]
    refine ⟨r.distinct, by simp, ?_⟩
    intro x hx y hy
    simp only [List.map_cons, List.map_nil, List.mem_singleton] at hy
    subst hy
    exact fun he => h (he ▸ hx)⟩

/-- Namespaces in order. -/
def namespaces (r : Registry) : List String :=
  (r.apis.map Api.name).mergeSort fun x y => ! decide (y < x)

end Registry

/-- The namespace and the name that a method consists of, divided by its first underscore; neither
may be empty. -/
def splitMethod (method : String) : Option (String × String) :=
  let cs := method.toList
  match cs.takeWhile (· ≠ '_'), cs.dropWhile (· ≠ '_') with
  | [], _ => none
  | _, [] => none
  | _, [_] => none
  | ns, _ :: name => some (String.ofList ns, String.ofList name)

end TokenGate.Rpc
