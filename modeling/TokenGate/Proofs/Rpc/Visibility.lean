import TokenGate.Rpc.Router
/-!
What services show. A router's answers show of them what the caller may see, and no more: services
that ask for authentication show nothing but their namespaces to a caller who is anonymous.
-/
namespace TokenGate.Rpc

/-- What a caller may see of a service: whether it asks for authentication, and what it does if it
lets this caller in. -/
structure View where
  authenticated : Bool
  service : Option Service

def Api.shownTo (a : Api) (caller : Caller) : View where
  authenticated := a.authenticated
  service := if a.authenticated = false ∨ caller = .authenticated then some a.service else none

/-- What a caller may see of a namespace: nothing, if it is not registered or not exposed. -/
def Dispatcher.view (d : Dispatcher) (caller : Caller) (name : String) : Option View :=
  if d.scope.exposes name then (d.registry.get? name).map (·.shownTo caller) else none

theorem Dispatcher.view_eq (d : Dispatcher) (caller : Caller) (name : String) :
    d.view caller name = (d.api? name).map (·.shownTo caller) := by
  simp only [view, api?]
  cases d.registry.get? name with
  | none => simp
  | some a =>
    cases d.scope.exposes name with
    | false => rfl
    | true => rfl

theorem Dispatcher.view_of_exposes {d d' : Dispatcher}
    (hs : ∀ name, d.scope.exposes name = d'.scope.exposes name)
    (hr : ∀ name, d.scope.exposes name → d.registry.get? name = d'.registry.get? name)
    (caller : Caller) (name : String) : d.view caller name = d'.view caller name := by
  simp only [view, ← hs]
  split
  · next he => rw [hr name he]
  · rfl

/-- What a caller gets from a service. -/
def Api.answer (a : Api) (caller : Caller) (name : String) (params : Option Json) :
    Except Error Json :=
  if a.authenticated ∧ caller = .anonymous then .error .unauthorized else a.service name params

theorem Api.answer_eq_of_shownTo {a b : Api} (h : a.shownTo caller = b.shownTo caller)
    (name : String) (params : Option Json) :
    a.answer caller name params = b.answer caller name params := by
  obtain ⟨hf, hs⟩ := View.mk.inj h
  cases hb : b.authenticated with
  | false =>
    rw [hb] at hf
    simp only [hf, hb, true_or, if_true, Option.some.injEq] at hs
    simp only [answer, hf, hb, hs]
  | true =>
    rw [hb] at hf
    cases caller with
    | anonymous => simp only [answer, hf, hb, and_self, if_true]
    | authenticated =>
      simp only [or_true, if_true, Option.some.injEq] at hs
      simp only [answer, hf, hb, hs]

theorem Dispatcher.dispatch_eq (d : Dispatcher) (method : String) (params : Option Json)
    (caller : Caller) :
    d.dispatch method params caller = match splitMethod method with
      | none => .error (.methodNotFound method)
      | some (ns, name) => match d.api? ns with
        | none => .error (.methodNotFound method)
        | some a => a.answer caller name params := rfl

/-- Routing reads nothing of services but what the caller may see of them. -/
theorem Dispatcher.dispatch_of_views {d d' : Dispatcher}
    (h : ∀ name, d.view caller name = d'.view caller name) (method : String)
    (params : Option Json) :
    d.dispatch method params caller = d'.dispatch method params caller := by
  rw [dispatch_eq, dispatch_eq]
  split
  · rfl
  · next ns name _ =>
    have hn := h ns
    rw [view_eq, view_eq] at hn
    cases hd : d.api? ns with
    | none =>
      rw [hd, Option.map_none, eq_comm, Option.map_eq_none_iff] at hn
      rw [hn]
    | some a =>
      rw [hd, Option.map_some, eq_comm, Option.map_eq_some_iff] at hn
      obtain ⟨b, hb, hab⟩ := hn
      rw [hb]
      exact (Api.answer_eq_of_shownTo hab name params).symm

/-- Two services that differ in what they do only if they ask for authentication. -/
structure Api.AgreesOpenly (a b : Api) : Prop where
  authenticated : a.authenticated = b.authenticated
  service : a.authenticated = false → a.service = b.service

/-- Two registries with the same namespaces, for services that differ in what they do only if they
ask for authentication. -/
def Registry.AgreesOpenly (r r' : Registry) : Prop :=
  ∀ name, Option.Rel Api.AgreesOpenly (r.get? name) (r'.get? name)

theorem Api.AgreesOpenly.shownTo_anonymous {a b : Api} (h : a.AgreesOpenly b) :
    a.shownTo .anonymous = b.shownTo .anonymous := by
  cases hf : a.authenticated with
  | true => simp only [shownTo, ← h.authenticated, hf, reduceCtorEq, or_self, if_false]
  | false => simp only [shownTo, ← h.authenticated, hf, h.service hf]

theorem Registry.AgreesOpenly.view_anonymous {r r' : Registry} (h : r.AgreesOpenly r')
    (scope : Scope) (name : String) :
    (Dispatcher.mk r scope).view .anonymous name =
      (Dispatcher.mk r' scope).view .anonymous name := by
  simp only [Dispatcher.view]
  have hn := h name
  generalize r.get? name = a, r'.get? name = b at hn ⊢
  cases hn with
  | none => rfl
  | some hab => rw [Option.map_some, Option.map_some, hab.shownTo_anonymous]

theorem Dispatcher.dispatch_anonymous {r r' : Registry} (h : r.AgreesOpenly r') (scope : Scope)
    (method : String) (params : Option Json) :
    (Dispatcher.mk r scope).dispatch method params .anonymous =
      (Dispatcher.mk r' scope).dispatch method params .anonymous :=
  dispatch_of_views (h.view_anonymous scope) method params

section
variable {d d' : Dispatcher} {caller : Caller}
  (h : ∀ method params, d.dispatch method params caller = d'.dispatch method params caller)
include h

/-- Of the dispatcher, nothing but its results shows in answers. -/
theorem Router.handleRequest_congr (max : Nat) (request : Json) :
    (Router.mk d max).handleRequest request caller =
      (Router.mk d' max).handleRequest request caller := by
  simp only [handleRequest, h]

theorem Router.handleValue_congr (max : Nat) (payload : Json) :
    (Router.mk d max).handleValue payload caller =
      (Router.mk d' max).handleValue payload caller := by
  simp only [handleValue, handleRequest_congr h]

theorem Router.handleBody_congr (max : Nat) (body : String) :
    (Router.mk d max).handleBody body caller = (Router.mk d' max).handleBody body caller := by
  simp only [handleBody, handleValue_congr h]

end

/-- Answers show of services only what the caller may see of them. So a namespace that is not
exposed is like one that is not registered, and to callers who are anonymous nothing shows what
services do that ask for authentication. -/
theorem Router.handleBody_of_views (caller : Caller) (max : Nat) (body : String) :
    (∀ d d' : Dispatcher, (∀ name, d.view caller name = d'.view caller name) →
      (Router.mk d max).handleBody body caller = (Router.mk d' max).handleBody body caller) ∧
    (∀ (scope : Scope) (r r' : Registry),
      (∀ name, scope.exposes name → r.get? name = r'.get? name) →
      (Router.mk ⟨r, scope⟩ max).handleBody body caller =
        (Router.mk ⟨r', scope⟩ max).handleBody body caller) ∧
    (∀ (scope : Scope) (r r' : Registry), r.AgreesOpenly r' →
      (Router.mk ⟨r, scope⟩ max).handleBody body .anonymous =
        (Router.mk ⟨r', scope⟩ max).handleBody body .anonymous) := by
  refine ⟨?_, ?_, ?_⟩
  · intro d d' h
    exact handleBody_congr (Dispatcher.dispatch_of_views h) max body
  · intro scope r r' h
    have hv := @Dispatcher.view_of_exposes ⟨r, scope⟩ ⟨r', scope⟩ (fun _ => rfl) h caller
    exact handleBody_congr (Dispatcher.dispatch_of_views hv) max body
  · intro scope r r' h
    exact handleBody_congr (Dispatcher.dispatch_anonymous h scope) max body

theorem Router.handleBody_of_views_hidden :
    let api (name : String) (authenticated : Bool) (result : Json) : Api :=
      { name, service := fun _ _ => .ok result, authenticated }
    let d : Dispatcher :=
      ⟨⟨[api "a" true .null, api "b" true .null], by simp [api]⟩, .modules ["a", "c"]⟩
    let d' : Dispatcher :=
      ⟨⟨[api "a" true (.bool true)], by simp⟩, .modules ["a"]⟩
    d.dispatch "a_f" none .authenticated = .ok .null ∧
      d'.dispatch "a_f" none .authenticated = .ok (.bool true) ∧
      ∀ max body, (Router.mk d max).handleBody body .anonymous =
        (Router.mk d' max).handleBody body .anonymous := by
  intro api d d'
  refine ⟨by rfl, by rfl, ?_⟩
  intro max body
  apply (handleBody_of_views .anonymous max body).1
  intro name
  by_cases ha : name = "a"
  · subst ha
    rfl
  · have hd' : d'.scope.exposes name = false := by simpa [d', Scope.exposes] using ha
    by_cases hc : name = "c"
    · subst hc
      rfl
    · have hd : d.scope.exposes name = false := by simpa [d, Scope.exposes] using ⟨ha, hc⟩
      simp only [Dispatcher.view, hd, hd', Bool.false_eq_true, if_false]

end TokenGate.Rpc
