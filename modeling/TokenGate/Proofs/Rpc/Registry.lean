import Mathlib.Data.List.TakeWhile
import TokenGate.Proofs.Basic
import TokenGate.Rpc.Dispatcher
/-!
Namespaces and the calls into them. Of the services that ask for a namespace the first one has it,
and a method reaches it if the namespace can be told from the method.
-/
namespace TokenGate.Rpc

namespace Registry

variable {r : Registry} {a : Api} {ns : String}

/-- What a call leaves behind; one that is refused leaves the registry as it was. -/
def afterCall (r : Registry) (a : Api) : Registry :=
  match r.register a with
  | .ok r => r
  | .error _ => r

/-- The registry that calls build. -/
def afterCalls (calls : List Api) : Registry := calls.foldl afterCall empty

theorem mem_namespaces : ns ∈ r.namespaces ↔ ns ∈ r.apis.map Api.name := by
  rw [namespaces, List.mem_mergeSort]

theorem get?_eq_none_iff : r.get? ns = none ↔ ns ∉ r.apis.map Api.name := by
  rw [get?, List.find?_eq_none, List.mem_map]
  constructor
  · rintro h ⟨a, ha, he⟩
    exact h a ha (decide_eq_true he)
  · intro h a ha he
    exact h ⟨a, ha, of_decide_eq_true he⟩

theorem get?_afterCall (r : Registry) (a : Api) (ns : String) :
    (r.afterCall a).get? ns = (r.get? ns).or ([a].find? (·.name = ns)) := by
  unfold afterCall register
  by_cases hn : a.name ∈ r.apis.map Api.name
  · rw [dif_pos hn]
    cases hr : r.get? ns with
    | some b => rfl
    | none =>
      have hne : a.name ≠ ns := by
        rintro rfl
        exact get?_eq_none_iff.1 hr hn
      rw [Option.none_or, List.find?_cons_of_neg (by simpa using hne), List.find?_nil]
  · rw [dif_neg hn]
    exact List.find?_append

/-- A namespace belongs to the first that has asked for it. -/
theorem get?_afterCalls (calls : List Api) (ns : String) :
    (afterCalls calls).get? ns = calls.find? (·.name = ns) := by
  -- what is registered already comes first, whatever it is
  have hrun (r : Registry) :
      (calls.foldl afterCall r).get? ns = (r.get? ns).or (calls.find? (·.name = ns)) := by
    induction calls generalizing r with
    | nil => rw [List.foldl_nil, List.find?_nil, Option.or_none]
    | cons a calls ih =>
      rw [List.foldl_cons, ih, get?_afterCall, Option.or_assoc, ← List.find?_append,
        List.singleton_append]
  exact hrun empty

end Registry

variable {r r' : Registry} {a : Api} {ns name method : String}

/-- A namespace without an underscore can be told from a method. -/
theorem splitMethod_append (hn : ns ≠ "") (hu : '_' ∉ ns.toList) (hm : name ≠ "") :
    splitMethod (ns ++ "_" ++ name) = some (ns, name) := by
  have hp : ∀ c ∈ ns.toList, decide (c ≠ '_') = true := by
    intro c hc
    apply decide_eq_true
    rintro rfl
    exact hu hc
  have hcs : (ns ++ "_" ++ name).toList = ns.toList ++ '_' :: name.toList := by
    have h : "_".toList = ['_'] := rfl
    rw [String.toList_append, String.toList_append, h, List.append_assoc, List.singleton_append]
  have hrest : ∀ c ∈ ('_' :: name.toList).head?, decide (c ≠ '_') = false := by
    intro c hc
    cases hc
    rfl
  obtain ⟨ht, hd⟩ := span_append hp hrest
  obtain ⟨c, cs, hc⟩ := List.exists_cons_of_ne_nil (mt String.toList_eq_nil_iff.1 hn)
  obtain ⟨d, ds, he⟩ := List.exists_cons_of_ne_nil (mt String.toList_eq_nil_iff.1 hm)
  rw [hc, he] at hcs ht hd
  have hs : splitMethod (ns ++ "_" ++ name) =
      some (String.ofList (c :: cs), String.ofList (d :: ds)) := by
    simp only [splitMethod, hcs, ht, hd]
  rwa [← hc, ← he, String.ofList_toList, String.ofList_toList] at hs

/-- The first underscore of a method divides it into a namespace and a name. -/
theorem splitMethod_eq_some_iff : splitMethod method = some (ns, name) ↔
    method = ns ++ "_" ++ name ∧ ns ≠ "" ∧ '_' ∉ ns.toList ∧ name ≠ "" := by
  constructor
  · intro h
    simp only [splitMethod] at h
    have happ : method.toList.takeWhile (· ≠ '_') ++ method.toList.dropWhile (· ≠ '_') =
        method.toList := List.takeWhile_append_dropWhile
    have hp : '_' ∉ method.toList.takeWhile (· ≠ '_') := by
      intro hm
      simpa using List.mem_takeWhile_imp hm
    have hhead := List.head?_dropWhile_not (fun c => decide (c ≠ '_')) method.toList
    split at h
    · cases h
    · cases h
    · cases h
    · next point name hname hdrop hns =>
      cases h
      rw [hdrop] at happ hhead
      obtain rfl : point = '_' := by simpa using hhead
      simp only [ne_eq, ← String.toList_inj, String.toList_ofList]
      exact ⟨by simpa using happ.symm, hns, hp, hname⟩
  · rintro ⟨rfl, hn, hu, hm⟩
    exact splitMethod_append hn hu hm

/-- No other namespace is ever found in a method. -/
theorem of_splitMethod (h : splitMethod method = some (ns, name)) : ns ≠ "" ∧ '_' ∉ ns.toList := by
  obtain ⟨-, hn, hu, -⟩ := splitMethod_eq_some_iff.1 h
  exact ⟨hn, hu⟩

theorem dispatch_of_get? (h : r.get? ns = some a) (hn : ns ≠ "") (hu : '_' ∉ ns.toList)
    (hm : name ≠ "") (params : Option Json) :
    Dispatcher.dispatch ⟨r, .all⟩ (ns ++ "_" ++ name) params .authenticated =
      a.service name params := by
  have ha : Dispatcher.api? ⟨r, .all⟩ ns = some a := by
    rw [Dispatcher.api?, h]
    rfl
  simp only [Dispatcher.dispatch, splitMethod_append hn hu hm, ha, reduceCtorEq, and_false,
    if_false]

/-- A service under a namespace that no method can name is never called. -/
theorem dispatch_congr (h : ∀ ns, ns ≠ "" → '_' ∉ ns.toList → r.get? ns = r'.get? ns)
    (scope : Scope) (method : String) (params : Option Json) (caller : Caller) :
    Dispatcher.dispatch ⟨r, scope⟩ method params caller =
      Dispatcher.dispatch ⟨r', scope⟩ method params caller := by
  unfold Dispatcher.dispatch
  split
  · rfl
  · next ns name hs =>
    obtain ⟨hn, hu⟩ := of_splitMethod hs
    simp only [Dispatcher.api?, h ns hn hu]

/-- A namespace that is not empty and has no underscore can be called: its methods go to the first
service that has asked for it, whatever else is registered. -/
theorem dispatch_afterCalls (calls : List Api) (h : ns ∈ (Registry.afterCalls calls).namespaces)
    (hn : ns ≠ "") (hu : '_' ∉ ns.toList) (hm : name ≠ "") (params : Option Json) :
    ∃ a, calls.find? (·.name = ns) = some a ∧
      Dispatcher.dispatch ⟨.afterCalls calls, .all⟩ (ns ++ "_" ++ name) params .authenticated =
        a.service name params ∧
      ∀ r : Registry, r.get? ns = some a →
        Dispatcher.dispatch ⟨r, .all⟩ (ns ++ "_" ++ name) params .authenticated =
          a.service name params := by
  have hget := Registry.get?_afterCalls calls ns
  cases hf : calls.find? (·.name = ns) with
  | none =>
    rw [hf] at hget
    exact absurd (Registry.mem_namespaces.1 h) (Registry.get?_eq_none_iff.1 hget)
  | some a =>
    rw [hf] at hget
    refine ⟨a, rfl, dispatch_of_get? hget hn hu hm params, ?_⟩
    intro r hr
    exact dispatch_of_get? hr hn hu hm params

/-- A service that gives the same answer to everything. -/
def Service.constant (j : Json) : Service := fun _ _ => .ok j

/-- Services for one namespace that methods can name and two that they cannot; the last service is
too late. -/
def offered : List Api := [
  { name := "a_b", service := .constant (.str "inner"), authenticated := true },
  { name := "", service := .constant (.str "nameless") },
  { name := "a", service := .constant (.str "outer") },
  { name := "a", service := .constant (.str "late") }]

theorem dispatch_afterCalls_outer : ∃ a, offered.find? (·.name = "a") = some a ∧
    Dispatcher.dispatch ⟨.afterCalls offered, .all⟩ ("a" ++ "_" ++ "b_f") none .authenticated =
      a.service "b_f" none ∧
    ∀ r : Registry, r.get? "a" = some a →
      Dispatcher.dispatch ⟨r, .all⟩ ("a" ++ "_" ++ "b_f") none .authenticated =
        a.service "b_f" none :=
  dispatch_afterCalls offered (Registry.mem_namespaces.2 (by decide)) (by decide) (by decide)
    (by decide) none

/-- A namespace with an underscore can lose its calls to another one, and the empty one has none. -/
theorem dispatch_astray :
    ("a_b" ∈ (Registry.afterCalls offered).namespaces ∧
      (∀ a, offered.find? (·.name = "a_b") = some a →
        Dispatcher.dispatch ⟨.afterCalls offered, .all⟩ ("a_b" ++ "_" ++ "f") none
          .authenticated ≠ a.service "f" none) ∧
      Dispatcher.dispatch ⟨.afterCalls offered, .all⟩ ("a_b" ++ "_" ++ "f") none .authenticated =
        .ok (.str "outer")) ∧
    ("" ∈ (Registry.afterCalls offered).namespaces ∧
      ∀ a, offered.find? (·.name = "") = some a →
        Dispatcher.dispatch ⟨.afterCalls offered, .all⟩ ("" ++ "_" ++ "f") none
          .authenticated ≠ a.service "f" none) := by
  refine ⟨⟨Registry.mem_namespaces.2 (by decide), ?inner, rfl⟩,
    Registry.mem_namespaces.2 (by decide), ?nameless⟩
  case inner =>
    intro a ha he
    cases ha
    have h : Json.str "outer" = .str "inner" := Except.ok.inj he
    exact absurd (Json.str.inj h) (by decide)
  case nameless =>
    intro a ha he
    cases ha
    cases he

end TokenGate.Rpc
