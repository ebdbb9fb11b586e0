import PingoraGateway.Controller.RouteReconciler

/-!
# Relevant routes

A route is relevant when one of its parent refs is accepted by a Gateway of the
configured class. The syncer's parent-ref loop and `IsRouteAcceptedByGateway`
are two loops of the source that both compute it, and the syncer keeps exactly
the relevant routes in list order. Whether a route is relevant depends on the
Gateways only through their keys, classes and listeners and on the rest of the
cluster only through its Namespaces, so status writes never change it.
-/

namespace PingoraGateway

section Namespaces

variable {c c' : Cluster} (h : c.namespaces = c'.namespaces)
include h

theorem namespaceMatchesSelector_congr (allowedRoutes : Option AllowedRoutes) (ns : String) :
    namespaceMatchesSelector c allowedRoutes ns = namespaceMatchesSelector c' allowedRoutes ns := by
  simp only [namespaceMatchesSelector, Cluster.getNamespace, h]

theorem listenerAcceptsRoute_congr (listener : Listener) (gatewayNamespace : String)
    (route : RouteInfo) :
    listenerAcceptsRoute c listener gatewayNamespace route =
      listenerAcceptsRoute c' listener gatewayNamespace route := by
  simp only [listenerAcceptsRoute, isNamespaceAllowed, namespaceMatchesSelector_congr h]

theorem findMatchingListenersLoop_congr (gatewayNamespace : String) (route : RouteInfo) :
    ∀ (listeners : List Listener) (matched : List String) (last : String),
      findMatchingListenersLoop c gatewayNamespace route listeners matched last =
        findMatchingListenersLoop c' gatewayNamespace route listeners matched last
  | [], _, _ => rfl
  | listener :: listeners, matched, last => by
    simp only [findMatchingListenersLoop, listenerAcceptsRoute_congr h,
      findMatchingListenersLoop_congr gatewayNamespace route listeners]

/-- The evaluator reads the cluster only through its Namespaces, and the Gateway
only through its namespace and listeners. -/
theorem validateBinding_congr {g g' : Gateway} (hns : g.ns = g'.ns)
    (hl : g.listeners = g'.listeners) (route : RouteInfo) :
    validateBinding c g route = validateBinding c' g' route := by
  simp only [validateBinding, findMatchingListeners, findMatchingListenersLoop_congr h, hns, hl]

end Namespaces

/-- What binding reads of a Gateway: its name, namespace, class and listeners. -/
def Gateway.bindingSpec (g : Gateway) : String × String × String × List Listener :=
  (g.name, g.ns, g.gatewayClassName, g.listeners)

/-- What binding and the builder read of a route: its name, namespace, parent
refs, hostnames and rules. -/
def Route.spec {Rule : Type} (r : Route Rule) :
    String × String × List ParentReference × List String × List Rule :=
  (r.name, r.ns, r.parentRefs, r.hostnames, r.rules)

/-- Routes that agree on their spec have one key. -/
theorem Route.key_eq_of_spec {Rule : Type} {R R' : Route Rule} (h : R.spec = R'.spec) :
    R.key = R'.key := by
  simp only [Route.spec, Prod.mk.injEq] at h
  simp [Route.key, h.1, h.2.1]

/-- Whether a route has a parent ref that a Gateway of the class accepts. -/
def isRelevantRoute {Rule : Type} (c : Cluster) (gatewayClassName kind : String)
    (route : Route Rule) : Bool :=
  route.parentRefs.any fun ref =>
    (parentBinding c gatewayClassName kind route ref).any (·.accepted)

/-- The syncer's binding of a parent ref is the evaluator's result exactly for
a ref of kind Gateway, or of no kind, whose Gateway exists with the class and
that the evaluator decides without error. -/
theorem parentBinding_eq_some_iff {Rule : Type} {c : Cluster} {gatewayClassName kind : String}
    {route : Route Rule} {ref : ParentReference} {result : BindingResult} :
    parentBinding c gatewayClassName kind route ref = some result ↔
      (ref.kind = none ∨ ref.kind = some kindGateway) ∧
      ∃ gateway, c.getGateway ref.name (ref.ns.getD route.ns) = some gateway ∧
        gateway.gatewayClassName = gatewayClassName ∧
        validateBinding c gateway ⟨route.name, route.ns, route.hostnames, kind,
          ref.sectionName⟩ = .ok result := by
  have hkind : (ref.kind.isSome && ref.kind != some kindGateway) = false ↔
      ref.kind = none ∨ ref.kind = some kindGateway := by
    cases ref.kind <;> simp
  unfold parentBinding
  split
  · rename_i hk
    simp only [reduceCtorEq, false_iff, not_and]
    exact fun h => absurd (hkind.mpr h) (by simp [hk])
  rename_i hk
  simp only [Bool.not_eq_true] at hk
  simp only [hkind.mp hk, true_and]
  split
  · rename_i hg
    simp [hg]
  rename_i gateway hg
  simp only [hg, Option.some.injEq, exists_eq_left']
  split
  · rename_i hc
    simp only [reduceCtorEq, false_iff, not_and]
    exact fun h => absurd h (by simpa using hc)
  rename_i hc
  simp only [bne_iff_ne, ne_eq, not_not] at hc
  simp only [hc, true_and]
  split <;> rename_i hv <;> simp [hv]

section Loops

variable {Rule : Type} (c : Cluster) (gatewayClassName kind : String) (route : Route Rule)

/-- The syncer's parent-ref loop finds an accepted binding exactly for a
relevant route. -/
theorem bindParentRefs_snd : ∀ (refIdx : Nat) (refs : List ParentReference)
    (results : List (Nat × BindingResult)) (has : Bool),
    (bindParentRefs c gatewayClassName kind route refIdx refs results has).2 =
      (has || refs.any fun ref =>
        (parentBinding c gatewayClassName kind route ref).any (·.accepted))
  | _, [], _, has => by simp [bindParentRefs]
  | refIdx, ref :: refs, results, has => by
    simp only [bindParentRefs]
    cases hb : parentBinding c gatewayClassName kind route ref <;>
      simp [bindParentRefs_snd _ refs, hb, Bool.or_assoc]

/-- Numbering a list leaves what `any` finds in it. -/
theorem any_enumFrom_snd {α : Type} (f : α → Bool) :
    ∀ (n : Nat) (l : List α), (l.enumFrom n).any (fun p => f p.2) = l.any f
  | _, [] => rfl
  | n, a :: l => by
    rw [List.enumFrom_cons, List.any_cons, List.any_cons, any_enumFrom_snd f (n + 1) l]

/-- `IsRouteAcceptedByGateway`'s own loop accepts at a ref whose Gateway `Get`
succeeds and whose binding, as the syncer computes it, is accepted. -/
theorem isRouteAcceptedByGatewayLoop_eq (gatewayGetOk : Nat → Bool) :
    ∀ (refIdx : Nat) (refs : List ParentReference),
    isRouteAcceptedByGatewayLoop c gatewayClassName kind route gatewayGetOk refIdx refs =
      (refs.enumFrom refIdx).any fun p =>
        gatewayGetOk p.1 && (parentBinding c gatewayClassName kind route p.2).any (·.accepted)
  | _, [] => rfl
  | refIdx, ref :: refs => by
    rw [List.enumFrom_cons, List.any_cons,
      ← isRouteAcceptedByGatewayLoop_eq gatewayGetOk (refIdx + 1) refs]
    simp only [isRouteAcceptedByGatewayLoop, parentBinding]
    split
    · simp
    · cases gatewayGetOk refIdx
      · simp
      · simp only [Bool.not_true, Bool.false_eq_true, if_false, Bool.true_and]
        cases c.getGateway ref.name (ref.ns.getD route.ns) with
        | none => simp
        | some gateway =>
          simp only
          split
          · simp
          · cases validateBinding c gateway
                ⟨route.name, route.ns, route.hostnames, kind, ref.sectionName⟩ with
            | error => simp
            | ok result => cases result.accepted <;> simp

/-- With every Gateway `Get` succeeding, `IsRouteAcceptedByGateway` computes the
same as the syncer's loop. -/
theorem isRouteAcceptedByGateway_eq {gatewayGetOk : Nat → Bool}
    (hok : ∀ refIdx, gatewayGetOk refIdx = true) :
    isRouteAcceptedByGateway c gatewayClassName kind route gatewayGetOk =
      isRelevantRoute c gatewayClassName kind route := by
  rw [isRouteAcceptedByGateway, isRouteAcceptedByGatewayLoop_eq, isRelevantRoute]
  simp only [hok, Bool.true_and]
  exact any_enumFrom_snd (fun ref => (parentBinding c gatewayClassName kind route ref).any
    (·.accepted)) 0 route.parentRefs

/-- The syncer's route loop keeps the relevant routes in list order. -/
theorem relevantRoutesLoop_fst :
    ∀ (routes acc : List (Route Rule)) (bindings : List (String × RouteBindingInfo)),
    (relevantRoutesLoop c gatewayClassName kind routes acc bindings).1 =
      acc ++ routes.filter (isRelevantRoute c gatewayClassName kind)
  | [], acc, _ => by simp [relevantRoutesLoop]
  | route :: routes, acc, bindings => by
    simp only [relevantRoutesLoop, relevantRoutesLoop_fst routes, bindParentRefs_snd, Bool.false_or]
    cases h : isRelevantRoute c gatewayClassName kind route <;>
      simp_all [isRelevantRoute, List.filter_cons]

end Loops

/-- Two clusters bind alike: their Gateways agree up to status and their
Namespaces are the same. -/
structure SameBindings (c c' : Cluster) : Prop where
  gateways : c'.gateways.items.map Gateway.bindingSpec = c.gateways.items.map Gateway.bindingSpec
  namespaces : c'.namespaces = c.namespaces

namespace SameBindings

variable {c c' : Cluster}

theorem refl (c : Cluster) : SameBindings c c := ⟨rfl, rfl⟩

theorem trans {c'' : Cluster} (h : SameBindings c c') (h' : SameBindings c' c'') :
    SameBindings c c'' :=
  ⟨h'.gateways.trans h.gateways, h'.namespaces.trans h.namespaces⟩

theorem getGateway (h : SameBindings c c') (name ns : String) :
    (c'.getGateway name ns).map Gateway.bindingSpec =
      (c.getGateway name ns).map Gateway.bindingSpec :=
  Store.get_map_eq
    (g := fun b : String × String × String × List Listener => (⟨b.2.1, b.1⟩ : ObjectKey))
    (fun _ => rfl) h.gateways _

/-- Clusters that bind alike give a route the same binding at every parent ref,
as do routes that agree on name, namespace and hostnames. -/
theorem parentBinding_eq (h : SameBindings c c') {Rule : Type} {route route' : Route Rule}
    (hn : route'.name = route.name) (hns : route'.ns = route.ns)
    (hh : route'.hostnames = route.hostnames) (gatewayClassName kind : String)
    (ref : ParentReference) :
    parentBinding c' gatewayClassName kind route' ref =
      parentBinding c gatewayClassName kind route ref := by
  have hg := h.getGateway ref.name (ref.ns.getD route.ns)
  simp only [parentBinding, hn, hns, hh]
  rcases h1 : c.getGateway ref.name (ref.ns.getD route.ns) with _ | g <;>
    rcases h2 : c'.getGateway ref.name (ref.ns.getD route.ns) with _ | g' <;>
    rw [h1, h2] at hg <;> simp only [Option.map_none', Option.map_some', reduceCtorEq] at hg
  simp only [Option.some.injEq, Gateway.bindingSpec, Prod.mk.injEq] at hg
  obtain ⟨-, hgns, hcls, hl⟩ := hg
  simp only [hcls, validateBinding_congr h.namespaces hgns hl]

theorem isRelevantRoute_eq (h : SameBindings c c') {Rule : Type} {route route' : Route Rule}
    (hs : route'.spec = route.spec) (gatewayClassName kind : String) :
    isRelevantRoute c' gatewayClassName kind route' =
      isRelevantRoute c gatewayClassName kind route := by
  simp only [Route.spec, Prod.mk.injEq] at hs
  obtain ⟨hn, hns, hr, hh, -⟩ := hs
  simp only [isRelevantRoute, hr, h.parentBinding_eq hn hns hh]

end SameBindings

section GatewayEdits

variable {Rule : Type} {c c' : Cluster} {gatewayClassName kind : String} {route : Route Rule}

/-- Where the Gateway a parent ref names is looked up alike, the ref binds alike. -/
theorem parentBinding_eq_of_getGateway (hn : c'.namespaces = c.namespaces) {ref : ParentReference}
    (hg : c'.getGateway ref.name (ref.ns.getD route.ns) =
      c.getGateway ref.name (ref.ns.getD route.ns)) :
    parentBinding c' gatewayClassName kind route ref =
      parentBinding c gatewayClassName kind route ref := by
  simp only [parentBinding, hg, validateBinding_congr hn rfl rfl]

/-- A parent ref bound with acceptance names a Gateway of the class. -/
theorem gatewayClassName_of_parentBinding {ref : ParentReference} {g : Gateway}
    (hg : c.getGateway ref.name (ref.ns.getD route.ns) = some g)
    (h : (parentBinding c gatewayClassName kind route ref).any (·.accepted) = true) :
    g.gatewayClassName = gatewayClassName := by
  by_contra hne
  simp [parentBinding, hg, hne] at h

/-- A route relevant after a Gateway is put was relevant before, or names the
put Gateway, which is of the class. -/
theorem isRelevantRoute_of_putGateway {g : Gateway}
    (h : isRelevantRoute { c with gateways := c.gateways.put g } gatewayClassName kind route =
      true) :
    isRelevantRoute c gatewayClassName kind route = true ∨
      g.gatewayClassName = gatewayClassName ∧
        route.parentRefs.any (fun ref => ref.name == g.name) = true := by
  obtain ⟨ref, href, hacc⟩ := List.any_eq_true.mp h
  by_cases hk : g.key = ⟨ref.ns.getD route.ns, ref.name⟩
  · have hg : Cluster.getGateway { c with gateways := c.gateways.put g } ref.name
        (ref.ns.getD route.ns) = some g := by
      simp only [Cluster.getGateway, ← hk, Store.get_put_self]
    have hname : g.name = ref.name := congrArg ObjectKey.name hk
    exact .inr ⟨gatewayClassName_of_parentBinding hg hacc,
      List.any_eq_true.mpr ⟨ref, href, by simp [hname]⟩⟩
  · have hb :
        parentBinding { c with gateways := c.gateways.put g } gatewayClassName kind route ref =
          parentBinding c gatewayClassName kind route ref :=
      parentBinding_eq_of_getGateway (by rfl) (by exact Store.get_put_ne _ _ hk)
    exact .inl (List.any_eq_true.mpr ⟨ref, href, hb ▸ hacc⟩)

/-- A route relevant after a Gateway is deleted was relevant before. -/
theorem isRelevantRoute_of_eraseGateway {key : ObjectKey}
    (h : isRelevantRoute { c with gateways := c.gateways.erase key } gatewayClassName kind route =
      true) :
    isRelevantRoute c gatewayClassName kind route = true := by
  obtain ⟨ref, href, hacc⟩ := List.any_eq_true.mp h
  by_cases hk : key = ⟨ref.ns.getD route.ns, ref.name⟩
  · subst hk
    simp [parentBinding, Cluster.getGateway] at hacc
  · have hb :
        parentBinding { c with gateways := c.gateways.erase key } gatewayClassName kind route ref =
          parentBinding c gatewayClassName kind route ref :=
      parentBinding_eq_of_getGateway (by rfl) (by exact Store.get_erase_ne _ hk)
    exact List.any_eq_true.mpr ⟨ref, href, hb ▸ hacc⟩

end GatewayEdits

end PingoraGateway
