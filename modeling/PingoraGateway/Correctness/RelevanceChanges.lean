import PingoraGateway.Correctness.Ownership

/-!
# Relevance changes reach the route queues

A route is relevant when a Gateway of the controller's class accepts it at one
of its parent refs, and the syncer pushes exactly the relevant routes.
Relevance reads the route's spec, the Gateways' classes and listeners and the
Namespaces. An edit other than a Namespace edit that changes whether the route
under a key is relevant puts that key in its kind's queue, as long as the route
reconcilers' `List` calls in their map functions succeed: a route edit through
the route's own event, a Gateway edit through `findRoutesForGateway` on the
Gateway before or after it. The API server moves a generation whenever
relevance can change, so the reconcilers' filter never drops such an event.
-/

namespace PingoraGateway

/-- Whether the route of a kind under a key exists and is relevant. -/
def relevantKey (c : Cluster) (gatewayClassName : String) (k : RouteKind) (key : ObjectKey) :
    Bool :=
  match (c.routes k).get key with
  | none => false
  | some R => isRelevantRoute c gatewayClassName k.kindName R

section Frame

variable {c c' : Cluster} {gatewayClassName : String}

/-- Clusters that bind alike and hold the same route under a key agree on its
relevance. -/
theorem relevantKey_eq_of_get (hb : SameBindings c c') {k : RouteKind} {key : ObjectKey}
    (hg : (c'.routes k).get key = (c.routes k).get key) :
    relevantKey c' gatewayClassName k key = relevantKey c gatewayClassName k key := by
  simp only [relevantKey, hg]
  cases (c.routes k).get key with
  | none => rfl
  | some R => exact hb.isRelevantRoute_eq rfl _ _

/-- Relevance reads only the routes, the Gateways and the Namespaces. -/
theorem relevantKey_frame (hr : ∀ k, c'.routes k = c.routes k)
    (hg : c'.gateways = c.gateways) (hn : c'.namespaces = c.namespaces) (k : RouteKind)
    (key : ObjectKey) :
    relevantKey c' gatewayClassName k key = relevantKey c gatewayClassName k key :=
  relevantKey_eq_of_get ⟨by rw [hg], hn⟩ (by rw [hr])

/-- A route that a change of the Gateway under `K` alone takes out of relevance
was accepted by the Gateway under `K`, which is of the class and which the
route names. -/
theorem accepting_gateway_of_lost {Rule : Type} {kind : String} {route : Route Rule}
    {K : ObjectKey} (hn : c'.namespaces = c.namespaces)
    (hK : ∀ K', K' ≠ K → c'.gateways.get K' = c.gateways.get K')
    (h : isRelevantRoute c gatewayClassName kind route = true)
    (h' : isRelevantRoute c' gatewayClassName kind route = false) :
    ∃ o, c.gateways.get K = some o ∧ o.gatewayClassName = gatewayClassName ∧
      route.parentRefs.any (fun ref => ref.name == o.name) = true := by
  obtain ⟨ref, href, hacc⟩ := List.any_eq_true.mp h
  by_cases hk : K = ⟨ref.ns.getD route.ns, ref.name⟩
  · subst hk
    rcases hg : c.getGateway ref.name (ref.ns.getD route.ns) with _ | o
    · simp [parentBinding, hg] at hacc
    · have hname : o.name = ref.name := congrArg ObjectKey.name (Store.mem_of_get hg).2
      exact ⟨o, hg, gatewayClassName_of_parentBinding hg hacc,
        List.any_eq_true.mpr ⟨ref, href, by simp [hname]⟩⟩
  · have hb : parentBinding c' gatewayClassName kind route ref =
        parentBinding c gatewayClassName kind route ref :=
      parentBinding_eq_of_getGateway hn (hK _ (Ne.symm hk))
    rw [isRelevantRoute, List.any_eq_false] at h'
    exact absurd (hb ▸ hacc) (h' ref href)

end Frame

namespace System

variable (cfg : ControllerConfig) (s : System)

variable {cfg s} {k : RouteKind} {key : ObjectKey} (env : EditEnv)

/-- A put of a route enqueues the route under a key whose relevance it changes:
only the put route can change, and an update that keeps its generation keeps
its spec. -/
theorem putRoute_enqueues (k' : RouteKind) (route : Route k'.Rule)
    (h : relevantKey (s.applyEdit cfg (.putRoute k' route) env).cluster cfg.gatewayClassName k
      key ≠ relevantKey s.cluster cfg.gatewayClassName k key) :
    key ∈ (s.applyEdit cfg (.putRoute k' route) env).queue k := by
  dsimp only [applyEdit] at h ⊢
  generalize hold : (s.cluster.routes k').get route.key = old at h ⊢
  simp only [cluster_routeEvent, cluster_withCluster] at h
  by_cases hk : k' = k
  · subst hk
    by_cases hkey : route.key = key
    · subst hkey
      cases hgen : (WatchEvent.ofPut old (storedRoute old route)).generationChanged
          (·.generation) with
      | false =>
        obtain ⟨o, rfl, hg⟩ := WatchEvent.eq_of_generationChanged_ofPut hgen
        have ho := Store.mem_of_get hold
        have hget : ((s.cluster.setRoutes k' ((s.cluster.routes k').put
            (storedRoute (some o) route))).routes k').get route.key =
            some (storedRoute (some o) route) := by
          rw [Cluster.routes_setRoutes]
          exact Store.get_put_of_key _ (key_storedRoute _ _)
        refine (h ?_).elim
        simp only [relevantKey, hget, hold]
        exact (SameBindings.setRoutes _ _ _).isRelevantRoute_eq (spec_storedRoute ho.2 hg) _ _
      | true =>
        exact mem_queue_routeEvent _ _ hgen (WatchEvent.mem_requests_ofPut (by simp))
    · refine (h (relevantKey_eq_of_get (SameBindings.setRoutes _ _ _) ?_)).elim
      rw [Cluster.routes_setRoutes]
      exact Store.get_put_ne _ _ (by rwa [key_storedRoute])
  · exact (h (relevantKey_eq_of_get (SameBindings.setRoutes _ _ _)
      (by rw [Cluster.routes_setRoutes_ne _ _ (Ne.symm hk)]))).elim

/-- A delete of a route enqueues it: a delete passes the filter. -/
theorem deleteRoute_enqueues (k' : RouteKind) (key' : ObjectKey)
    (h : relevantKey (s.applyEdit cfg (.deleteRoute k' key') env).cluster cfg.gatewayClassName k
      key ≠ relevantKey s.cluster cfg.gatewayClassName k key) :
    key ∈ (s.applyEdit cfg (.deleteRoute k' key') env).queue k := by
  dsimp only [applyEdit] at h ⊢
  rcases hold : (s.cluster.routes k').get key' with _ | old <;> simp only [hold] at h ⊢
  · exact absurd rfl h
  simp only [cluster_routeEvent, cluster_withCluster] at h
  by_cases hk : k' = k
  · subst hk
    by_cases hkey : key' = key
    · subst hkey
      exact mem_queue_routeEvent _ _
        (show (WatchEvent.deleted old).generationChanged (·.generation) = true from rfl)
        (by simp [WatchEvent.requests, (Store.mem_of_get hold).2])
    · refine (h (relevantKey_eq_of_get (SameBindings.setRoutes _ _ _) ?_)).elim
      rw [Cluster.routes_setRoutes]
      exact Store.get_erase_ne _ hkey
  · exact (h (relevantKey_eq_of_get (SameBindings.setRoutes _ _ _)
      (by rw [Cluster.routes_setRoutes_ne _ _ (Ne.symm hk)]))).elim

/-- A put of a Gateway enqueues every route whose relevance it changes: a route
it makes relevant names the put Gateway, one it takes out of relevance names
the Gateway it replaced, and both are of the class. -/
theorem putGateway_enqueues (g : Gateway) {env : EditEnv} (henv : env.routeReadsOk = true)
    (h : relevantKey (s.applyEdit cfg (.putGateway g) env).cluster cfg.gatewayClassName k key ≠
      relevantKey s.cluster cfg.gatewayClassName k key) :
    key ∈ (s.applyEdit cfg (.putGateway g) env).queue k := by
  dsimp only [applyEdit] at h ⊢
  generalize hold : s.cluster.gateways.get g.key = old at h ⊢
  simp only [cluster_gatewayEvent, cluster_withCluster] at h
  rcases hR : (s.cluster.routes k).get key with _ | R
  · simp [relevantKey, hR] at h
  have hRmem := Store.mem_of_get hR
  simp only [relevantKey, Cluster.routes_setGateways, hR] at h
  cases hgen : (WatchEvent.ofPut old (storedGateway old g)).generationChanged (·.generation) with
  | false =>
    obtain ⟨o, rfl, hg⟩ := WatchEvent.eq_of_generationChanged_ofPut hgen
    have ho := Store.mem_of_get hold
    have hb : SameBindings s.cluster { s.cluster with
        gateways := s.cluster.gateways.put (storedGateway (some o) g) } :=
      ⟨Store.map_put_of_mem _ ho.1 (by rw [key_storedGateway, ho.2])
        (bindingSpec_storedGateway ho.2 hg), rfl⟩
    exact (h (hb.isRelevantRoute_eq rfl _ _)).elim
  | true =>
    rw [← hRmem.2]
    refine mem_queue_gatewayEvent _ _ _ _ hgen ?_
    cases hb : isRelevantRoute s.cluster cfg.gatewayClassName k.kindName R
    · rw [hb, ne_eq, Bool.not_eq_false] at h
      rcases isRelevantRoute_of_putGateway h with hrel | ⟨hcls, hname⟩
      · exact absurd hrel (by simp [hb])
      · exact WatchEvent.mem_requests_ofPut
          (mem_findRoutesForGateway _ cfg (EditEnv.readOk_route henv k _ _) hcls hRmem.1 hname)
    · rw [hb, ne_eq, Bool.not_eq_true] at h
      obtain ⟨o, ho, hcls, hname⟩ := accepting_gateway_of_lost (K := g.key) (by rfl)
        (fun K' hK' => Store.get_put_ne _ _ (by rwa [key_storedGateway, ne_comm])) hb h
      rw [hold] at ho
      subst ho
      simp only [WatchEvent.ofPut, WatchEvent.requests, List.mem_append]
      exact .inl
        (mem_findRoutesForGateway _ cfg (EditEnv.readOk_route henv k _ _) hcls hRmem.1 hname)

/-- A delete of a Gateway enqueues every route it takes out of relevance, which
names the deleted Gateway; a delete passes the filter and makes no route
relevant. -/
theorem deleteGateway_enqueues (key' : ObjectKey) {env : EditEnv}
    (henv : env.routeReadsOk = true)
    (h : relevantKey (s.applyEdit cfg (.deleteGateway key') env).cluster cfg.gatewayClassName k
      key ≠ relevantKey s.cluster cfg.gatewayClassName k key) :
    key ∈ (s.applyEdit cfg (.deleteGateway key') env).queue k := by
  dsimp only [applyEdit] at h ⊢
  rcases hold : s.cluster.gateways.get key' with _ | old <;> simp only [hold] at h ⊢
  · exact absurd rfl h
  simp only [cluster_gatewayEvent, cluster_withCluster] at h
  rcases hR : (s.cluster.routes k).get key with _ | R
  · simp [relevantKey, hR] at h
  have hRmem := Store.mem_of_get hR
  simp only [relevantKey, Cluster.routes_setGateways, hR] at h
  cases hb : isRelevantRoute s.cluster cfg.gatewayClassName k.kindName R
  · rw [hb, ne_eq, Bool.not_eq_false] at h
    exact absurd (isRelevantRoute_of_eraseGateway h) (by simp [hb])
  · rw [hb, ne_eq, Bool.not_eq_true] at h
    obtain ⟨o, ho, hcls, hname⟩ := accepting_gateway_of_lost (K := key') (by rfl)
      (fun K' hK' => Store.get_erase_ne _ (Ne.symm hK')) hb h
    obtain rfl : old = o := Option.some.inj (hold.symm.trans ho)
    rw [← hRmem.2]
    exact mem_queue_gatewayEvent _ _ _ _
      (show (WatchEvent.deleted old).generationChanged (·.generation) = true from rfl)
      (mem_findRoutesForGateway _ cfg (EditEnv.readOk_route henv k _ _) hcls hRmem.1 hname)

end System

/-- No change of relevance is lost: an edit other than a Namespace edit, whose
route reconcilers' map functions read without error, that changes whether the
route of a kind under a key is relevant puts the key in the kind's queue. -/
theorem relevance_changes_enqueued (cfg : ControllerConfig) (s : System) (e : Edit)
    (env : EditEnv) (he : (Action.edit e env).inTableScope = true) (k : RouteKind)
    (key : ObjectKey)
    (h : relevantKey (s.applyEdit cfg e env).cluster cfg.gatewayClassName k key ≠
      relevantKey s.cluster cfg.gatewayClassName k key) :
    key ∈ (s.applyEdit cfg e env).queue k := by
  cases e with
  | putRoute k' route => exact System.putRoute_enqueues env k' route h
  | deleteRoute k' key' => exact System.deleteRoute_enqueues env k' key' h
  | putGateway g => exact System.putGateway_enqueues g he h
  | deleteGateway key' => exact System.deleteGateway_enqueues key' he h
  | putNamespace _ | deleteNamespace _ => exact absurd he Bool.false_ne_true
  | _ =>
    refine (h ?_).elim
    simp only [System.applyEdit]
    try split
    all_goals first
      | rfl
      | simp only [System.cluster_gatewayClassEvent, System.cluster_pingoraConfigEvent,
          System.cluster_secretEvent, System.cluster_withCluster]
        exact relevantKey_frame (fun k => by cases k <;> rfl) (by rfl) (by rfl) k key

/-- `attachedCluster` with every queue drained. -/
def drainedAttachedSystem : System :=
  { System.init defaultControllerConfig attachedCluster ⟨[], [], 0⟩ with
    httpQueue := [], grpcQueue := [], gatewayQueue := [] }

theorem gateway_delete_enqueues_detached_route :
    (Action.edit (.deleteGateway ⟨"ns", "gw"⟩) okEditEnv).inTableScope = true ∧
    relevantKey (drainedAttachedSystem.applyEdit defaultControllerConfig
        (.deleteGateway ⟨"ns", "gw"⟩) okEditEnv).cluster "pingora" .http ⟨"ns", "r1"⟩ ≠
      relevantKey drainedAttachedSystem.cluster "pingora" .http ⟨"ns", "r1"⟩ ∧
    ⟨"ns", "r1"⟩ ∈ (drainedAttachedSystem.applyEdit defaultControllerConfig
      (.deleteGateway ⟨"ns", "gw"⟩) okEditEnv).queue .http :=
  ⟨rfl, by decide, relevance_changes_enqueued _ _ _ _ (by rfl) _ _ (by decide)⟩

end PingoraGateway
