import PingoraGateway.Controller.RouteReconciler

/-!
# The route status writer

`updateRouteStatus` GETs a fresh copy of a route and replaces its whole
`status.parents` by entries built from the fresh spec and the snapshot's
binding results. Every entry it builds is this controller's, so a write removes
the entries other controllers wrote. The snapshot's results are read by
parent-ref index, so a spec change between the snapshot and the GET pairs a
parent with the result of whichever parent had its index before; and the
status loop of `syncAndUpdateStatus` visits only the snapshot's routes, which
are the routes with an accepted parent.
-/

namespace PingoraGateway

namespace RouteReconciler

section ParentStatuses

variable {Rule : Type} (r : RouteReconciler) (c : Cluster) (acceptedMessage : String)
  (fresh : Route Rule) (info : RouteBindingInfo) (syncErr : Option String) (now : Nat)

/-- Each entry the parent-ref loop builds is a `routeParentStatus` of this
controller for one of the refs, at the fresh route's generation. -/
theorem mem_parentStatuses :
    ∀ {refIdx : Nat} {refs : List ParentReference} {e : RouteParentStatus},
    e ∈ r.parentStatuses c acceptedMessage fresh info syncErr now refIdx refs →
      ∃ ref ∈ refs, ∃ ns accepted,
        e = routeParentStatus r.controllerName fresh.generation now ref ns accepted
  | _, [], _, he => by simp [parentStatuses] at he
  | refIdx, ref :: refs, e, he => by
    have ih : e ∈ r.parentStatuses c acceptedMessage fresh info syncErr now (refIdx + 1) refs →
        ∃ ref' ∈ ref :: refs, ∃ ns accepted,
          e = routeParentStatus r.controllerName fresh.generation now ref' ns accepted := by
      intro h
      obtain ⟨ref', hr, rest⟩ := mem_parentStatuses h
      exact ⟨ref', List.mem_cons_of_mem _ hr, rest⟩
    simp only [parentStatuses] at he
    split at he
    · exact ih he
    · split at he
      · exact ih he
      · split at he
        · exact ih he
        · rcases List.mem_cons.mp he with rfl | he
          · exact ⟨ref, List.mem_cons_self _ _, _, _, rfl⟩
          · exact ih he

/-- Every entry the parent-ref loop builds carries this controller's name. -/
theorem controllerName_of_mem_parentStatuses {refIdx : Nat} {refs : List ParentReference}
    {e : RouteParentStatus}
    (he : e ∈ r.parentStatuses c acceptedMessage fresh info syncErr now refIdx refs) :
    e.controllerName = r.controllerName := by
  obtain ⟨_, _, _, _, rfl⟩ := r.mem_parentStatuses c acceptedMessage fresh info syncErr now he
  rfl

end ParentStatuses

section UpdateRouteStatus

variable (r : RouteReconciler) (k : RouteKind) (c c' : Cluster) (route : Route k.Rule)
  (info : RouteBindingInfo) (syncErr : Option String) (now : Nat) (putOk : Bool)

/-- What a write that lands does: the fresh copy under the route's key gets the
rebuilt parents, and nothing else of the cluster changes. -/
theorem updateRouteStatus_eq_ok
    (h : r.updateRouteStatus k c route info syncErr now putOk = .ok c') :
    ∃ fresh, (c.routes k).get route.key = some fresh ∧ putOk = true ∧
      c' = c.setRoutes k ((c.routes k).put (r.withParentStatuses k c fresh info syncErr now)) := by
  unfold updateRouteStatus at h
  split at h
  · cases h
  · rename_i fresh hf
    split at h
    · exact ⟨fresh, hf, ‹_›, (Except.ok.inj h).symm⟩
    · cases h

/-- The rebuilt route keeps the fresh copy's key. -/
@[simp] theorem key_withParentStatuses (fresh : Route k.Rule) :
    (r.withParentStatuses k c fresh info syncErr now).key = fresh.key := rfl

/-- A write by `updateRouteStatus` replaces `status.parents` whole: the route
under the key becomes the fresh copy with the entries rebuilt from its spec,
and each of them carries this controller's name, so no entry of another
controller survives the write. -/
theorem updateRouteStatus_replaces_parents
    (h : r.updateRouteStatus k c route info syncErr now putOk = .ok c') :
    ∃ fresh, (c.routes k).get route.key = some fresh ∧
      (c'.routes k).get route.key = some (r.withParentStatuses k c fresh info syncErr now) ∧
      ∀ e ∈ (r.withParentStatuses k c fresh info syncErr now).parents,
        e.controllerName = r.controllerName := by
  obtain ⟨fresh, hf, -, rfl⟩ := r.updateRouteStatus_eq_ok k c c' route info syncErr now putOk h
  refine ⟨fresh, hf, ?_,
    fun e he => r.controllerName_of_mem_parentStatuses c _ fresh info syncErr now he⟩
  rw [Cluster.routes_setRoutes, ← (Store.mem_of_get hf).2, ← key_withParentStatuses,
    Store.get_put_self]

/-- A write leaves every other route of its kind as it was. -/
theorem updateRouteStatus_get_ne (h : r.updateRouteStatus k c route info syncErr now putOk = .ok c')
    {key : ObjectKey} (hk : key ≠ route.key) : (c'.routes k).get key = (c.routes k).get key := by
  obtain ⟨fresh, hf, -, rfl⟩ := r.updateRouteStatus_eq_ok k c c' route info syncErr now putOk h
  have hne : (r.withParentStatuses k c fresh info syncErr now).key ≠ key := by
    rw [key_withParentStatuses, (Store.mem_of_get hf).2]
    exact hk.symm
  rw [Cluster.routes_setRoutes, Store.get_put_ne _ _ hne]

end UpdateRouteStatus

end RouteReconciler

/-- The reconciler of the default class and controller name. -/
def defaultRouteReconciler : RouteReconciler :=
  ⟨"pingora", "pingora.k8s.lex.la/gateway-controller"⟩

/-- A Gateway in namespace `ns` of the given class, with one HTTP listener. -/
def listenerGateway (name gatewayClassName : String) (hostname : Option String) : Gateway :=
  ⟨name, "ns", 1, false, gatewayClassName, [⟨"http", hostname, "HTTP", none⟩],
    ⟨[], [], []⟩⟩

/-- A parent ref to a Gateway by name alone. -/
def gatewayRef (name : String) : ParentReference := ⟨none, none, none, name, none⟩

/-- An HTTPRoute attached to the default class's `gw` and to another
controller's `other`, carrying the other controller's status entry. -/
def sharedRoute : HTTPRoute :=
  ⟨"shared", "ns", 1, [gatewayRef "gw", gatewayRef "other"], ["example.com"], [],
    [⟨{ gatewayRef "other" with ns := some "ns" }, "example.net/other-controller", []⟩]⟩

/-- A cluster holding `sharedRoute` and both of its Gateways. -/
def sharedCluster : Cluster :=
  ⟨Store.empty,
    ⟨[listenerGateway "gw" "pingora" none, listenerGateway "other" "other" none], by decide⟩,
    ⟨[sharedRoute], by decide⟩, Store.empty, Store.empty, Store.empty, Store.empty⟩

/-- Writing the default controller's status on `sharedRoute` removes the other
controller's entry: the route had an entry of another controller, and after
the write it has only the default controller's entry for `gw`. -/
theorem updateRouteStatus_removes_foreign_entry :
    sharedRoute.parents.map (·.controllerName) = ["example.net/other-controller"] ∧
    ((PingoraHTTPRouteReconciler.updateRouteStatus defaultRouteReconciler sharedCluster sharedRoute
        ⟨[]⟩ none 0 true).toOption.bind fun c => (c.routes .http).get sharedRoute.key).map
      (·.parents.map (·.controllerName)) = some ["pingora.k8s.lex.la/gateway-controller"] := by
  decide

/-- The write on `sharedRoute` lands, and the replacement theorem describes it. -/
theorem updateRouteStatus_replaces_parents_shared :
    defaultRouteReconciler.updateRouteStatus .http sharedCluster sharedRoute ⟨[]⟩ none 0 true =
      .ok (sharedCluster.setRoutes .http ((sharedCluster.routes .http).put
        (defaultRouteReconciler.withParentStatuses .http sharedCluster sharedRoute ⟨[]⟩ none
          0))) ∧
    ∃ fresh, (sharedCluster.routes .http).get sharedRoute.key = some fresh ∧
      (((sharedCluster.setRoutes .http ((sharedCluster.routes .http).put
        (defaultRouteReconciler.withParentStatuses .http sharedCluster sharedRoute ⟨[]⟩ none
          0))).routes .http).get sharedRoute.key =
        some (defaultRouteReconciler.withParentStatuses .http sharedCluster fresh ⟨[]⟩ none
          0)) ∧
      ∀ e ∈ (defaultRouteReconciler.withParentStatuses .http sharedCluster fresh ⟨[]⟩ none
          0).parents,
        e.controllerName = defaultRouteReconciler.controllerName :=
  ⟨rfl, RouteReconciler.updateRouteStatus_replaces_parents _ _ _ _ _ _ _ _ true rfl⟩

/-- A cluster with the default GatewayClass, whose `parametersRef` names the
PingoraConfig `cfg`, and the given Gateways and HTTPRoutes. -/
def defaultCluster (gateways : Store Gateway Gateway.key) (httpRoutes : Store HTTPRoute Route.key) :
    Cluster :=
  ⟨⟨[⟨"pingora", some ⟨pingoraParametersRefGroup, pingoraParametersRefKind, "cfg"⟩⟩],
      by decide⟩,
    gateways, httpRoutes, Store.empty,
    ⟨[⟨"cfg", 1, ⟨"proxy:50051", none, none⟩⟩], by decide⟩, Store.empty, Store.empty⟩

/-- A syncer of the default class that has not connected yet. -/
def defaultSyncer : PingoraRouteSyncer :=
  newPingoraRouteSyncer "cluster.local" "pingora" ⟨"pingora-system"⟩

/-- A sync in which dialing and both lists succeed and the proxy applies version one. -/
def okSyncEnv : SyncEnv := ⟨true, true, true, .response true "" 1⟩

/-- The entry an earlier write recorded for `gw`, accepted. -/
def acceptedEntry : RouteParentStatus :=
  routeParentStatus "pingora.k8s.lex.la/gateway-controller" 1 0 (gatewayRef "gw") "ns"
    (.conditionTrue, reasonAccepted, pingoraRouteAcceptedMessage)

/-- A route whose only Gateway no longer admits its hostname, still carrying the
accepted entry of an earlier write. -/
def rejectedRoute : HTTPRoute :=
  ⟨"r", "ns", 1, [gatewayRef "gw"], ["other.com"], [], [acceptedEntry]⟩

/-- `rejectedRoute` under a Gateway whose listener admits only `example.com`. -/
def rejectedCluster : Cluster :=
  defaultCluster ⟨[listenerGateway "gw" "pingora" (some "example.com")], by decide⟩
    ⟨[rejectedRoute], by decide⟩

/-- A sync with no error and no status error leaves `rejectedRoute` as it was,
with `Accepted` true for `gw`, although the evaluator rejects the route there
with `NoMatchingListenerHostname`: the status loop visits only the snapshot's
routes, and a route with no accepted parent is not in the snapshot. -/
theorem syncAndUpdateStatus_skips_rejected_route :
    (∃ sr, (defaultSyncer.syncAllRoutes rejectedCluster okSyncEnv).2.2 =
        .returned ⟨0⟩ (some sr) none ∧
      (defaultRouteReconciler.updateRouteStatuses .http (sr.bindings .http) none 5 (sr.routes .http)
        [] rejectedCluster none).2 = none) ∧
    (validateBinding rejectedCluster (listenerGateway "gw" "pingora" (some "example.com"))
      ⟨"r", "ns", ["other.com"], kindHTTPRoute, none⟩).toOption.map (·.reason) =
        some reasonNoMatchingListenerHostname ∧
    ((defaultRouteReconciler.syncAndUpdateStatus .http rejectedCluster defaultSyncer
      ⟨okSyncEnv, [], none, []⟩ 5).cluster.routes .http).get rejectedRoute.key =
        some rejectedRoute :=
  ⟨⟨_, rfl, by decide⟩, by decide, by decide⟩

/-- A route with parent refs to `a`, whose listener admits every hostname, and
to `b`, whose listener admits only `b.example.com`. -/
def reorderedRoute : HTTPRoute :=
  ⟨"r", "ns", 1, [gatewayRef "a", gatewayRef "b"], ["a.example.com"], [], []⟩

/-- The Gateways `a` and `b` and `reorderedRoute`. -/
def reorderCluster : Cluster :=
  defaultCluster
    ⟨[listenerGateway "a" "pingora" none, listenerGateway "b" "pingora" (some "b.example.com")],
      by decide⟩
    ⟨[reorderedRoute], by decide⟩

/-- The cluster after a spec update swaps the route's parent refs, which the API
server stores as generation 2. -/
def swappedCluster : Cluster :=
  reorderCluster.setRoutes .http ⟨[{ reorderedRoute with
    generation := 2
    parentRefs := [gatewayRef "b", gatewayRef "a"] }], by decide⟩

/-- A spec update landing between the snapshot and the status write: the sync
lists the route with refs `[a, b]`, the update swaps them, and the status write
records for generation 2 `Accepted` true for `b` and false for `a`, the results
of the old refs at the same indices, while the evaluator rejects the route at
`b` and accepts it at `a`. -/
theorem updateRouteStatuses_pairs_snapshot_results_by_index :
    (∃ sr, (defaultSyncer.syncAllRoutes reorderCluster okSyncEnv).2.2 =
        .returned ⟨0⟩ (some sr) none ∧
      (((defaultRouteReconciler.updateRouteStatuses .http (sr.bindings .http) none 0
        (sr.routes .http) [] swappedCluster none).1.routes .http).get reorderedRoute.key).map
          (fun route => route.parents.map fun e => (e.parentRef.name,
            e.conditions.head?.map fun cond => (cond.observedGeneration, cond.status))) =
        some [("b", some (2, .conditionTrue)), ("a", some (2, .conditionFalse))]) ∧
    (validateBinding swappedCluster (listenerGateway "b" "pingora" (some "b.example.com"))
      ⟨"r", "ns", ["a.example.com"], kindHTTPRoute, none⟩).toOption.map (·.accepted) =
        some false ∧
    (validateBinding swappedCluster (listenerGateway "a" "pingora" none)
      ⟨"r", "ns", ["a.example.com"], kindHTTPRoute, none⟩).toOption.map (·.accepted) =
        some true :=
  ⟨⟨_, rfl, by decide⟩, by decide, by decide⟩

end PingoraGateway
