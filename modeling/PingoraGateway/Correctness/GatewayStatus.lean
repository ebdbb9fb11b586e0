import PingoraGateway.Correctness.ProxyTable

/-!
# Attached-route counts in the Gateway status

The Gateway reconciler writes each listener's `attachedRoutes` from
`countAttachedRoutes` on the cluster it reads. The counts read the routes'
specs, the Namespaces, and the Gateway's own name, namespace and listeners. A
change to the Gateway brings it back to its reconciler, as does a GatewayClass
or PingoraConfig change, and a write that changes it comes back as an update
event. So over changes that touch no route and no Namespace, a Gateway of the
class that is not being deleted is either queued or reports the counts of the
current cluster. Routes are another matter. The Gateway reconciler does not
watch them, and the route reconcilers never enqueue a Gateway, so attaching a
route leaves the written counts stale.

The counts also disagree with the syncer's binding map on one kind of ref.
`countAttachedRoutes` runs the evaluator on every parent ref whose name and
namespace are the Gateway's, while the map skips a parent ref whose kind is set
and is not `Gateway` before it evaluates anything: `refMatchesGateway` never
looks at the kind.
-/

namespace PingoraGateway

section Counts

variable {c c' : Cluster} (hn : c'.namespaces = c.namespaces) {gateway gateway' : Gateway}
  (hg : gateway'.name = gateway.name ∧ gateway'.ns = gateway.ns ∧
    gateway'.listeners = gateway.listeners)
include hn hg

theorem countRefs_congr (kind : String) {Rule : Type} {route route' : Route Rule}
    (hr : route'.name = route.name ∧ route'.ns = route.ns ∧
      route'.hostnames = route.hostnames) :
    ∀ (refs : List ParentReference) (counts : String → Int),
      countRefs c' gateway' kind route' refs counts = countRefs c gateway kind route refs counts
  | [], _ => rfl
  | ref :: refs, counts => by
    simp only [countRefs, refMatchesGateway, hg.1, hg.2.1, hr.1, hr.2.1, hr.2.2,
      validateBinding_congr hn hg.2.1 hg.2.2, countRefs_congr kind hr refs]

theorem countRoutes_congr (kind : String) {Rule : Type} :
    ∀ (routes routes' : List (Route Rule)), routes'.map Route.spec = routes.map Route.spec →
      ∀ counts,
        countRoutes c' gateway' kind routes' counts = countRoutes c gateway kind routes counts
  | [], [], _, _ => rfl
  | [], _ :: _, h, _ => by simp at h
  | _ :: _, [], h, _ => by simp at h
  | route :: routes, route' :: routes', h, counts => by
    simp only [List.map_cons, List.cons.injEq, Route.spec, Prod.mk.injEq] at h
    obtain ⟨⟨hname, hns, hrefs, hhost, -⟩, h⟩ := h
    simp only [countRoutes, hrefs, countRefs_congr hn hg kind ⟨hname, hns, hhost⟩,
      countRoutes_congr kind routes routes' h]

/-- The counts read the routes' specs, the Namespaces, and the Gateway's name,
namespace and listeners. -/
theorem countAttachedRoutes_congr
    (hr : ∀ k, (c'.routes k).items.map Route.spec = (c.routes k).items.map Route.spec)
    (httpListOk grpcListOk : Bool) :
    countAttachedRoutes c' gateway' httpListOk grpcListOk =
      countAttachedRoutes c gateway httpListOk grpcListOk := by
  have hh : c'.httpRoutes.items.map Route.spec = c.httpRoutes.items.map Route.spec := hr .http
  have hg' : c'.grpcRoutes.items.map Route.spec = c.grpcRoutes.items.map Route.spec := hr .grpc
  simp only [countAttachedRoutes, countRoutes_congr hn hg _ _ _ hh,
    countRoutes_congr hn hg _ _ _ hg']

end Counts

/-- The counts read no status. -/
@[simp] theorem countAttachedRoutes_putGatewayStatus (c : Cluster)
    (gateways : Store Gateway Gateway.key) (g : Gateway) (status : GatewayStatus)
    (httpListOk grpcListOk : Bool) :
    countAttachedRoutes { c with gateways } { g with status } httpListOk grpcListOk =
      countAttachedRoutes c g httpListOk grpcListOk :=
  @countAttachedRoutes_congr c { c with gateways } rfl g { g with status } ⟨rfl, rfl, rfl⟩
    (fun k => by cases k <;> rfl) _ _

/-- A route whose only parent ref names `gw` with kind `Service`. -/
def serviceRefRoute : HTTPRoute :=
  ⟨"r", "ns", 1, [{ gatewayRef "gw" with kind := some "Service" }], [], [], []⟩

/-- `serviceRefRoute` next to the Gateway `gw` of the default class. -/
def serviceRefCluster : Cluster :=
  defaultCluster ⟨[listenerGateway "gw" "pingora" none], by decide⟩
    ⟨[serviceRefRoute], by decide⟩

/-- The count of `gw`'s listener includes the `Service` parent ref, for which the
syncer's binding map records no result at all, so no pair of the map is counted. -/
theorem countAttachedRoutes_counts_non_gateway_ref :
    countAttachedRoutes serviceRefCluster (listenerGateway "gw" "pingora" none) true true "http" =
      1 ∧
    (defaultSyncer.getRelevantHTTPRoutes serviceRefCluster true).toOption =
      some ([], [("ns/r", ⟨[]⟩)]) := by
  decide

/-- A Gateway's status reports, per listener, the count `countAttachedRoutes`
gives on the cluster. -/
def CountsFresh (c : Cluster) (gateway : Gateway) : Prop :=
  gateway.status.listeners.map (fun l => (l.name, l.attachedRoutes)) =
    gateway.listeners.map fun l => (l.name, countAttachedRoutes c gateway true true l.name)

section Fresh

variable {c c' : Cluster} (hn : c'.namespaces = c.namespaces)
  (hr : ∀ k, (c'.routes k).items.map Route.spec = (c.routes k).items.map Route.spec)
include hn hr

theorem CountsFresh.congr {gateway : Gateway} (h : CountsFresh c gateway) :
    CountsFresh c' gateway := by
  rw [CountsFresh, countAttachedRoutes_congr hn ⟨rfl, rfl, rfl⟩ hr]
  exact h

/-- The status `updateStatus` writes reports the counts it read, on every
cluster with the same route specs and Namespaces. -/
theorem countsFresh_gatewayStatus (gateway : Gateway) (cfg : ResolvedPingoraConfig) (now : Nat) :
    CountsFresh c' { gateway with
      status := gatewayStatus gateway cfg (countAttachedRoutes c gateway true true) now } := by
  have hc : countAttachedRoutes c' { gateway with
        status := gatewayStatus gateway cfg (countAttachedRoutes c gateway true true) now }
        true true = countAttachedRoutes c gateway true true :=
    countAttachedRoutes_congr hn (by exact ⟨rfl, rfl, rfl⟩) hr true true
  rw [CountsFresh, hc]
  simp only [gatewayStatus, List.map_map, Function.comp_def]

end Fresh

/-- Every Gateway of the class that is not being deleted is queued for its
reconciler or reports the counts of the current cluster. -/
def CountInvariant (cfg : ControllerConfig) (s : System) : Prop :=
  ∀ key gateway, s.cluster.gateways.get key = some gateway →
    gateway.gatewayClassName = cfg.gatewayClassName → gateway.deleting = false →
      key ∈ s.gatewayQueue ∨ CountsFresh s.cluster gateway

/-- The actions the counts keep up with: every change but a route's or a
Namespace's, which no Gateway watch sees, and every Gateway reconcile whose
route `List`s succeed. -/
def Action.inCountScope : Action → Bool
  | .edit (.putRoute _ _) _ | .edit (.deleteRoute _ _) _ | .edit (.putNamespace _) _
  | .edit (.deleteNamespace _) _ => false
  | .reconcileGateway env => env.httpListOk && env.grpcListOk
  | _ => true

namespace CountInvariant

variable {cfg : ControllerConfig} {s s' : System}

/-- At startup every Gateway is queued. -/
theorem init (c : Cluster) (p : Proxy) : CountInvariant cfg (System.init cfg c p) :=
  fun key _ hget _ _ => .inl (by
    obtain ⟨hmem, hkey⟩ := Store.mem_of_get hget
    exact hkey ▸ List.mem_map_of_mem Gateway.key hmem)

/-- The invariant carries over to a state with the same route specs and
Namespaces and a larger Gateway queue, where each Gateway of the class is
queued, unchanged or fresh. -/
theorem transfer (h : CountInvariant cfg s) (hn : s'.cluster.namespaces = s.cluster.namespaces)
    (hr : ∀ k,
      (s'.cluster.routes k).items.map Route.spec = (s.cluster.routes k).items.map Route.spec)
    (hq : ∀ key, key ∈ s.gatewayQueue → key ∈ s'.gatewayQueue)
    (hg : ∀ key gateway, s'.cluster.gateways.get key = some gateway →
      key ∈ s'.gatewayQueue ∨ s.cluster.gateways.get key = some gateway) :
    CountInvariant cfg s' := by
  intro key gateway hget hcls hdel
  rcases hg key gateway hget with hk | hold
  · exact .inl hk
  · exact (h key gateway hold hcls hdel).imp (hq key) (CountsFresh.congr hn hr)

/-- A step that rewrites route statuses only. -/
theorem of_frame (h : CountInvariant cfg s) (hf : RouteStatusFrame s.cluster s'.cluster)
    (hq : s'.gatewayQueue = s.gatewayQueue) : CountInvariant cfg s' :=
  h.transfer hf.sameSpecs.bindings.namespaces hf.sameSpecs.routes (fun _ hk => hq ▸ hk)
    fun _ _ hget => .inr (hf.gateways ▸ hget)

/-- A change that leaves the routes and Namespaces, and enqueues every Gateway
it changes. -/
theorem of_edit {c' : Cluster} (h : CountInvariant cfg s) (he : (s.withCluster c').Enqueued s')
    (hn : c'.namespaces = s.cluster.namespaces) (hr : ∀ k, c'.routes k = s.cluster.routes k)
    (hg : ∀ key gateway, c'.gateways.get key = some gateway →
      key ∈ s'.gatewayQueue ∨ s.cluster.gateways.get key = some gateway) :
    CountInvariant cfg s' :=
  h.transfer (by rw [he.cluster]; exact hn)
    (fun k => by rw [he.cluster]; exact congrArg _ (congrArg _ (hr k))) he.gatewayQueue
    fun key gateway hget => hg key gateway (by rw [he.cluster] at hget; exact hget)

/-- A change of what neither the counts nor the Gateways read. -/
theorem of_frame_edit {c' : Cluster} (h : CountInvariant cfg s)
    (he : (s.withCluster c').Enqueued s') (hg : c'.gateways = s.cluster.gateways)
    (hn : c'.namespaces = s.cluster.namespaces) (hr : ∀ k, c'.routes k = s.cluster.routes k) :
    CountInvariant cfg s' :=
  h.of_edit he hn hr fun _ _ hget => .inr (hg ▸ hget)

theorem putGateway (h : CountInvariant cfg s) (gateway : Gateway) (env : EditEnv) :
    CountInvariant cfg (s.applyEdit cfg (.putGateway gateway) env) := by
  dsimp only [System.applyEdit]
  refine h.of_edit (System.enqueued_gatewayEvent _ _ _ _) rfl (fun k => by simp)
    fun key _ hget => ?_
  by_cases hk : (storedGateway (s.cluster.gateways.get gateway.key) gateway).key = key
  · exact .inl (System.mem_gatewayQueue_gatewayEvent _ _ _
      (WatchEvent.mem_requests_ofPut (hk ▸ List.mem_singleton_self _)))
  · exact .inr (by rwa [Store.get_put_ne _ _ hk] at hget)

theorem deleteGateway (h : CountInvariant cfg s) (key : ObjectKey) (env : EditEnv) :
    CountInvariant cfg (s.applyEdit cfg (.deleteGateway key) env) := by
  dsimp only [System.applyEdit]
  split
  · exact h
  refine h.of_edit (System.enqueued_gatewayEvent _ _ _ _) rfl (fun k => by simp)
    fun key' _ hget => .inr ?_
  by_cases hk : key = key'
  · subst hk
    simp at hget
  · rwa [Store.get_erase_ne _ hk] at hget

theorem applyEdit (h : CountInvariant cfg s) : ∀ (e : Edit) (env : EditEnv),
    (Action.edit e env).inCountScope = true → CountInvariant cfg (s.applyEdit cfg e env)
  | .putGateway gateway, env, _ => h.putGateway gateway env
  | .deleteGateway key, env, _ => h.deleteGateway key env
  | .putGatewayClass _, _, _ =>
    h.of_frame_edit (System.enqueued_gatewayClassEvent _ _ _ _) rfl rfl
      fun k => by cases k <;> rfl
  | .deleteGatewayClass name, _, _ => by
    dsimp only [System.applyEdit]
    split
    exacts [h, h.of_frame_edit (System.enqueued_gatewayClassEvent _ _ _ _) rfl rfl
      fun k => by cases k <;> rfl]
  | .putPingoraConfig _, _, _ =>
    h.of_frame_edit (System.enqueued_pingoraConfigEvent _ _ _ _) rfl rfl
      fun k => by cases k <;> rfl
  | .deletePingoraConfig name, _, _ => by
    dsimp only [System.applyEdit]
    split
    exacts [h, h.of_frame_edit (System.enqueued_pingoraConfigEvent _ _ _ _) rfl rfl
      fun k => by cases k <;> rfl]
  | .putSecret _, _, _ =>
    h.of_frame_edit (System.enqueued_secretEvent _ _ _ _) rfl rfl fun k => by cases k <;> rfl
  | .deleteSecret key, _, _ => by
    dsimp only [System.applyEdit]
    split
    exacts [h, h.of_frame_edit (System.enqueued_secretEvent _ _ _ _) rfl rfl
      fun k => by cases k <;> rfl]
  | .putRoute _ _, _, ha | .deleteRoute _ _, _, ha | .putNamespace _, _, ha
  | .deleteNamespace _, _, ha => absurd ha Bool.false_ne_true

/-- A Gateway reconcile takes its request off the queue and, when it does not
put it back, leaves the Gateway fresh or outside the invariant; every other
Gateway keeps its status. -/
theorem of_reconcileGateway (h : CountInvariant cfg s) {key : ObjectKey} {rest : List ObjectKey}
    (hq : s.gatewayQueue = key :: rest) {env : GatewayEnv}
    (hl : env.httpListOk = true ∧ env.grpcListOk = true) {c : Cluster} {result : Result}
    {err : Option String}
    (hr : cfg.gatewayReconciler.reconcile s.cluster env s.clock key = (c, result, err))
    (he : System.Enqueued { s with cluster := c, gatewayQueue := rest } s')
    (hback : requeues result err = true → key ∈ s'.gatewayQueue) : CountInvariant cfg s' := by
  have hs := cfg.gatewayReconciler.reconcile_sameSpecs hr
  intro key' gateway hget hcls hdel
  rw [he.cluster] at hget ⊢
  change c.gateways.get key' = some gateway at hget
  change key' ∈ s'.gatewayQueue ∨ CountsFresh c gateway
  by_cases hk : key' = key
  · subst hk
    cases hreq : requeues result err
    · obtain ⟨g, cfg', -, rfl⟩ :=
        cfg.gatewayReconciler.reconcile_settled hl hr hreq hget hcls hdel
      exact .inr (countsFresh_gatewayStatus hs.bindings.namespaces hs.routes g cfg' s.clock)
    · exact .inl (hback hreq)
  · have hold : s.cluster.gateways.get key' = some gateway := by
      rcases cfg.gatewayReconciler.reconcile_eq hr with rfl | ⟨fresh, st, hf, rfl⟩
      · exact hget
      · dsimp only at hget
        rwa [Store.get_put_ne s.cluster.gateways { fresh with status := st }
          fun h => hk (h.symm.trans (Store.mem_of_get hf).2)] at hget
    refine (h key' gateway hold hcls hdel).imp (fun hk' => he.gatewayQueue key' ?_)
      (CountsFresh.congr hs.bindings.namespaces hs.routes)
    rw [hq] at hk'
    exact (List.mem_cons.mp hk').resolve_left hk

theorem reconcileGateway (h : CountInvariant cfg s) {env : GatewayEnv}
    (hl : env.httpListOk = true ∧ env.grpcListOk = true) :
    CountInvariant cfg (s.reconcileGateway cfg env) := by
  unfold System.reconcileGateway
  split
  · exact h
  rename_i key rest hq
  rcases hr : cfg.gatewayReconciler.reconcile s.cluster env s.clock key with ⟨c, result, err⟩
  refine h.of_reconcileGateway hq hl hr ((System.enqueued_ite_enqueueGateways _ _ _).trans
    (System.enqueued_ite_enqueueGateways _ _ _)) fun hreq => ?_
  simp only [hreq, if_true, System.gatewayQueue_enqueueGateways]
  exact mem_enqueue.mpr (.inr (List.mem_singleton_self _))

theorem step (h : CountInvariant cfg s) :
    ∀ a : Action, a.inCountScope = true → CountInvariant cfg (s.step cfg a)
  | .edit e env, ha => h.applyEdit e env ha
  | .tick, _ => h
  | .start k env, _ => by
    rcases (s.start_frame cfg k env).2 with hq | hr
    · exact h.of_frame (s.start_frame cfg k env).1 hq
    · show CountInvariant cfg (s.start cfg k env)
      rw [hr]
      exact init s.cluster s.proxy
  | .reconcileRoute k env, _ =>
    h.of_frame (s.reconcileRoute_frame cfg k env).1 (s.reconcileRoute_frame cfg k env).2
  | .reconcileGateway env, ha => h.reconcileGateway (by simpa [Action.inCountScope] using ha)

theorem run (h : CountInvariant cfg s) (acts : List Action)
    (ha : ∀ a ∈ acts, a.inCountScope = true) :
    CountInvariant cfg (s.run cfg acts) := by
  induction acts generalizing s with
  | nil => exact h
  | cons a acts ih =>
    exact ih (h.step a (ha a (List.mem_cons_self _ _))) fun b hb => ha b (List.mem_cons_of_mem _ hb)

end CountInvariant

/-- Two reconciles of `gw`: the first writes its status, whose update event
brings it back once. -/
def gatewayRunActions : List Action :=
  [.reconcileGateway okGatewayEnv, .reconcileGateway okGatewayEnv]

/-- The Gateway `gw` is reconciled until its queue is empty; then an HTTPRoute
attached to it is created and reconciled. -/
def attachRun : System :=
  (System.init defaultControllerConfig
      (defaultCluster ⟨[listenerGateway "gw" "pingora" none], by decide⟩ Store.empty)
      ⟨[], [], 0⟩).run defaultControllerConfig
    [.reconcileGateway okGatewayEnv, .reconcileGateway okGatewayEnv, .start .http okReconcileEnv,
      .start .grpc okReconcileEnv, .edit (.putRoute .http attachedRoute) okEditEnv,
      .reconcileRoute .http okReconcileEnv]

end PingoraGateway
