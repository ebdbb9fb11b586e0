import PingoraGateway.Correctness.SystemSpec

/-!
# The proxy's route table

The proxy holds the table of the last push it applied, and a push carries the
builder image of the routes relevant when its sync listed them. Every change
that can make a route relevant enqueues it, and a route reconcile that is not
requeued pushed a table the proxy took, so a relevant route is always queued
or in the table: once a kind's queue drains, the table holds the builder image
of every relevant route of that kind. The converse fails. A reconcile that
finds its route no longer relevant returns before any sync, so a route that
stops being relevant can stay in the table while every queue is empty.
-/

namespace PingoraGateway

/-- Every read of a route reconciler's map function succeeds. -/
def EditEnv.routeReadsOk (env : EditEnv) : Bool :=
  env.failedReads.all fun read => read.watcher == .gateway

theorem EditEnv.readOk_route {env : EditEnv} (h : env.routeReadsOk = true) (k : RouteKind)
    (side : EventSide) (read : MapRead) : env.readOk (.route k) side read = true := by
  simp only [EditEnv.routeReadsOk, List.all_eq_true, beq_iff_eq] at h
  simp only [EditEnv.readOk, Bool.not_eq_true', List.elem_eq_mem, decide_eq_false_iff_not]
  exact fun hm => Watcher.noConfusion (h _ hm)

/-- The actions the route reconcilers keep track of: every change but a
Namespace's, which no route reconciler watches, whose route reconcilers' map
functions read without error, and every route reconcile whose Gateway `Get`s and
`List`s succeed: a failed Gateway `Get` turns a relevant route away without a
sync, and `syncAndUpdateStatus` drops a `List` error without a requeue. -/
def Action.inTableScope : Action → Bool
  | .edit (.putNamespace _) _ | .edit (.deleteNamespace _) _ => false
  | .edit _ env => env.routeReadsOk
  | .reconcileRoute _ env =>
    env.failedGatewayGets.isEmpty && env.sync.httpListOk && env.sync.grpcListOk
  | _ => true

section Table

variable {cfg : ControllerConfig}

/-- Each relevant route is queued for its reconciler or has its builder image
in the proxy's table. -/
def TableCovers (cfg : ControllerConfig) (c : Cluster) (q : RouteKind → List ObjectKey)
    (p : Proxy) : Prop :=
  ∀ k, ∀ R ∈ (c.routes k).items,
    isRelevantRoute c cfg.gatewayClassName k.kindName R = true →
      R.key ∈ q k ∨ ∃ w, k.build ⟨cfg.clusterDomain⟩ R = .ok w ∧ w ∈ p.table k

namespace TableCovers

variable {c c' : Cluster} {q q' : RouteKind → List ObjectKey} {p : Proxy}

/-- Coverage carries over to a later cluster and larger queues when each route
relevant there is queued or agrees with a route relevant before. -/
theorem transfer (h : TableCovers cfg c q p) (hq : ∀ k key, key ∈ q k → key ∈ q' k)
    (hr : ∀ k, ∀ R' ∈ (c'.routes k).items,
      isRelevantRoute c' cfg.gatewayClassName k.kindName R' = true → R'.key ∈ q' k ∨
        ∃ R ∈ (c.routes k).items, R.spec = R'.spec ∧
          isRelevantRoute c cfg.gatewayClassName k.kindName R = true) :
    TableCovers cfg c' q' p := by
  intro k R' hR' hrel
  rcases hr k R' hR' hrel with hk | ⟨R, hR, hs, hrel⟩
  · exact .inl hk
  rcases h k R hR hrel with hk | ⟨w, hw, hmem⟩
  · exact .inl (Route.key_eq_of_spec hs ▸ hq k _ hk)
  · exact .inr ⟨w, (RouteKind.build_congr k _ hs.symm).trans hw, hmem⟩

/-- Over clusters that bind alike, only the routes themselves need to agree. -/
theorem transfer_of_sameBindings (h : TableCovers cfg c q p) (hb : SameBindings c c')
    (hq : ∀ k key, key ∈ q k → key ∈ q' k)
    (hr : ∀ k, ∀ R' ∈ (c'.routes k).items,
      R'.key ∈ q' k ∨ ∃ R ∈ (c.routes k).items, R.spec = R'.spec) :
    TableCovers cfg c' q' p :=
  h.transfer hq fun k R' hR' hrel => (hr k R' hR').imp_right fun ⟨R, hR, hs⟩ =>
    ⟨R, hR, hs, (hb.isRelevantRoute_eq hs.symm _ _).symm.trans hrel⟩

theorem of_sameSpecs (h : TableCovers cfg c q p) (hs : SameSpecs c c')
    (hq : ∀ k key, key ∈ q k → key ∈ q' k) : TableCovers cfg c' q' p :=
  h.transfer_of_sameBindings hs.bindings hq fun _ _ hR' => .inr (hs.exists_spec hR')

theorem mono (h : TableCovers cfg c q p) (hq : ∀ k key, key ∈ q k → key ∈ q' k) :
    TableCovers cfg c q' p :=
  h.of_sameSpecs (.refl c) hq

/-- A table holding the builder image of the relevant routes covers them all,
whatever is queued. -/
theorem of_push {push : Push}
    (hp : ∀ k, (relevantRoutes cfg c k).mapM (k.build ⟨cfg.clusterDomain⟩) =
      .ok (push.request.table k)) :
    TableCovers cfg c q (Proxy.ofRequest push.request) := fun k R hR hrel =>
  .inr (by simpa using exists_mem_of_mapM_ok (hp k) R (List.mem_filter.mpr ⟨hR, hrel⟩))

theorem receive (h : TableCovers cfg c q p) {push : Push}
    (hp : ∀ k, (relevantRoutes cfg c k).mapM (k.build ⟨cfg.clusterDomain⟩) =
      .ok (push.request.table k)) :
    TableCovers cfg c q (p.receive push) := by
  rcases p.receive_cases push with he | he <;> rw [he]
  exacts [h, of_push hp]

/-- A route that is no longer relevant can leave its queue. -/
theorem dequeue_irrelevant (h : TableCovers cfg c q p) {k : RouteKind} {key : ObjectKey}
    (hq : ∀ k' key', key' ∈ q k' → key' ∈ q' k' ∨ k' = k ∧ key' = key)
    {route : Route k.Rule} (hroute : (c.routes k).get key = some route)
    (hirr : isRelevantRoute c cfg.gatewayClassName k.kindName route = false) :
    TableCovers cfg c q' p := by
  intro k' R hR hrel
  rcases h k' R hR hrel with hk | ht
  · rcases hq k' R.key hk with hk | ⟨rfl, rfl⟩
    · exact .inl hk
    · cases (Store.get_of_mem hR).symm.trans hroute
      exact absurd (hirr.symm.trans hrel) Bool.false_ne_true
  · exact .inr ht

section Sync

variable {syncer : PingoraRouteSyncer} (hst : syncer.statics = cfg.newSyncer.statics)
include hst

/-- A push of the controller's syncer carries the builder image of the routes
relevant in the cluster it listed. -/
theorem push_table_of_statics (env : SyncEnv) {push : Push}
    (hp : (syncer.syncAllRoutes c env).2.1 = some push) (k : RouteKind) :
    (relevantRoutes cfg c k).mapM (k.build ⟨cfg.clusterDomain⟩) =
      .ok (push.request.table k) := by
  simp only [PingoraRouteSyncer.statics, ControllerConfig.newSyncer, newPingoraRouteSyncer,
    Prod.mk.injEq] at hst
  simpa only [relevantRoutes, PingoraRouteSyncer.builder, hst.1, hst.2.1] using
    syncer.syncAllRoutes_push_table c env hp k

/-- What `syncAndUpdateStatus` leaves covers what was covered: its status writes
keep the specs, and a table the proxy takes covers every relevant route. -/
theorem syncAndUpdateStatus (h : TableCovers cfg c q p) (k : RouteKind) (env : ReconcileEnv)
    (now : Nat) :
    (cfg.routeReconciler.syncAndUpdateStatus k c syncer env now).syncer.statics =
        cfg.newSyncer.statics ∧
      TableCovers cfg (cfg.routeReconciler.syncAndUpdateStatus k c syncer env now).cluster q
        (((cfg.routeReconciler.syncAndUpdateStatus k c syncer env now).push.map
          p.receive).getD p) := by
  obtain ⟨hs, hsy, hp⟩ := cfg.routeReconciler.syncAndUpdateStatus_fields k c syncer env now
  rw [hsy, hp, PingoraRouteSyncer.statics_syncAllRoutes]
  refine ⟨hst, TableCovers.of_sameSpecs ?_ hs.sameSpecs fun _ _ => id⟩
  cases hpush : (syncer.syncAllRoutes c env.sync).2.1 with
  | none => exact h
  | some push => exact h.receive (push_table_of_statics hst env.sync hpush)

/-- A `syncAndUpdateStatus` whose `List`s succeed and that is not requeued
pushed a table the proxy took, so it covers every relevant route, whatever is
queued. -/
theorem syncAndUpdateStatus_settled (k : RouteKind) {env : ReconcileEnv} (now : Nat)
    (hl : env.sync.httpListOk = true ∧ env.sync.grpcListOk = true)
    (hr : requeues (cfg.routeReconciler.syncAndUpdateStatus k c syncer env now).result
      (cfg.routeReconciler.syncAndUpdateStatus k c syncer env now).err = false)
    (q' : RouteKind → List ObjectKey) :
    TableCovers cfg (cfg.routeReconciler.syncAndUpdateStatus k c syncer env now).cluster q'
      (((cfg.routeReconciler.syncAndUpdateStatus k c syncer env now).push.map
        p.receive).getD p) := by
  obtain ⟨hs, -, hp⟩ := cfg.routeReconciler.syncAndUpdateStatus_fields k c syncer env now
  obtain ⟨sr, hsr⟩ := cfg.routeReconciler.syncAndUpdateStatus_settled k hl hr
  obtain ⟨push, hpush, e, v, hrep⟩ := syncer.syncAllRoutes_succeeded c env.sync sr hsr
  change (syncer.syncAllRoutes c env.sync).2.1 = some push at hpush
  rw [hp, hpush, Option.map_some', Option.getD_some, p.receive_success hrep]
  exact (of_push (push_table_of_statics hst env.sync hpush)).of_sameSpecs hs.sameSpecs fun _ _ => id

end Sync

end TableCovers

/-- The proxy-table invariant: the syncer is the one the controller built, and
every relevant route is queued or in the table. -/
structure TableInvariant (cfg : ControllerConfig) (s : System) : Prop where
  statics : s.syncer.statics = cfg.newSyncer.statics
  covers : TableCovers cfg s.cluster s.queue s.proxy

namespace TableInvariant

variable {s : System}

/-- At startup every route is queued. -/
theorem init (c : Cluster) (p : Proxy) : TableInvariant cfg (System.init cfg c p) :=
  ⟨rfl, fun k R hR _ => .inl (by cases k <;> exact List.mem_map_of_mem Route.key hR)⟩

theorem enqueued {s' : System} (h : TableInvariant cfg s) (he : s.Enqueued s') :
    TableInvariant cfg s' := by
  refine ⟨by rw [he.syncer]; exact h.statics, ?_⟩
  rw [he.cluster, he.proxy]
  exact h.covers.mono he.queue

/-- A change whose handlers enqueue what it can make relevant. -/
theorem of_edit {c' : Cluster} {s' : System} (h : TableInvariant cfg s)
    (he : (s.withCluster c').Enqueued s')
    (hcov : (∀ k key, key ∈ s.queue k → key ∈ s'.queue k) →
      TableCovers cfg c' s'.queue s.proxy) :
    TableInvariant cfg s' := by
  refine ⟨by rw [he.syncer]; exact h.statics, ?_⟩
  rw [he.cluster, he.proxy]
  exact hcov fun k key hk => he.queue k key (by rwa [System.queue_withCluster])

/-- A change of what binding and the builder never read. -/
theorem of_frame_edit {c' : Cluster} {s' : System} (h : TableInvariant cfg s)
    (he : (s.withCluster c').Enqueued s')
    (hg : c'.gateways = s.cluster.gateways) (hn : c'.namespaces = s.cluster.namespaces)
    (hr : ∀ k, c'.routes k = s.cluster.routes k) : TableInvariant cfg s' :=
  h.of_edit he fun hq => h.covers.of_sameSpecs ⟨⟨by rw [hg], hn⟩, fun k => by rw [hr]⟩ hq

/-- A put of a route enqueues it unless the filter drops the update, which
happens only when its spec is unchanged. -/
theorem putRoute (h : TableInvariant cfg s) (k : RouteKind) (route : Route k.Rule)
    (env : EditEnv) : TableInvariant cfg (s.applyEdit cfg (.putRoute k route) env) := by
  dsimp only [System.applyEdit]
  generalize hold : (s.cluster.routes k).get route.key = old
  refine h.of_edit (System.enqueued_routeEvent _ _ _) fun hq =>
    h.covers.transfer_of_sameBindings (SameBindings.setRoutes _ _ _) hq fun k' R hR => ?_
  by_cases hk : k' = k
  · subst hk
    rw [Cluster.routes_setRoutes] at hR
    rcases Store.mem_put hR with rfl | ⟨hR, -⟩
    · cases hgen :
          (WatchEvent.ofPut old (storedRoute old route)).generationChanged (·.generation) with
      | true => exact .inl (System.mem_queue_routeEvent _ _ hgen
          (WatchEvent.mem_requests_ofPut (List.mem_singleton_self _)))
      | false =>
        obtain ⟨o, rfl, hg⟩ := WatchEvent.eq_of_generationChanged_ofPut hgen
        have ho := Store.mem_of_get hold
        exact .inr ⟨o, ho.1, (spec_storedRoute ho.2 hg).symm⟩
    · exact .inr ⟨R, hR, rfl⟩
  · rw [Cluster.routes_setRoutes_ne _ _ hk] at hR
    exact .inr ⟨R, hR, rfl⟩

theorem deleteRoute (h : TableInvariant cfg s) (k : RouteKind) (key : ObjectKey)
    (env : EditEnv) : TableInvariant cfg (s.applyEdit cfg (.deleteRoute k key) env) := by
  dsimp only [System.applyEdit]
  split
  · exact h
  refine h.of_edit (System.enqueued_routeEvent _ _ _) fun hq =>
    h.covers.transfer_of_sameBindings (SameBindings.setRoutes _ _ _) hq fun k' R hR =>
      .inr ⟨R, ?_, rfl⟩
  by_cases hk : k' = k
  · subst hk
    rw [Cluster.routes_setRoutes] at hR
    exact (Store.mem_erase hR).1
  · rwa [Cluster.routes_setRoutes_ne _ _ hk] at hR

/-- A put of a Gateway enqueues the routes naming it unless the filter drops
the update, which happens only when it binds as it did. -/
theorem putGateway (h : TableInvariant cfg s) (gateway : Gateway) {env : EditEnv}
    (henv : env.routeReadsOk = true) :
    TableInvariant cfg (s.applyEdit cfg (.putGateway gateway) env) := by
  dsimp only [System.applyEdit]
  generalize hold : s.cluster.gateways.get gateway.key = old
  refine h.of_edit (System.enqueued_gatewayEvent _ _ _ _) fun hq => ?_
  cases hgen :
      (WatchEvent.ofPut old (storedGateway old gateway)).generationChanged (·.generation) with
  | false =>
    obtain ⟨o, rfl, hg⟩ := WatchEvent.eq_of_generationChanged_ofPut hgen
    have ho := Store.mem_of_get hold
    refine h.covers.of_sameSpecs
      ⟨⟨Store.map_put_of_mem _ ho.1 ?_ (bindingSpec_storedGateway ho.2 hg), rfl⟩,
        fun k => by cases k <;> rfl⟩ hq
    rw [key_storedGateway, ho.2]
  | true =>
    refine h.covers.transfer hq fun k R hR hrel => ?_
    rw [Cluster.routes_setGateways] at hR
    rcases isRelevantRoute_of_putGateway hrel with hrel | ⟨hcls, hname⟩
    · exact .inr ⟨R, hR, rfl, hrel⟩
    · exact .inl (System.mem_queue_gatewayEvent _ _ _ _ hgen (WatchEvent.mem_requests_ofPut
        (System.mem_findRoutesForGateway _ cfg (EditEnv.readOk_route henv k _ _) hcls hR hname)))

theorem deleteGateway (h : TableInvariant cfg s) (key : ObjectKey) (env : EditEnv) :
    TableInvariant cfg (s.applyEdit cfg (.deleteGateway key) env) := by
  dsimp only [System.applyEdit]
  split
  · exact h
  exact h.of_edit (System.enqueued_gatewayEvent _ _ _ _) fun hq =>
    h.covers.transfer hq fun k R hR hrel =>
      .inr ⟨R, by simpa using hR, rfl, isRelevantRoute_of_eraseGateway hrel⟩

theorem applyEdit (h : TableInvariant cfg s) : ∀ (e : Edit) (env : EditEnv),
    (Action.edit e env).inTableScope = true → TableInvariant cfg (s.applyEdit cfg e env)
  | .putRoute k route, env, _ => h.putRoute k route env
  | .deleteRoute k key, env, _ => h.deleteRoute k key env
  | .putGateway gateway, _, ha => h.putGateway gateway ha
  | .deleteGateway key, env, _ => h.deleteGateway key env
  | .putGatewayClass _, _, _ =>
    h.of_frame_edit (System.enqueued_gatewayClassEvent _ _ _ _) rfl rfl
      fun k => by cases k <;> rfl
  | .deleteGatewayClass name, _, _ => by
    dsimp only [System.applyEdit]
    split
    exacts [h, h.of_frame_edit (System.enqueued_gatewayClassEvent _ _ _ _) rfl rfl
      fun k => by cases k <;> rfl]
  | .putPingoraConfig _, _, _ =>
    h.of_frame_edit (System.enqueued_pingoraConfigEvent _ _ _ _) rfl rfl
      fun k => by cases k <;> rfl
  | .deletePingoraConfig name, _, _ => by
    dsimp only [System.applyEdit]
    split
    exacts [h, h.of_frame_edit (System.enqueued_pingoraConfigEvent _ _ _ _) rfl rfl
      fun k => by cases k <;> rfl]
  | .putSecret _, _, _ =>
    h.of_frame_edit (System.enqueued_secretEvent _ _ _ _) rfl rfl fun k => by cases k <;> rfl
  | .deleteSecret key, _, _ => by
    dsimp only [System.applyEdit]
    split
    exacts [h, h.of_frame_edit (System.enqueued_secretEvent _ _ _ _) rfl rfl
      fun k => by cases k <;> rfl]
  | .putNamespace _, _, ha | .deleteNamespace _, _, ha => absurd ha Bool.false_ne_true

/-- A state recorded after a sync, with more queued, from the sync's syncer
and a covering of its cluster and the proxy after its push. -/
theorem of_afterSync {s1 s' : System} {out : ReconcileOutcome} (he : (s1.afterSync out).Enqueued s')
    (hst : out.syncer.statics = cfg.newSyncer.statics)
    (hcov : TableCovers cfg out.cluster s'.queue ((out.push.map s1.proxy.receive).getD s1.proxy)) :
    TableInvariant cfg s' := by
  obtain ⟨hc, hsy, hp, -⟩ := s1.afterSync_fields out
  refine ⟨by rw [he.syncer, hsy]; exact hst, ?_⟩
  rw [he.cluster, he.proxy, hc, hp]
  exact hcov

/-- A restart queues every route again. -/
theorem restart (s : System) : TableInvariant cfg (s.restart cfg) :=
  ⟨rfl, (init s.cluster s.proxy).covers⟩

theorem start (h : TableInvariant cfg s) (k : RouteKind) (env : ReconcileEnv) :
    TableInvariant cfg (s.start cfg k env) := by
  rcases s.start_cases cfg k env with hs | ⟨-, hs⟩ | hs <;> rw [hs]
  · exact h
  · exact restart s
  obtain ⟨hst, hcov⟩ := h.covers.syncAndUpdateStatus h.statics k env s.clock
  exact of_afterSync (System.enqueued_completeStartup _ _) hst
    (hcov.mono fun _ _ hk => by simpa using hk)

/-- A route reconcile whose Gateway `Get`s and `List`s succeed: before the
startup sync, or after a failed route `Get`, it puts its request back; a route
no longer relevant leaves its queue; otherwise it syncs, and is put back unless
the proxy took the pushed table. -/
theorem reconcileRoute (h : TableInvariant cfg s) (k : RouteKind) {env : ReconcileEnv}
    (hg : env.failedGatewayGets = [])
    (hl : env.sync.httpListOk = true ∧ env.sync.grpcListOk = true) :
    TableInvariant cfg (s.reconcileRoute cfg k env) := by
  unfold System.reconcileRoute
  split
  · exact h
  rename_i key rest hqk
  dsimp only
  split
  · exact h.enqueued (System.enqueued_requeue _ _ hqk)
  simp only [System.cluster_setQueue, System.syncer_setQueue]
  have hback : ∀ (out : ReconcileOutcome) k' key', key' ∈ s.queue k' →
      key' ∈ (((s.setQueue k rest).afterSync out).enqueueRoutes k [key]).queue k' :=
    fun _ k' _ hk => s.mem_queue_of_requeue k k' hqk (fun _ => System.queue_afterSync _ _ _) hk
  rcases cfg.routeReconciler.reconcile_cases k s.cluster s.syncer env (s.setQueue k rest).clock
    key with ⟨e, -, hr⟩ | ⟨route, hroute, hirr, hr⟩ | hr <;> rw [hr]
  · rw [if_pos (by simp [requeues])]
    refine of_afterSync (System.enqueued_enqueueRoutes _ _ _) h.statics ?_
    simp only [System.proxy_setQueue, Option.map_none', Option.getD_none]
    exact h.covers.mono (hback _)
  · rw [if_neg (by simp [requeues])]
    refine of_afterSync (.refl _) h.statics ?_
    simp only [System.proxy_setQueue, Option.map_none', Option.getD_none]
    have hok : ∀ refIdx, env.gatewayGetOk refIdx = true := fun _ => by
      simp [ReconcileEnv.gatewayGetOk, hg]
    rw [RouteReconciler.isRouteForOurGateway, isRouteAcceptedByGateway_eq _ _ _ _ hok] at hirr
    exact h.covers.dequeue_irrelevant (fun k' _ hk => by
      simpa using s.mem_queue_setQueue_of_cons k k' hqk hk) hroute hirr
  · obtain ⟨hst, hcov⟩ :=
      h.covers.syncAndUpdateStatus h.statics k env (s.setQueue k rest).clock
    split
    next =>
      refine of_afterSync (System.enqueued_enqueueRoutes _ _ _) hst ?_
      simp only [System.proxy_setQueue]
      exact hcov.mono (hback _)
    next hreq =>
      refine of_afterSync (.refl _) hst ?_
      simp only [System.proxy_setQueue]
      exact TableCovers.syncAndUpdateStatus_settled h.statics k _ hl (Bool.eq_false_iff.mpr hreq) _

theorem reconcileGateway (h : TableInvariant cfg s) (env : GatewayEnv) :
    TableInvariant cfg (s.reconcileGateway cfg env) := by
  unfold System.reconcileGateway
  split
  · exact h
  rename_i key rest _
  rcases hr : cfg.gatewayReconciler.reconcile s.cluster env s.clock key with ⟨c, result, err⟩
  have hs := cfg.gatewayReconciler.reconcile_sameSpecs hr
  have ht : TableInvariant cfg { s with cluster := c, gatewayQueue := rest } :=
    ⟨h.statics, h.covers.of_sameSpecs hs fun k _ hk => by cases k <;> exact hk⟩
  exact (ht.enqueued (System.enqueued_ite_enqueueGateways _ _ _)).enqueued
    (System.enqueued_ite_enqueueGateways _ _ _)

theorem step (h : TableInvariant cfg s) : ∀ a : Action, a.inTableScope = true →
    TableInvariant cfg (s.step cfg a)
  | .edit e env, ha => h.applyEdit e env ha
  | .tick, _ => ⟨h.statics, h.covers⟩
  | .start k env, _ => h.start k env
  | .reconcileRoute k env, ha => by
    simp only [Action.inTableScope, Bool.and_eq_true, List.isEmpty_iff] at ha
    exact h.reconcileRoute k ha.1.1 ⟨ha.1.2, ha.2⟩
  | .reconcileGateway env, _ => h.reconcileGateway env

theorem run (h : TableInvariant cfg s) (acts : List Action)
    (ha : ∀ a ∈ acts, a.inTableScope = true) :
    TableInvariant cfg (s.run cfg acts) := by
  induction acts generalizing s with
  | nil => exact h
  | cons a acts ih =>
    exact ih (h.step a (ha a (List.mem_cons_self _ _))) fun b hb => ha b (List.mem_cons_of_mem _ hb)

end TableInvariant

end Table

/-- The controller's default configuration. -/
def defaultControllerConfig : ControllerConfig :=
  { clusterDomain := "cluster.local"
    gatewayClassName := "pingora"
    controllerName := "pingora.k8s.lex.la/gateway-controller"
    metricsAddr := ":8080"
    healthAddr := ":8081"
    leaderElect := false
    leaderElectNS := ""
    leaderElectName := "pingora-gateway-controller-leader"
    controllerNamespace := "pingora-system"
    logLevel := .info
    logFormat := .json }

/-- An HTTPRoute attached to `gw` with one rule forwarding to `svc:80`. -/
def attachedRoute : HTTPRoute :=
  ⟨"r1", "ns", 1, [gatewayRef "gw"], ["example.com"],
    [⟨[], [⟨none, none, "svc", none, some 80, none⟩], none⟩], []⟩

/-- `attachedRoute` with the Gateway `gw` of the default class. -/
def attachedCluster : Cluster :=
  defaultCluster ⟨[listenerGateway "gw" "pingora" none], by decide⟩
    ⟨[attachedRoute], by decide⟩

/-- A route reconcile in which every call succeeds. -/
def okReconcileEnv : ReconcileEnv := ⟨okSyncEnv, [], none, []⟩

/-- A change whose handlers read without error. -/
def okEditEnv : EditEnv := ⟨[]⟩

/-- A Gateway reconcile in which every call succeeds. -/
def okGatewayEnv : GatewayEnv := ⟨true, true, true, none⟩

/-- The startup syncs and one reconcile drain the HTTPRoute queue of
`attachedCluster`. -/
def attachRunActions : List Action :=
  [.start .http okReconcileEnv, .start .grpc okReconcileEnv, .reconcileRoute .http okReconcileEnv]

/-- The builder image of the relevant routes of both kinds, when it builds. -/
def expectedTable (cfg : ControllerConfig) (c : Cluster) :
    Option (List Routing.HTTPRoute × List Routing.GRPCRoute) :=
  let b : PingoraBuilder := ⟨cfg.clusterDomain⟩
  match (relevantRoutes cfg c .http).mapM b.buildHTTPRoute,
      (relevantRoutes cfg c .grpc).mapM b.buildGRPCRoute with
  | .ok h, .ok g => some (h, g)
  | _, _ => none

/-- Both startup syncs have completed and both route queues are empty: every
route reconcile has returned with no error and no requeue. -/
def RoutesSettled (s : System) : Prop :=
  s.httpStartupComplete = true ∧ s.grpcStartupComplete = true ∧ s.httpQueue = [] ∧
    s.grpcQueue = []

instance : DecidablePred RoutesSettled := fun _ => inferInstanceAs (Decidable (_ ∧ _ ∧ _ ∧ _))

/-- Both startup syncs and a reconcile push `attachedRoute`; then its parent refs
are removed, its reconcile runs, and the Gateway's queue is drained. -/
def detachRun : System :=
  (System.init defaultControllerConfig attachedCluster ⟨[], [], 0⟩).run defaultControllerConfig
    [.start .http okReconcileEnv, .start .grpc okReconcileEnv, .reconcileRoute .http okReconcileEnv,
      .edit (.putRoute .http { attachedRoute with parentRefs := [] }) okEditEnv,
      .reconcileRoute .http okReconcileEnv, .reconcileGateway okGatewayEnv,
      .reconcileGateway okGatewayEnv]

/-- Both startup syncs connect to `proxy:50051`; then the PingoraConfig's address
changes to `proxy-b:50051`, its mapper enqueues the relevant route, and the
route's reconcile syncs. -/
def configChangeRun : System :=
  (System.init defaultControllerConfig attachedCluster ⟨[], [], 0⟩).run defaultControllerConfig
    [.start .http okReconcileEnv, .start .grpc okReconcileEnv,
      .edit (.putPingoraConfig ⟨"cfg", 1, ⟨"proxy-b:50051", none, none⟩⟩) okEditEnv,
      .reconcileRoute .http okReconcileEnv]

/-- The push of the reconcile that the config change triggered goes to the old
address, while resolving the class gives the new one. -/
theorem config_change_reuses_old_connection :
    configChangeRun.sent.length = 3 ∧
    configChangeRun.sent.getLast?.map (fun r =>
      (r.push.conn.config.address, r.current.toOption.map (·.address))) =
      some ("proxy:50051", some "proxy-b:50051") := by
  decide

end PingoraGateway
