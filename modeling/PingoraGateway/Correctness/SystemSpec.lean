import PingoraGateway.Correctness.Relevance
import PingoraGateway.Correctness.Versions
import PingoraGateway.System.Step

/-!
# What each step of the system can do

Small lemmas on the queues and fields of `System`, the frame of the status
writers (they change statuses only, never what binding or the builder reads),
and what a push carries: the builder image of the routes relevant in the
cluster the sync listed.
-/

namespace PingoraGateway

/-- A work queue holds a key after `enqueue` exactly when it held it or the key
was enqueued. -/
theorem mem_enqueue :
    ∀ {q ks : List ObjectKey} {key : ObjectKey}, key ∈ enqueue q ks ↔ key ∈ q ∨ key ∈ ks
  | q, [], key => by simp [enqueue]
  | q, x :: xs, key => by
    have ih := @mem_enqueue (if x ∈ q then q else q ++ [x]) xs key
    simp only [enqueue, List.foldl_cons] at ih ⊢
    rw [ih]
    by_cases hx : x ∈ q
    · simp only [hx, if_true, List.mem_cons]
      constructor
      · rintro (h | h) <;> simp [h]
      · rintro (h | rfl | h)
        exacts [.inl h, .inl hx, .inr h]
    · simp only [hx, if_false, List.mem_append, List.mem_cons, List.not_mem_nil, or_false,
        or_assoc]

/-- The wire route type of a kind. -/
abbrev RouteKind.Wire : RouteKind → Type
  | .http => Routing.HTTPRoute
  | .grpc => Routing.GRPCRoute

/-- The builder of a kind's routes. -/
def RouteKind.build : (k : RouteKind) → PingoraBuilder → Route k.Rule → Except String k.Wire
  | .http, b, r => b.buildHTTPRoute r
  | .grpc, b, r => b.buildGRPCRoute r

theorem RouteKind.build_http (b : PingoraBuilder) : RouteKind.http.build b = b.buildHTTPRoute :=
  rfl

theorem RouteKind.build_grpc (b : PingoraBuilder) : RouteKind.grpc.build b = b.buildGRPCRoute :=
  rfl

/-- The proxy's table of a kind. -/
def Proxy.table (p : Proxy) : (k : RouteKind) → List k.Wire
  | .http => p.httpRoutes
  | .grpc => p.grpcRoutes

/-- The relevant routes of a kind, in list order. -/
def relevantRoutes (cfg : ControllerConfig) (c : Cluster) (k : RouteKind) : List (Route k.Rule) :=
  (c.routes k).items.filter (isRelevantRoute c cfg.gatewayClassName k.kindName)

/-- A request's table of a kind. -/
def Routing.UpdateRoutesRequest.table (req : Routing.UpdateRoutesRequest) :
    (k : RouteKind) → List k.Wire
  | .http => req.httpRoutes
  | .grpc => req.grpcRoutes

@[simp] theorem Proxy.table_ofRequest (req : Routing.UpdateRoutesRequest) (k : RouteKind) :
    (Proxy.ofRequest req).table k = req.table k := by
  cases k <;> rfl

/-- A proxy keeps its table or takes the pushed one. -/
theorem Proxy.receive_cases (p : Proxy) (push : Push) :
    p.receive push = p ∨ p.receive push = Proxy.ofRequest push.request := by
  unfold Proxy.receive
  split <;> split <;> simp

/-- A proxy that answered `success` took the pushed table. -/
theorem Proxy.receive_success (p : Proxy) {push : Push} {e : String} {v : UInt64}
    (h : push.reply = .response true e v) : p.receive push = Proxy.ofRequest push.request := by
  simp [Proxy.receive, h]

/-- Routes that agree on what the builder reads build alike. -/
theorem RouteKind.build_congr (k : RouteKind) (b : PingoraBuilder) {R R' : Route k.Rule}
    (h : R'.spec = R.spec) : k.build b R' = k.build b R := by
  simp only [Route.spec, Prod.mk.injEq] at h
  obtain ⟨hn, hns, -, hh, hr⟩ := h
  cases k <;> simp only [RouteKind.build, PingoraBuilder.buildHTTPRoute,
    PingoraBuilder.buildGRPCRoute, routeId, hn, hns, hh, hr]

/-- A `mapM` over a cons that succeeds maps the head and then the tail. -/
theorem mapM_ok_cons {α β ε : Type} {f : α → Except ε β} {a : α} {as : List α}
    {ys : List β} (h : (a :: as).mapM f = .ok ys) :
    ∃ b bs, f a = .ok b ∧ as.mapM f = .ok bs ∧ ys = b :: bs := by
  rw [List.mapM_cons] at h
  cases hfa : f a with
  | error e => rw [hfa] at h; cases h
  | ok b =>
    cases hfas : as.mapM f with
    | error e => rw [hfa, hfas] at h; cases h
    | ok bs =>
      rw [hfa, hfas] at h
      exact ⟨b, bs, rfl, rfl, (Except.ok.inj h).symm⟩

/-- Each element of a list that `mapM` maps without error has its image in the
result. -/
theorem exists_mem_of_mapM_ok {α β ε : Type} {f : α → Except ε β} :
    ∀ {xs : List α} {ys : List β}, xs.mapM f = .ok ys →
      ∀ x ∈ xs, ∃ y, f x = .ok y ∧ y ∈ ys
  | [], _, _, x, hx => absurd hx (List.not_mem_nil x)
  | _ :: _, _, h, x, hx => by
    obtain ⟨b, bs, hb, hbs, rfl⟩ := mapM_ok_cons h
    rcases List.mem_cons.mp hx with rfl | hx
    · exact ⟨b, hb, List.mem_cons_self _ _⟩
    · obtain ⟨y, hy, hmem⟩ := exists_mem_of_mapM_ok hbs x hx
      exact ⟨y, hy, List.mem_cons_of_mem _ hmem⟩

/-- Each element of the result of a `mapM` without error is the image of an
element of the list. -/
theorem exists_of_mem_mapM_ok {α β ε : Type} {f : α → Except ε β} :
    ∀ {xs : List α} {ys : List β}, xs.mapM f = .ok ys →
      ∀ y ∈ ys, ∃ x ∈ xs, f x = .ok y
  | [], _, h, y, hy => by
    rw [List.mapM_nil] at h
    cases h
    cases hy
  | _ :: _, _, h, y, hy => by
    obtain ⟨b, bs, hb, hbs, rfl⟩ := mapM_ok_cons h
    rcases List.mem_cons.mp hy with rfl | hy
    · exact ⟨_, List.mem_cons_self _ _, hb⟩
    · obtain ⟨x, hx, hfx⟩ := exists_of_mem_mapM_ok hbs y hy
      exact ⟨x, List.mem_cons_of_mem _ hx, hfx⟩

namespace Cluster

theorem routes_setRoutes_ne (c : Cluster) {k k' : RouteKind} (s : Store (Route k.Rule) Route.key)
    (h : k' ≠ k) : (c.setRoutes k s).routes k' = c.routes k' := by
  cases k <;> cases k' <;> first | rfl | exact absurd rfl h

@[simp] theorem routes_setGateways (c : Cluster) (gateways : Store Gateway Gateway.key)
    (k : RouteKind) :
    ({ c with gateways } : Cluster).routes k = c.routes k := by
  cases k <;> rfl

end Cluster

/-- Replacing a kind's routes leaves binding as it was. -/
theorem SameBindings.setRoutes (c : Cluster) (k : RouteKind) (s : Store (Route k.Rule) Route.key) :
    SameBindings c (c.setRoutes k s) :=
  ⟨by simp, by simp⟩

namespace System

variable (s : System) (k k' : RouteKind)

@[simp] theorem queue_setQueue (q : List ObjectKey) : (s.setQueue k q).queue k = q := by
  cases k <;> rfl

theorem queue_setQueue_ne (q : List ObjectKey) (h : k' ≠ k) :
    (s.setQueue k q).queue k' = s.queue k' := by
  cases k <;> cases k' <;> first | rfl | exact absurd rfl h

@[simp] theorem cluster_setQueue (q : List ObjectKey) : (s.setQueue k q).cluster = s.cluster := by
  cases k <;> rfl

@[simp] theorem proxy_setQueue (q : List ObjectKey) : (s.setQueue k q).proxy = s.proxy := by
  cases k <;> rfl

@[simp] theorem syncer_setQueue (q : List ObjectKey) : (s.setQueue k q).syncer = s.syncer := by
  cases k <;> rfl

@[simp] theorem startupComplete_setQueue (q : List ObjectKey) :
    (s.setQueue k q).startupComplete k' = s.startupComplete k' := by
  cases k <;> cases k' <;> rfl

/-- A route queue after `enqueueRoutes`: what it held, and the enqueued keys on
the kind's own queue. -/
theorem mem_queue_enqueueRoutes (ks : List ObjectKey) (key : ObjectKey) :
    key ∈ (s.enqueueRoutes k ks).queue k' ↔ key ∈ s.queue k' ∨ k' = k ∧ key ∈ ks := by
  unfold enqueueRoutes
  by_cases h : k' = k
  · subst h
    simp [mem_enqueue]
  · simp [queue_setQueue_ne _ _ _ _ h, h]

@[simp] theorem cluster_enqueueRoutes (ks : List ObjectKey) :
    (s.enqueueRoutes k ks).cluster = s.cluster :=
  cluster_setQueue _ _ _

@[simp] theorem proxy_enqueueRoutes (ks : List ObjectKey) :
    (s.enqueueRoutes k ks).proxy = s.proxy :=
  proxy_setQueue _ _ _

@[simp] theorem syncer_enqueueRoutes (ks : List ObjectKey) :
    (s.enqueueRoutes k ks).syncer = s.syncer :=
  syncer_setQueue _ _ _

@[simp] theorem queue_enqueueGateways (ks : List ObjectKey) :
    (s.enqueueGateways ks).queue k = s.queue k := by
  cases k <;> rfl

@[simp] theorem queue_completeStartup : (s.completeStartup k).queue k' = s.queue k' := by
  cases k <;> cases k' <;> rfl

@[simp] theorem cluster_completeStartup : (s.completeStartup k).cluster = s.cluster := by
  cases k <;> rfl

@[simp] theorem proxy_completeStartup : (s.completeStartup k).proxy = s.proxy := by
  cases k <;> rfl

@[simp] theorem syncer_completeStartup : (s.completeStartup k).syncer = s.syncer := by
  cases k <;> rfl

@[simp] theorem queue_withCluster (c : Cluster) : (s.withCluster c).queue k = s.queue k := by
  cases k <;> rfl

/-- What `afterSync` records: the outcome's cluster and syncer, and the proxy
after the push. -/
theorem afterSync_fields (out : ReconcileOutcome) :
    (s.afterSync out).cluster = out.cluster ∧ (s.afterSync out).syncer = out.syncer ∧
      (s.afterSync out).proxy = (out.push.map s.proxy.receive).getD s.proxy ∧
      ∀ k, (s.afterSync out).queue k = s.queue k := by
  unfold afterSync
  cases out.push <;> exact ⟨rfl, rfl, rfl, fun k => by cases k <;> rfl⟩

@[simp] theorem queue_afterSync (out : ReconcileOutcome) : (s.afterSync out).queue k = s.queue k :=
  (s.afterSync_fields out).2.2.2 k

@[simp] theorem cluster_afterSync (out : ReconcileOutcome) :
    (s.afterSync out).cluster = out.cluster :=
  (s.afterSync_fields out).1

/-- `s'` is `s` with more requests on the route queues: all an event handler
does. -/
structure Enqueued (s s' : System) : Prop where
  cluster : s'.cluster = s.cluster
  proxy : s'.proxy = s.proxy
  syncer : s'.syncer = s.syncer
  queue : ∀ k key, key ∈ s.queue k → key ∈ s'.queue k
  gatewayQueue : ∀ key, key ∈ s.gatewayQueue → key ∈ s'.gatewayQueue

namespace Enqueued

theorem refl : Enqueued s s := ⟨rfl, rfl, rfl, fun _ _ => id, fun _ => id⟩

theorem trans {s s' s'' : System} (h : Enqueued s s') (h' : Enqueued s' s'') : Enqueued s s'' :=
  ⟨h'.cluster.trans h.cluster, h'.proxy.trans h.proxy, h'.syncer.trans h.syncer,
    fun k key hk => h'.queue k key (h.queue k key hk),
      fun key hk => h'.gatewayQueue key (h.gatewayQueue key hk)⟩

end Enqueued

@[simp] theorem gatewayQueue_setQueue (q : List ObjectKey) :
    (s.setQueue k q).gatewayQueue = s.gatewayQueue := by
  cases k <;> rfl

@[simp] theorem gatewayQueue_enqueueRoutes (ks : List ObjectKey) :
    (s.enqueueRoutes k ks).gatewayQueue = s.gatewayQueue :=
  gatewayQueue_setQueue _ _ _

@[simp] theorem gatewayQueue_completeStartup :
    (s.completeStartup k).gatewayQueue = s.gatewayQueue := by
  cases k <;> rfl

@[simp] theorem gatewayQueue_afterSync (out : ReconcileOutcome) :
    (s.afterSync out).gatewayQueue = s.gatewayQueue := by
  unfold afterSync
  cases out.push <;> rfl

theorem enqueued_enqueueRoutes (ks : List ObjectKey) : Enqueued s (s.enqueueRoutes k ks) :=
  ⟨by simp, by simp, by simp, fun _ _ h => (mem_queue_enqueueRoutes _ _ _ _ _).mpr (.inl h),
    fun _ h => by simpa using h⟩

@[simp] theorem cluster_enqueueGateways (ks : List ObjectKey) :
    (s.enqueueGateways ks).cluster = s.cluster :=
  rfl

@[simp] theorem gatewayQueue_enqueueGateways (ks : List ObjectKey) :
    (s.enqueueGateways ks).gatewayQueue = enqueue s.gatewayQueue ks :=
  rfl

theorem enqueued_enqueueGateways (ks : List ObjectKey) : Enqueued s (s.enqueueGateways ks) :=
  ⟨rfl, rfl, rfl, fun _ _ h => by simpa using h, fun _ h => mem_enqueue.mpr (.inl h)⟩

theorem enqueued_ite_enqueueGateways (b : Prop) [Decidable b] (ks : List ObjectKey) :
    Enqueued s (if b then s.enqueueGateways ks else s) := by
  split
  exacts [s.enqueued_enqueueGateways ks, .refl s]

theorem enqueued_completeStartup : Enqueued s (s.completeStartup k) :=
  ⟨by simp, by simp, by simp, fun _ _ h => by simpa using h, fun _ h => by simpa using h⟩

/-- Taking the head off a queue loses only that key. -/
theorem mem_queue_setQueue_of_cons {key : ObjectKey} {rest : List ObjectKey}
    (hq : s.queue k = key :: rest) {key' : ObjectKey} (h : key' ∈ s.queue k') :
    key' ∈ (s.setQueue k rest).queue k' ∨ k' = k ∧ key' = key := by
  by_cases hk : k' = k
  · subst hk
    rw [hq, List.mem_cons] at h
    rw [queue_setQueue]
    exact h.symm.imp_right (⟨rfl, ·⟩)
  · exact .inl (by rwa [queue_setQueue_ne _ _ _ _ hk])

/-- A request taken off its queue and put back: every queue holds what it held. -/
theorem mem_queue_of_requeue {key : ObjectKey} {rest : List ObjectKey}
    (hq : s.queue k = key :: rest)
    {s' : System} (hs : ∀ k', s'.queue k' = (s.setQueue k rest).queue k') {key' : ObjectKey}
    (h : key' ∈ s.queue k') : key' ∈ (s'.enqueueRoutes k [key]).queue k' := by
  rw [mem_queue_enqueueRoutes, hs]
  rcases s.mem_queue_setQueue_of_cons k k' hq h with h | ⟨rfl, rfl⟩
  · exact .inl h
  · exact .inr ⟨rfl, List.mem_singleton_self _⟩

theorem enqueued_requeue {key : ObjectKey} {rest : List ObjectKey} (hq : s.queue k = key :: rest) :
    Enqueued s ((s.setQueue k rest).enqueueRoutes k [key]) :=
  ⟨by simp, by simp, by simp, fun _ _ h => s.mem_queue_of_requeue k _ hq (fun _ => rfl) h,
    fun _ h => by simpa using h⟩

variable (cfg : ControllerConfig) (env : EditEnv)

theorem enqueued_routeEvent (ev : WatchEvent (Route k.Rule)) : Enqueued s (s.routeEvent k ev) := by
  unfold routeEvent
  split
  exacts [s.enqueued_enqueueRoutes k _, .refl s]

theorem enqueued_gatewayEvent (ev : WatchEvent Gateway) :
    Enqueued s (s.gatewayEvent cfg env ev) := by
  unfold gatewayEvent
  split
  · exact (s.enqueued_enqueueGateways _).trans
      ((enqueued_enqueueRoutes _ _ _).trans (enqueued_enqueueRoutes _ _ _))
  · exact s.enqueued_enqueueGateways _

theorem enqueued_pingoraConfigEvent (ev : WatchEvent PingoraConfig) :
    Enqueued s (s.pingoraConfigEvent cfg env ev) := by
  unfold pingoraConfigEvent
  split
  · exact (s.enqueued_enqueueGateways _).trans
      ((enqueued_enqueueRoutes _ _ _).trans (enqueued_enqueueRoutes _ _ _))
  · exact s.enqueued_enqueueGateways _

theorem enqueued_secretEvent (ev : WatchEvent Secret) : Enqueued s (s.secretEvent cfg env ev) := by
  unfold secretEvent
  split
  · exact (enqueued_enqueueRoutes _ _ _).trans (enqueued_enqueueRoutes _ _ _)
  · exact .refl s

theorem enqueued_gatewayClassEvent (ev : WatchEvent GatewayClass) :
    Enqueued s (s.gatewayClassEvent cfg env ev) :=
  s.enqueued_enqueueGateways _

/-- A Gateway event enqueues the Gateway it carries for the Gateway
reconciler. -/
theorem mem_gatewayQueue_gatewayEvent {ev : WatchEvent Gateway} {key : ObjectKey}
    (hk : key ∈ ev.requests fun _ g => [g.key]) :
    key ∈ (s.gatewayEvent cfg env ev).gatewayQueue := by
  unfold gatewayEvent
  split <;> simp [mem_enqueue, hk]

/-- A route event that passes the filter enqueues its requests. -/
theorem mem_queue_routeEvent {ev : WatchEvent (Route k.Rule)}
    (hg : ev.generationChanged (·.generation) = true)
    {key : ObjectKey} (hk : key ∈ ev.requests fun _ r => [r.key]) :
    key ∈ (s.routeEvent k ev).queue k := by
  simp only [routeEvent, hg, if_true]
  exact (mem_queue_enqueueRoutes _ _ _ _ _).mpr (.inr ⟨rfl, hk⟩)

/-- A Gateway event that passes the route reconcilers' filter enqueues the routes
their map functions give. -/
theorem mem_queue_gatewayEvent {ev : WatchEvent Gateway}
    (hg : ev.generationChanged (·.generation) = true) {key : ObjectKey}
    (hk : key ∈ ev.requests fun side =>
      cfg.routeReconciler.findRoutesForGateway k s.cluster (env.readOk (.route k) side)) :
    key ∈ (s.gatewayEvent cfg env ev).queue k := by
  simp only [gatewayEvent, hg, if_true, mem_queue_enqueueRoutes, cluster_enqueueRoutes]
  cases k <;> simp [hk]

/-- A route naming a Gateway of the class is among the routes that
`findRoutesForGateway` maps the Gateway to when its `List` succeeds. -/
theorem mem_findRoutesForGateway {readOk : MapRead → Bool} (hok : readOk .list = true)
    {c : Cluster} {gateway : Gateway} {R : Route k.Rule}
    (hcls : gateway.gatewayClassName = cfg.gatewayClassName) (hR : R ∈ (c.routes k).items)
    (hname : R.parentRefs.any (fun ref => ref.name == gateway.name)) :
    R.key ∈ cfg.routeReconciler.findRoutesForGateway k c readOk gateway := by
  simp only [RouteReconciler.findRoutesForGateway, findRoutesForGateway,
    ControllerConfig.routeReconciler, hok, hcls, bne_self_eq_false, Bool.not_true,
    Bool.false_eq_true, if_false]
  exact List.mem_map_of_mem _ (List.mem_filter.mpr ⟨hR, hname⟩)

end System

namespace WatchEvent

variable {α : Type} {old : Option α} {new : α} {generation : α → Nat}

/-- A put whose event the filter drops updated an object of the same
generation. -/
theorem eq_of_generationChanged_ofPut (h : (ofPut old new).generationChanged generation = false) :
    ∃ o, old = some o ∧ generation o = generation new := by
  cases old <;> simp_all [ofPut, generationChanged]

/-- The requests of a put's event include those of the new object. -/
theorem mem_requests_ofPut {f : EventSide → α → List ObjectKey} {key : ObjectKey}
    (h : key ∈ f .new new) : key ∈ (ofPut old new).requests f := by
  cases old <;> simp [ofPut, requests, h]

end WatchEvent

/-- A stored route keeps the key of the put. -/
@[simp] theorem key_storedRoute {Rule : Type} [DecidableEq Rule] (old : Option (Route Rule))
    (r : Route Rule) :
    (storedRoute old r).key = r.key := by
  cases old <;> rfl

/-- A route stored at the generation it had has the spec it had. -/
theorem spec_storedRoute {Rule : Type} [DecidableEq Rule] {o r : Route Rule} (hk : o.key = r.key)
    (hg : o.generation = (storedRoute (some o) r).generation) :
    (storedRoute (some o) r).spec = o.spec := by
  simp only [Route.key, ObjectKey.mk.injEq] at hk
  simp only [storedRoute] at hg ⊢
  split_ifs at hg ⊢ with hs
  · simp only [Bool.and_eq_true, beq_iff_eq] at hs
    simp [Route.spec, hk, hs]
  · omega

@[simp] theorem key_storedGateway (old : Option Gateway) (g : Gateway) :
    (storedGateway old g).key = g.key := by
  cases old <;> rfl

/-- A Gateway stored at the generation it had binds as it did. -/
theorem bindingSpec_storedGateway {o g : Gateway} (hk : o.key = g.key)
    (hg : o.generation = (storedGateway (some o) g).generation) :
    (storedGateway (some o) g).bindingSpec = o.bindingSpec := by
  simp only [Gateway.key, ObjectKey.mk.injEq] at hk
  simp only [storedGateway] at hg ⊢
  split_ifs at hg ⊢ with hs
  · simp only [Bool.and_eq_true, beq_iff_eq] at hs
    simp [Gateway.bindingSpec, hk, hs]
  · omega

/-- The routes `getRelevantRoutes` keeps are the relevant ones. -/
theorem getRelevantRoutes_fst {Rule : Type} {c : Cluster} {gatewayClassName kind : String}
    {routes : List (Route Rule)} {listOk : Bool} {listError : String} {rs : List (Route Rule)}
    {bindings : List (String × RouteBindingInfo)}
    (h : getRelevantRoutes c gatewayClassName kind routes listOk listError = .ok (rs, bindings)) :
    rs = routes.filter (isRelevantRoute c gatewayClassName kind) := by
  unfold getRelevantRoutes at h
  split at h
  · have hfst := congrArg Prod.fst (Except.ok.inj h)
    simp only at hfst
    rw [← hfst, relevantRoutesLoop_fst, List.nil_append]
  · cases h

namespace PingoraRouteSyncer

variable (s : PingoraRouteSyncer) (c : Cluster) (env : SyncEnv)

/-- What `collectRoutes` builds: the builder image of the relevant routes of
each kind. -/
theorem collectRoutes_ok {h : List Routing.HTTPRoute} {g : List Routing.GRPCRoute} {sr : SyncResult}
    (hc : s.collectRoutes c env = .ok (h, g, sr)) (k : RouteKind) :
    ((c.routes k).items.filter (isRelevantRoute c s.gatewayClassName k.kindName)).mapM
      (k.build s.builder) =
      .ok (Routing.UpdateRoutesRequest.table ⟨h, g, 0⟩ k) := by
  unfold collectRoutes at hc
  rcases h1 : s.getRelevantHTTPRoutes c env.httpListOk with _ | ⟨hr, hb⟩ <;>
    simp only [h1] at hc
  · cases hc
  rcases h2 : s.getRelevantGRPCRoutes c env.grpcListOk with _ | ⟨gr, gb⟩ <;>
    simp only [h2] at hc
  · cases hc
  rcases h3 : hr.mapM s.builder.buildHTTPRoute with _ | hw <;> simp only [h3] at hc
  · cases hc
  rcases h4 : gr.mapM s.builder.buildGRPCRoute with _ | gw <;> simp only [h4] at hc
  · cases hc
  simp only [Except.ok.injEq, Prod.mk.injEq] at hc
  obtain ⟨rfl, rfl, -⟩ := hc
  have hh := getRelevantRoutes_fst h1
  have hg := getRelevantRoutes_fst h2
  subst hh hg
  cases k
  · exact h3
  · exact h4

/-- With both `List`s succeeding, the middle of `SyncAllRoutes` fails only by a
builder panic. -/
theorem collectRoutes_error_of_lists (hl : env.httpListOk = true ∧ env.grpcListOk = true)
    {o : SyncOutcome} (hc : s.collectRoutes c env = .error o) : ∃ e, o = .panicked e := by
  unfold collectRoutes at hc
  simp only [getRelevantHTTPRoutes, getRelevantGRPCRoutes, getRelevantRoutes, hl.1, hl.2,
    if_true] at hc
  repeat' split at hc
  all_goals cases hc
  all_goals exact ⟨_, rfl⟩

@[simp] theorem statics_syncAllRoutes : (s.syncAllRoutes c env).1.statics = s.statics := by
  have he := statics_ensureConnected s c env.dialOk
  rcases s.syncBegin_cases c env with ⟨-, hb⟩ | ⟨-, o, -, hb⟩ | ⟨-, _, _, _, -, hb⟩ <;>
    simp only [syncAllRoutes, hb]
  · exact he
  · exact he
  rcases syncSend_cases _ _ env.reply with ⟨-, h⟩ | ⟨_, -, -, h⟩ |
      ⟨_, -, -, ⟨_, -, h⟩ | ⟨_, _, -, h⟩ | ⟨_, _, -, h⟩⟩ <;>
    rw [h] <;> first | exact he | exact (statics_close _).trans he

/-- A push carries the builder image of the routes relevant in the cluster the
call listed. -/
theorem syncAllRoutes_push_table {push : Push} (hp : (s.syncAllRoutes c env).2.1 = some push)
    (k : RouteKind) :
    ((c.routes k).items.filter (isRelevantRoute c s.gatewayClassName k.kindName)).mapM
      (k.build s.builder) =
      .ok (push.request.table k) := by
  rcases s.syncBegin_cases c env with ⟨-, hb⟩ | ⟨-, o, -, hb⟩ |
      ⟨-, h, g, sr, hc, hb⟩ <;>
    simp only [syncAllRoutes, hb, reduceCtorEq] at hp
  have hc' := (collectRoutes_congr c env (statics_ensureConnected s c env.dialOk)).symm.trans hc
  rw [syncSend_push _ hp]
  have ht := collectRoutes_ok s c env hc' k
  cases k <;> exact ht

/-- A call returns no error and no requeue only after a `success` reply to its
own push. -/
theorem syncAllRoutes_succeeded :
    SyncerRun.SucceededOnSuccess ((s.syncAllRoutes c env).2.2, (s.syncAllRoutes c env).2.1) := by
  rcases hb : s.syncBegin c env with ⟨t, o | p⟩
  · simpa only [syncAllRoutes, hb] using SyncerRun.VersionInvariant.done_ok hb
  · simpa only [syncAllRoutes, hb] using SyncerRun.VersionInvariant.send_ok t p env.reply

/-- With both `List`s succeeding, a call that returns no delay returns no error. -/
theorem syncAllRoutes_returned_zero (hl : env.httpListOk = true ∧ env.grpcListOk = true)
    {sr : Option SyncResult} {err : Option String}
    (h : (s.syncAllRoutes c env).2.2 = .returned ⟨0⟩ sr err) : err = none := by
  rcases s.syncBegin_cases c env with ⟨-, hb⟩ | ⟨-, o, hc, hb⟩ | ⟨-, _, _, _, -, hb⟩ <;>
    simp only [syncAllRoutes, hb] at h
  · simp [apiErrorRequeueDelay] at h
  · obtain ⟨e, rfl⟩ := collectRoutes_error_of_lists _ c env hl hc
    cases h
  · rcases syncSend_cases _ _ env.reply with ⟨-, hs⟩ | ⟨_, -, -, hs⟩ |
        ⟨_, -, -, ⟨_, -, hs⟩ | ⟨_, _, -, hs⟩ | ⟨_, _, -, hs⟩⟩ <;>
      rw [hs] at h <;> simp [apiErrorRequeueDelay] at h
    exact h.2.symm

end PingoraRouteSyncer

/-- Two clusters agree on everything binding and the builder read: they bind
alike, and their routes of each kind agree up to status, in the same order. -/
structure SameSpecs (c c' : Cluster) : Prop where
  bindings : SameBindings c c'
  routes : ∀ k, (c'.routes k).items.map Route.spec = (c.routes k).items.map Route.spec

namespace SameSpecs

variable {c c' c'' : Cluster}

theorem refl (c : Cluster) : SameSpecs c c := ⟨.refl c, fun _ => rfl⟩

theorem trans (h : SameSpecs c c') (h' : SameSpecs c' c'') : SameSpecs c c'' :=
  ⟨h.bindings.trans h'.bindings, fun k => (h'.routes k).trans (h.routes k)⟩

/-- Each route of the later cluster agrees with a route of the earlier one. -/
theorem exists_spec (h : SameSpecs c c') {k : RouteKind} {R' : Route k.Rule}
    (hR : R' ∈ (c'.routes k).items) : ∃ R ∈ (c.routes k).items, R.spec = R'.spec := by
  have hm : R'.spec ∈ (c.routes k).items.map Route.spec := h.routes k ▸ List.mem_map_of_mem _ hR
  obtain ⟨R, hR, he⟩ := List.mem_map.mp hm
  exact ⟨R, hR, he⟩

/-- Writing a Gateway's status keeps the specs. -/
theorem putGatewayStatus {key : ObjectKey} {fresh : Gateway} (hf : c.gateways.get key = some fresh)
    (status : GatewayStatus) :
    SameSpecs c { c with gateways := c.gateways.put { fresh with status } } :=
  ⟨⟨Store.map_put_of_mem Gateway.bindingSpec (Store.mem_of_get hf).1 rfl rfl, rfl⟩,
    fun k => by cases k <;> rfl⟩

end SameSpecs

/-- `c'` is `c` with route statuses rewritten: the specs agree and the Gateways
are untouched. -/
structure RouteStatusFrame (c c' : Cluster) : Prop where
  sameSpecs : SameSpecs c c'
  gateways : c'.gateways = c.gateways

theorem RouteStatusFrame.refl (c : Cluster) : RouteStatusFrame c c := ⟨.refl c, rfl⟩

theorem RouteStatusFrame.trans {c c' c'' : Cluster} (h : RouteStatusFrame c c')
    (h' : RouteStatusFrame c' c'') :
    RouteStatusFrame c c'' :=
  ⟨h.sameSpecs.trans h'.sameSpecs, h'.gateways.trans h.gateways⟩

namespace RouteReconciler

variable (r : RouteReconciler) (k : RouteKind)

/-- A status write changes a route's status only. -/
theorem updateRouteStatus_frame {c c' : Cluster} {route : Route k.Rule} {info : RouteBindingInfo}
    {syncErr : Option String} {now : Nat} {putOk : Bool}
    (h : r.updateRouteStatus k c route info syncErr now putOk = .ok c') :
    RouteStatusFrame c c' := by
  obtain ⟨fresh, hf, -, rfl⟩ := r.updateRouteStatus_eq_ok k c c' route info syncErr now putOk h
  refine ⟨⟨SameBindings.setRoutes _ _ _, fun k' => ?_⟩, by simp⟩
  by_cases hk : k' = k
  · subst hk
    rw [Cluster.routes_setRoutes]
    exact Store.map_put_of_mem Route.spec (Store.mem_of_get hf).1 rfl rfl
  · rw [Cluster.routes_setRoutes_ne _ _ hk]

/-- The status loop changes route statuses only. -/
theorem updateRouteStatuses_frame (bindings : List (String × RouteBindingInfo))
    (syncErr : Option String) (now : Nat) :
    ∀ (routes : List (Route k.Rule)) (putOks : List Bool) (c : Cluster) (err : Option String),
      RouteStatusFrame c (r.updateRouteStatuses k bindings syncErr now routes putOks c err).1
  | [], _, c, _ => .refl c
  | route :: routes, putOks, c, err => by
    simp only [updateRouteStatuses]
    split
    · rename_i c' h
      exact (r.updateRouteStatus_frame k h).trans
        (updateRouteStatuses_frame bindings syncErr now _ _ _ _)
    · exact updateRouteStatuses_frame bindings syncErr now _ _ _ _

/-- What `syncAndUpdateStatus` leaves: a cluster with only route statuses
rewritten, and the syncer and push of its `SyncAllRoutes`. -/
theorem syncAndUpdateStatus_fields (c : Cluster) (syncer : PingoraRouteSyncer) (env : ReconcileEnv)
    (now : Nat) :
    RouteStatusFrame c (r.syncAndUpdateStatus k c syncer env now).cluster ∧
      (r.syncAndUpdateStatus k c syncer env now).syncer = (syncer.syncAllRoutes c env.sync).1 ∧
      (r.syncAndUpdateStatus k c syncer env now).push = (syncer.syncAllRoutes c env.sync).2.1 := by
  unfold syncAndUpdateStatus
  rcases syncer.syncAllRoutes c env.sync with ⟨t, push, o⟩
  cases o with
  | panicked msg => exact ⟨.refl c, rfl, rfl⟩
  | returned result sr syncErr =>
    cases sr with
    | none => exact ⟨.refl c, rfl, rfl⟩
    | some sr => exact ⟨r.updateRouteStatuses_frame k _ _ _ _ _ _ _, rfl, rfl⟩

/-- A reconcile that `finishSync` ends without a requeue had a sync with no
delay. -/
theorem requeueAfter_of_finishSync {result : Result} {syncErr statusUpdateErr : Option String}
    (h : requeues (finishSync result syncErr statusUpdateErr).1
      (finishSync result syncErr statusUpdateErr).2 =
      false) : result.requeueAfter = 0 := by
  unfold finishSync at h
  split at h
  · simpa [requeues] using h
  · cases statusUpdateErr <;> simp_all [requeues]

/-- With both `List`s succeeding, a `syncAndUpdateStatus` that is not requeued
had a `SyncAllRoutes` that returned with no delay and no error. -/
theorem syncAndUpdateStatus_settled {c : Cluster} {syncer : PingoraRouteSyncer} {env : ReconcileEnv}
    {now : Nat} (hl : env.sync.httpListOk = true ∧ env.sync.grpcListOk = true)
    (h : requeues (r.syncAndUpdateStatus k c syncer env now).result
      (r.syncAndUpdateStatus k c syncer env now).err = false) :
    ∃ sr, (syncer.syncAllRoutes c env.sync).2.2 = .returned ⟨0⟩ sr none := by
  unfold syncAndUpdateStatus at h
  rcases hs : syncer.syncAllRoutes c env.sync with ⟨t, push, o⟩
  rw [hs] at h
  cases o with
  | panicked msg => simp [requeues] at h
  | returned result sr syncErr =>
    have h0 := requeueAfter_of_finishSync h
    obtain ⟨n⟩ := result
    simp only at h0
    subst h0
    have he := syncer.syncAllRoutes_returned_zero c env.sync hl (by rw [hs])
    exact ⟨sr, by rw [he]⟩

/-- How a route reconcile goes: the error of a failed route `Get`, an early
return for a route found that `isRouteForOurGateway` turns away, or
`syncAndUpdateStatus`. -/
theorem reconcile_cases (c : Cluster) (syncer : PingoraRouteSyncer) (env : ReconcileEnv) (now : Nat)
    (key : ObjectKey) :
    (∃ e, env.routeGetErr = some e ∧ r.reconcile k c syncer env now key =
      ⟨c, syncer, none, ⟨0⟩, some ("failed to get " ++ k.resource ++ ": " ++ e)⟩) ∨
    (∃ route, (c.routes k).get key = some route ∧
      r.isRouteForOurGateway k c route env.gatewayGetOk = false ∧
      r.reconcile k c syncer env now key = ⟨c, syncer, none, ⟨0⟩, none⟩) ∨
    r.reconcile k c syncer env now key = r.syncAndUpdateStatus k c syncer env now := by
  rcases he : env.routeGetErr with _ | e
  · rcases hr : (c.routes k).get key with _ | route
    · exact .inr (.inr (by simp only [reconcile, he, hr]))
    · cases ha : r.isRouteForOurGateway k c route env.gatewayGetOk
      · exact .inr (.inl ⟨route, rfl, ha, by simp [reconcile, he, hr, ha]⟩)
      · exact .inr (.inr (by simp [reconcile, he, hr, ha]))
  · exact .inl ⟨e, rfl, by simp only [reconcile, he]⟩

/-- A route reconcile changes route statuses only. -/
theorem reconcile_frame (c : Cluster) (syncer : PingoraRouteSyncer) (env : ReconcileEnv) (now : Nat)
    (key : ObjectKey) : RouteStatusFrame c (r.reconcile k c syncer env now key).cluster := by
  rcases r.reconcile_cases k c syncer env now key with ⟨_, -, h⟩ | ⟨_, -, -, h⟩ | h <;>
    rw [h]
  · exact .refl c
  · exact .refl c
  · exact (r.syncAndUpdateStatus_fields k c syncer env now).1

end RouteReconciler

namespace System

variable (cfg : ControllerConfig) (s : System) (k : RouteKind) (env : ReconcileEnv)

@[simp] theorem cluster_restart : (s.restart cfg).cluster = s.cluster := rfl

@[simp] theorem proxy_restart : (s.restart cfg).proxy = s.proxy := rfl

@[simp] theorem syncer_restart : (s.restart cfg).syncer = cfg.newSyncer := rfl

/-- What a `Start` does: nothing after the startup sync; else a crash and a
restart when the sync panics, or the sync and the startup flag. -/
theorem start_cases :
    s.start cfg k env = s ∨
    ((s.syncer.syncAllRoutes s.cluster env.sync).2.2.panics = true ∧
      s.start cfg k env = s.restart cfg) ∨
    s.start cfg k env =
      (s.afterSync (cfg.routeReconciler.syncAndUpdateStatus k s.cluster s.syncer env
        s.clock)).completeStartup k := by
  unfold start
  split
  · exact .inl rfl
  split
  · exact .inr (.inl ⟨‹_›, rfl⟩)
  · exact .inr (.inr rfl)

/-- The startup sync changes route statuses only, and no Gateway request,
unless it crashes the process. -/
theorem start_frame :
    RouteStatusFrame s.cluster (s.start cfg k env).cluster ∧
      ((s.start cfg k env).gatewayQueue = s.gatewayQueue ∨
        s.start cfg k env = s.restart cfg) := by
  rcases s.start_cases cfg k env with h | ⟨-, h⟩ | h <;> rw [h]
  · exact ⟨.refl _, .inl rfl⟩
  · exact ⟨.refl _, .inr rfl⟩
  · simp only [cluster_completeStartup, gatewayQueue_completeStartup, cluster_afterSync,
      gatewayQueue_afterSync, true_or, and_true]
    exact (cfg.routeReconciler.syncAndUpdateStatus_fields k _ _ _ _).1

/-- A route reconcile changes route statuses only, and no Gateway request. -/
theorem reconcileRoute_frame :
    RouteStatusFrame s.cluster (s.reconcileRoute cfg k env).cluster ∧
      (s.reconcileRoute cfg k env).gatewayQueue = s.gatewayQueue := by
  unfold reconcileRoute
  split
  · exact ⟨.refl _, rfl⟩
  dsimp only
  split
  · simpa using RouteStatusFrame.refl s.cluster
  · split <;> simp only [cluster_enqueueRoutes, gatewayQueue_enqueueRoutes, cluster_afterSync,
      gatewayQueue_afterSync, cluster_setQueue, gatewayQueue_setQueue, syncer_setQueue,
      and_true] <;> exact cfg.routeReconciler.reconcile_frame k _ _ _ _ _

end System

namespace GatewayReconciler

variable {c c' : Cluster} {gateway : Gateway} {env : GatewayEnv} {now : Nat}

/-- `updateStatus` writes the counts of the cluster it reads into the fresh
copy's status. -/
theorem updateStatus_eq_ok {cfg : ResolvedPingoraConfig}
    (h : updateStatus c gateway cfg env now = .ok c') :
    ∃ fresh, c.gateways.get gateway.key = some fresh ∧
      c' = { c with gateways := c.gateways.put { fresh with status := (gatewayStatus fresh cfg
        (countAttachedRoutes c fresh env.httpListOk env.grpcListOk) now) } } := by
  unfold updateStatus at h
  split at h
  · cases h
  · rename_i fresh hf
    split at h
    · exact ⟨fresh, hf, (Except.ok.inj h).symm⟩
    · cases h

theorem setConfigErrorStatus_eq_ok {configErr : String}
    (h : setConfigErrorStatus c gateway configErr env now = .ok c') :
    ∃ fresh status, c.gateways.get gateway.key = some fresh ∧
      c' = { c with gateways := c.gateways.put { fresh with status } } := by
  unfold setConfigErrorStatus at h
  split at h
  · cases h
  · rename_i fresh hf
    split at h
    · exact ⟨fresh, _, hf, (Except.ok.inj h).symm⟩
    · cases h

variable (r : GatewayReconciler) {key : ObjectKey} {result : Result} {err : Option String}

/-- How a Gateway reconcile goes: no write for a Gateway that is gone, of
another class or being deleted; a requeue after a config error, having written
at most the conditions; or the counts of the cluster it read written into the
fresh copy, unless the write fails with an error. -/
theorem reconcile_cases (hr : r.reconcile c env now key = (c', result, err)) :
    (c' = c ∧ result = ⟨0⟩ ∧ err = none ∧
      ∀ g, c.gateways.get key = some g → g.gatewayClassName = r.gatewayClassName →
        g.deleting = true) ∨
    (result = ⟨configErrorRequeueDelay⟩ ∧
      (c' = c ∨ ∃ fresh status, c.gateways.get key = some fresh ∧
        c' = { c with gateways := c.gateways.put { fresh with status } })) ∨
    (∃ fresh cfg, c.gateways.get key = some fresh ∧ result = ⟨0⟩ ∧ err = none ∧
      c' = { c with gateways := c.gateways.put { fresh with status := (gatewayStatus fresh cfg
        (countAttachedRoutes c fresh env.httpListOk env.grpcListOk) now) } }) ∨
    (c' = c ∧ err.isSome = true) := by
  unfold reconcile at hr
  split at hr
  · cases hr
    exact .inr (.inr (.inr ⟨rfl, rfl⟩))
  · rename_i hnone
    cases hr
    exact .inl ⟨rfl, rfl, rfl, fun g hg => by simp [hnone] at hg⟩
  rename_i gateway _ hget
  have hkey := (Store.mem_of_get hget).2
  split at hr
  · rename_i hcls
    cases hr
    refine .inl ⟨rfl, rfl, rfl, fun g hg hc => ?_⟩
    obtain rfl : gateway = g := Option.some.inj (hget.symm.trans hg)
    simp [hc] at hcls
  split at hr
  · split at hr <;> cases hr
    · obtain ⟨fresh, status, hf, rfl⟩ := setConfigErrorStatus_eq_ok ‹_›
      exact .inr (.inl ⟨rfl, .inr ⟨fresh, status, hkey ▸ hf, rfl⟩⟩)
    · exact .inr (.inl ⟨rfl, .inl rfl⟩)
  split at hr
  · cases hr
    refine .inl ⟨rfl, rfl, rfl, fun g hg _ => ?_⟩
    obtain rfl : gateway = g := Option.some.inj (hget.symm.trans hg)
    assumption
  split at hr <;> cases hr
  · obtain ⟨fresh, hf, rfl⟩ := updateStatus_eq_ok ‹_›
    exact .inr (.inr (.inl ⟨fresh, _, hkey ▸ hf, rfl, rfl, rfl⟩))
  · exact .inr (.inr (.inr ⟨rfl, rfl⟩))

/-- A Gateway reconcile writes at most the status of the Gateway it reconciles. -/
theorem reconcile_eq (hr : r.reconcile c env now key = (c', result, err)) :
    c' = c ∨ ∃ fresh status, c.gateways.get key = some fresh ∧
      c' = { c with gateways := c.gateways.put { fresh with status } } := by
  rcases r.reconcile_cases hr with ⟨h, -⟩ | ⟨-, h⟩ | ⟨fresh, _, hf, -, -, h⟩ |
    ⟨h, -⟩
  exacts [.inl h, h, .inr ⟨fresh, _, hf, h⟩, .inl h]

/-- A Gateway reconcile writes Gateway statuses only. -/
theorem reconcile_sameSpecs (hr : r.reconcile c env now key = (c', result, err)) :
    SameSpecs c c' := by
  rcases r.reconcile_eq hr with rfl | ⟨fresh, status, hf, rfl⟩
  · exact .refl _
  · exact SameSpecs.putGatewayStatus hf status

/-- A Gateway reconcile whose `List`s succeed and that leaves a Gateway of the
class, not being deleted, without a requeue wrote that Gateway's status with
the counts of the cluster it read. -/
theorem reconcile_settled (hl : env.httpListOk = true ∧ env.grpcListOk = true)
    (hr : r.reconcile c env now key = (c', result, err)) (hreq : requeues result err = false)
    {g : Gateway} (hg : c'.gateways.get key = some g)
    (hcls : g.gatewayClassName = r.gatewayClassName) (hdel : g.deleting = false) :
    ∃ gateway cfg, c.gateways.get key = some gateway ∧ g = { gateway with
      status := gatewayStatus gateway cfg (countAttachedRoutes c gateway true true) now } := by
  rcases r.reconcile_cases hr with ⟨rfl, -, -, hd⟩ | ⟨rfl, -⟩ |
    ⟨fresh, cfg, hf, -, -, rfl⟩ | ⟨-, he⟩
  · simp [hd g hg hcls] at hdel
  · simp [requeues, configErrorRequeueDelay] at hreq
  · cases Option.some.inj (hg.symm.trans (Store.get_put_of_key _ (Store.mem_of_get hf).2))
    exact ⟨fresh, cfg, hf, by rw [hl.1, hl.2]⟩
  · simp [requeues, he] at hreq

end GatewayReconciler

end PingoraGateway
