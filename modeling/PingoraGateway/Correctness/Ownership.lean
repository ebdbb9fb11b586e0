import PingoraGateway.Correctness.ProxyTable

/-!
# What the controller writes

The controller creates, changes and deletes no object: each of its steps
rewrites route and Gateway statuses only, so whatever it does between the
changes made outside it, the cluster holds the objects those changes alone
make, up to statuses. It writes the statuses of its own objects only: from any
state it reaches, its reconciles leave every route that no Gateway of its class
accepts, and every Gateway of another class, exactly as they were.
-/

namespace PingoraGateway

/-- A route without its status. -/
def Route.eraseStatus {Rule : Type} (r : Route Rule) : Route Rule := { r with parents := [] }

/-- A Gateway without its status. -/
def Gateway.eraseStatus (g : Gateway) : Gateway := { g with status := ⟨[], [], []⟩ }

@[simp] theorem Route.key_eraseStatus {Rule : Type} (r : Route Rule) : r.eraseStatus.key = r.key :=
  rfl

@[simp] theorem Gateway.key_eraseStatus (g : Gateway) : g.eraseStatus.key = g.key := rfl

/-- Whether a step is a change made outside the controller. -/
def Action.isEdit : Action → Bool
  | .edit _ _ => true
  | _ => false

/-- Two clusters hold the same objects, in the same order, up to route and
Gateway statuses. -/
structure SameObjects (c c' : Cluster) : Prop where
  gatewayClasses : c'.gatewayClasses = c.gatewayClasses
  gateways : c'.gateways.items.map Gateway.eraseStatus = c.gateways.items.map Gateway.eraseStatus
  httpRoutes : c'.httpRoutes.items.map Route.eraseStatus = c.httpRoutes.items.map Route.eraseStatus
  grpcRoutes : c'.grpcRoutes.items.map Route.eraseStatus = c.grpcRoutes.items.map Route.eraseStatus
  pingoraConfigs : c'.pingoraConfigs = c.pingoraConfigs
  secrets : c'.secrets = c.secrets
  namespaces : c'.namespaces = c.namespaces

namespace SameObjects

variable {c c' c'' : Cluster}

theorem refl (c : Cluster) : SameObjects c c := ⟨rfl, rfl, rfl, rfl, rfl, rfl, rfl⟩

theorem trans (h : SameObjects c c') (h' : SameObjects c' c'') : SameObjects c c'' :=
  ⟨h'.gatewayClasses.trans h.gatewayClasses, h'.gateways.trans h.gateways,
    h'.httpRoutes.trans h.httpRoutes, h'.grpcRoutes.trans h.grpcRoutes,
    h'.pingoraConfigs.trans h.pingoraConfigs, h'.secrets.trans h.secrets,
    h'.namespaces.trans h.namespaces⟩

theorem routes (h : SameObjects c c') (k : RouteKind) :
    (c'.routes k).items.map Route.eraseStatus = (c.routes k).items.map Route.eraseStatus := by
  cases k
  exacts [h.httpRoutes, h.grpcRoutes]

/-- Objects alike up to statuses bind alike. -/
theorem sameBindings (h : SameObjects c c') : SameBindings c c' := by
  refine ⟨?_, h.namespaces⟩
  have hg := congrArg (List.map Gateway.bindingSpec) h.gateways
  rwa [List.map_map, List.map_map] at hg

/-- Replacing a kind's routes by stores alike up to statuses. -/
theorem setRoutes (h : SameObjects c c') {k : RouteKind} {s s' : Store (Route k.Rule) Route.key}
    (hs : s'.items.map Route.eraseStatus = s.items.map Route.eraseStatus) :
    SameObjects (c.setRoutes k s) (c'.setRoutes k s') := by
  cases k
  · exact { h with httpRoutes := hs }
  · exact { h with grpcRoutes := hs }

/-- Replacing a kind's routes by a store alike up to statuses. -/
theorem of_setRoutes {k : RouteKind} {s : Store (Route k.Rule) Route.key}
    (hs : s.items.map Route.eraseStatus = (c.routes k).items.map Route.eraseStatus) :
    SameObjects c (c.setRoutes k s) := by
  cases k
  · exact { refl c with httpRoutes := hs }
  · exact { refl c with grpcRoutes := hs }

/-- Writing a Gateway's status keeps the objects. -/
theorem putGatewayStatus {key : ObjectKey} {fresh : Gateway} (hf : c.gateways.get key = some fresh)
    (status : GatewayStatus) :
    SameObjects c { c with gateways := c.gateways.put { fresh with status } } :=
  { refl c with
    gateways := Store.map_put_of_mem Gateway.eraseStatus (Store.mem_of_get hf).1 rfl rfl }

end SameObjects

/-- The route the API server stores for a put depends on the old one only up to
its status. -/
theorem eraseStatus_storedRoute {Rule : Type} [DecidableEq Rule] {old old' : Option (Route Rule)}
    (h : old.map Route.eraseStatus = old'.map Route.eraseStatus) (r : Route Rule) :
    (storedRoute old r).eraseStatus = (storedRoute old' r).eraseStatus := by
  rcases old with _ | ⟨_, _, _, _, _, _, _⟩ <;>
    rcases old' with _ | ⟨_, _, _, _, _, _, _⟩ <;>
    simp only [Option.map, Option.some.injEq, reduceCtorEq, Route.eraseStatus, Route.mk.injEq]
      at h
  · rfl
  · obtain ⟨rfl, rfl, rfl, rfl, rfl, rfl, -⟩ := h
    rfl

/-- The Gateway the API server stores for a put depends on the old one only up
to its status. -/
theorem eraseStatus_storedGateway {old old' : Option Gateway}
    (h : old.map Gateway.eraseStatus = old'.map Gateway.eraseStatus) (g : Gateway) :
    (storedGateway old g).eraseStatus = (storedGateway old' g).eraseStatus := by
  rcases old with _ | ⟨_, _, _, _, _, _, _⟩ <;>
    rcases old' with _ | ⟨_, _, _, _, _, _, _⟩ <;>
    simp only [Option.map, Option.some.injEq, reduceCtorEq, Gateway.eraseStatus,
      Gateway.mk.injEq] at h
  · rfl
  · obtain ⟨rfl, rfl, rfl, rfl, rfl, rfl, -⟩ := h
    rfl

/-- `c'` keeps every object of `c` that the controller of class `cls` does not
own: each route no Gateway of the class accepts, and each Gateway of another
class. -/
structure KeepsForeign (cls : String) (c c' : Cluster) : Prop where
  routes : ∀ k key R, (c.routes k).get key = some R →
    isRelevantRoute c cls k.kindName R = false → (c'.routes k).get key = some R
  gateways : ∀ key g, c.gateways.get key = some g → g.gatewayClassName ≠ cls →
    c'.gateways.get key = some g

namespace KeepsForeign

variable {cls : String} {c c' c'' : Cluster}

theorem refl (c : Cluster) : KeepsForeign cls c c := ⟨fun _ _ _ h _ => h, fun _ _ h _ => h⟩

/-- Foreign objects stay foreign while the objects stay the same. -/
theorem trans (h : KeepsForeign cls c c') (hs : SameObjects c c') (h' : KeepsForeign cls c' c'') :
    KeepsForeign cls c c'' :=
  ⟨fun k key R hR hrel => h'.routes k key R (h.routes k key R hR hrel)
      ((hs.sameBindings.isRelevantRoute_eq rfl cls k.kindName).trans hrel),
    fun key g hg hc => h'.gateways key g (h.gateways key g hg hc) hc⟩

end KeepsForeign

namespace PingoraRouteSyncer

variable (s : PingoraRouteSyncer) (c : Cluster) (env : SyncEnv)

/-- The snapshot `collectRoutes` returns holds the relevant routes of each kind. -/
theorem collectRoutes_snapshot {h : List Routing.HTTPRoute} {g : List Routing.GRPCRoute}
    {sr : SyncResult} (hc : s.collectRoutes c env = .ok (h, g, sr)) (k : RouteKind) :
    sr.routes k = (c.routes k).items.filter (isRelevantRoute c s.gatewayClassName k.kindName) := by
  unfold collectRoutes at hc
  rcases h1 : s.getRelevantHTTPRoutes c env.httpListOk with _ | ⟨hr, hb⟩ <;>
    simp only [h1] at hc
  · cases hc
  rcases h2 : s.getRelevantGRPCRoutes c env.grpcListOk with _ | ⟨gr, gb⟩ <;>
    simp only [h2] at hc
  · cases hc
  repeat' split at hc
  all_goals cases hc
  cases k
  exacts [getRelevantRoutes_fst h1, getRelevantRoutes_fst h2]

/-- A failed `collectRoutes` returns no snapshot. -/
theorem collectRoutes_error_snapshot {o : SyncOutcome} (hc : s.collectRoutes c env = .error o)
    {result : Result} {sr : SyncResult} {err : Option String} :
    o ≠ .returned result (some sr) err := by
  unfold collectRoutes at hc
  repeat' split at hc
  all_goals cases hc
  all_goals exact fun h => by cases h

/-- The snapshot a call returns holds the routes relevant in the cluster it
listed. -/
theorem syncAllRoutes_snapshot {result : Result} {sr : SyncResult} {err : Option String}
    (h : (s.syncAllRoutes c env).2.2 = .returned result (some sr) err) (k : RouteKind) :
    sr.routes k = (c.routes k).items.filter (isRelevantRoute c s.gatewayClassName k.kindName) := by
  rcases s.syncBegin_cases c env with
      ⟨-, hb⟩ | ⟨-, o, hc, hb⟩ | ⟨-, _, _, sr', hc, hb⟩ <;>
    simp only [syncAllRoutes, hb] at h
  · cases h
  · exact absurd h (collectRoutes_error_snapshot _ c env hc)
  have hc' := (collectRoutes_congr c env (statics_ensureConnected s c env.dialOk)).symm.trans hc
  obtain rfl : sr = sr' := by
    rcases syncSend_cases _ _ env.reply with ⟨-, hs⟩ | ⟨_, -, -, hs⟩ |
        ⟨_, -, -, ⟨_, -, hs⟩ | ⟨_, _, -, hs⟩ | ⟨_, _, -, hs⟩⟩ <;>
      rw [hs] at h <;> cases h <;> rfl
  exact collectRoutes_snapshot s c env hc' k

end PingoraRouteSyncer

namespace RouteReconciler

variable (r : RouteReconciler) (k : RouteKind)

/-- A route status write keeps the objects. -/
theorem updateRouteStatus_sameObjects {c c' : Cluster} {route : Route k.Rule}
    {info : RouteBindingInfo} {syncErr : Option String} {now : Nat} {putOk : Bool}
    (h : r.updateRouteStatus k c route info syncErr now putOk = .ok c') : SameObjects c c' := by
  obtain ⟨fresh, hf, -, rfl⟩ := r.updateRouteStatus_eq_ok k c c' route info syncErr now putOk h
  exact .of_setRoutes (Store.map_put_of_mem Route.eraseStatus (Store.mem_of_get hf).1 rfl rfl)

/-- A route status write leaves every other route as it was. -/
theorem updateRouteStatus_get_of_ne {c c' : Cluster} {route : Route k.Rule}
    {info : RouteBindingInfo} {syncErr : Option String} {now : Nat} {putOk : Bool}
    (h : r.updateRouteStatus k c route info syncErr now putOk = .ok c') {k' : RouteKind}
    {key : ObjectKey} (hk : k' = k → key ≠ route.key) :
    (c'.routes k').get key = (c.routes k').get key := by
  by_cases hkk : k' = k
  · subst hkk
    exact r.updateRouteStatus_get_ne k' c c' route info syncErr now putOk h (hk rfl)
  · obtain ⟨-, -, -, rfl⟩ := r.updateRouteStatus_eq_ok k c c' route info syncErr now putOk h
    rw [Cluster.routes_setRoutes_ne _ _ hkk]

section Loop

variable (bindings : List (String × RouteBindingInfo)) (syncErr : Option String) (now : Nat)

/-- The status loop keeps the objects. -/
theorem updateRouteStatuses_sameObjects :
    ∀ (routes : List (Route k.Rule)) (putOks : List Bool) (c : Cluster) (err : Option String),
      SameObjects c (r.updateRouteStatuses k bindings syncErr now routes putOks c err).1
  | [], _, c, _ => .refl c
  | route :: routes, putOks, c, err => by
    simp only [updateRouteStatuses]
    split
    · exact (r.updateRouteStatus_sameObjects k ‹_›).trans
        (updateRouteStatuses_sameObjects routes _ _ _)
    · exact updateRouteStatuses_sameObjects routes _ _ _

/-- The status loop leaves every route it does not visit as it was. -/
theorem updateRouteStatuses_get_of_not_mem {k' : RouteKind} {key : ObjectKey} :
    ∀ (routes : List (Route k.Rule)) (putOks : List Bool) (c : Cluster) (err : Option String),
      (k' = k → key ∉ routes.map Route.key) →
      ((r.updateRouteStatuses k bindings syncErr now routes putOks c err).1.routes k').get key =
        (c.routes k').get key
  | [], _, _, _, _ => rfl
  | route :: routes, putOks, c, err, hk => by
    have hrest : k' = k → key ∉ routes.map Route.key :=
      fun h hm => hk h (List.mem_cons_of_mem _ hm)
    simp only [updateRouteStatuses]
    split
    · rw [updateRouteStatuses_get_of_not_mem routes _ _ _ hrest]
      exact r.updateRouteStatus_get_of_ne k ‹_› fun h he =>
        hk h (he ▸ List.mem_cons_self route.key _)
    · exact updateRouteStatuses_get_of_not_mem routes _ _ _ hrest

end Loop

/-- `syncAndUpdateStatus` keeps the objects. -/
theorem syncAndUpdateStatus_sameObjects (c : Cluster) (syncer : PingoraRouteSyncer)
    (env : ReconcileEnv) (now : Nat) :
    SameObjects c (r.syncAndUpdateStatus k c syncer env now).cluster := by
  unfold syncAndUpdateStatus
  rcases syncer.syncAllRoutes c env.sync with ⟨t, push, o⟩
  rcases o with ⟨result, _ | sr, syncErr⟩ | msg
  exacts [.refl c, r.updateRouteStatuses_sameObjects k _ _ _ _ _ _ _, .refl c]

/-- `syncAndUpdateStatus` writes only routes relevant to the syncer's class,
and no Gateway. -/
theorem syncAndUpdateStatus_keepsForeign (c : Cluster) {syncer : PingoraRouteSyncer}
    (env : ReconcileEnv) (now : Nat) :
    KeepsForeign syncer.gatewayClassName c (r.syncAndUpdateStatus k c syncer env now).cluster := by
  unfold syncAndUpdateStatus
  rcases hs : syncer.syncAllRoutes c env.sync with ⟨t, push, o⟩
  rcases o with ⟨result, _ | sr, syncErr⟩ | msg
  · exact .refl c
  swap
  · exact .refl c
  have hsr := syncer.syncAllRoutes_snapshot c env.sync (by rw [hs]) k
  refine ⟨fun k' key R hR hrel => ?_, fun key g hg _ => ?_⟩
  · refine (r.updateRouteStatuses_get_of_not_mem k _ _ _ _ _ _ _ fun hk hm => ?_).trans hR
    subst hk
    obtain ⟨R', hR', rfl⟩ := List.mem_map.mp hm
    rw [hsr, List.mem_filter] at hR'
    obtain rfl : R' = R := Option.some.inj ((Store.get_of_mem hR'.1).symm.trans hR)
    exact absurd hR'.2 (by simp [hrel])
  · rw [(r.updateRouteStatuses_frame k _ _ _ _ _ _ _).gateways]
    exact hg

end RouteReconciler

namespace GatewayReconciler

variable (r : GatewayReconciler) {c c' : Cluster} {env : GatewayEnv} {now : Nat} {key : ObjectKey}
  {result : Result} {err : Option String}

/-- A Gateway reconcile writes at most the status of the Gateway it reconciles,
and only when that Gateway is of its class. -/
theorem reconcile_eq_of_class (hr : r.reconcile c env now key = (c', result, err)) :
    c' = c ∨ ∃ fresh status, c.gateways.get key = some fresh ∧
      fresh.gatewayClassName = r.gatewayClassName ∧
      c' = { c with gateways := c.gateways.put { fresh with status } } := by
  rcases r.reconcile_eq hr with h | ⟨fresh, status, hf, h⟩
  · exact .inl h
  by_cases hc : fresh.gatewayClassName = r.gatewayClassName
  · exact .inr ⟨fresh, status, hf, hc, h⟩
  · unfold reconcile at hr
    cases he : env.getErr <;>
      simp only [he, hf, bne_iff_ne, ne_eq, hc, not_false_eq_true, if_true, Prod.mk.injEq] at hr
    exacts [.inl hr.1.symm, .inl hr.1.symm]

/-- A Gateway reconcile keeps the objects. -/
theorem reconcile_sameObjects (hr : r.reconcile c env now key = (c', result, err)) :
    SameObjects c c' := by
  rcases r.reconcile_eq hr with rfl | ⟨fresh, status, hf, rfl⟩
  exacts [.refl _, .putGatewayStatus hf status]

/-- A Gateway reconcile writes no route and no Gateway of another class. -/
theorem reconcile_keepsForeign (hr : r.reconcile c env now key = (c', result, err)) :
    KeepsForeign r.gatewayClassName c c' := by
  rcases r.reconcile_eq_of_class hr with rfl | ⟨fresh, status, hf, hc, rfl⟩
  · exact .refl _
  refine ⟨fun k key' R hR _ => by rwa [Cluster.routes_setGateways], fun key' g hg hg' => ?_⟩
  have hne : ({ fresh with status } : Gateway).key ≠ key' := by
    rintro rfl
    obtain rfl : fresh = g := Option.some.inj (((Store.mem_of_get hf).2 ▸ hf).symm.trans hg)
    exact hg' hc
  exact (Store.get_put_ne _ _ hne).trans hg

end GatewayReconciler

namespace System

variable (cfg : ControllerConfig) (s : System) (env : EditEnv)

@[simp] theorem cluster_withCluster (c : Cluster) : (s.withCluster c).cluster = c := rfl

@[simp] theorem syncer_withCluster (c : Cluster) : (s.withCluster c).syncer = s.syncer := rfl

@[simp] theorem syncer_afterSync (out : ReconcileOutcome) : (s.afterSync out).syncer = out.syncer :=
  (s.afterSync_fields out).2.1

@[simp] theorem proxy_afterSync (out : ReconcileOutcome) :
    (s.afterSync out).proxy = (out.push.map s.proxy.receive).getD s.proxy :=
  (s.afterSync_fields out).2.2.1

@[simp] theorem clock_setQueue (k : RouteKind) (q : List ObjectKey) :
    (s.setQueue k q).clock = s.clock := by
  cases k <;> rfl

@[simp] theorem cluster_routeEvent (k : RouteKind) (ev : WatchEvent (Route k.Rule)) :
    (s.routeEvent k ev).cluster = s.cluster :=
  (s.enqueued_routeEvent k ev).cluster

@[simp] theorem syncer_routeEvent (k : RouteKind) (ev : WatchEvent (Route k.Rule)) :
    (s.routeEvent k ev).syncer = s.syncer :=
  (s.enqueued_routeEvent k ev).syncer

@[simp] theorem cluster_gatewayEvent (ev : WatchEvent Gateway) :
    (s.gatewayEvent cfg env ev).cluster = s.cluster :=
  (s.enqueued_gatewayEvent cfg env ev).cluster

@[simp] theorem syncer_gatewayEvent (ev : WatchEvent Gateway) :
    (s.gatewayEvent cfg env ev).syncer = s.syncer :=
  (s.enqueued_gatewayEvent cfg env ev).syncer

@[simp] theorem cluster_pingoraConfigEvent (ev : WatchEvent PingoraConfig) :
    (s.pingoraConfigEvent cfg env ev).cluster = s.cluster :=
  (s.enqueued_pingoraConfigEvent cfg env ev).cluster

@[simp] theorem syncer_pingoraConfigEvent (ev : WatchEvent PingoraConfig) :
    (s.pingoraConfigEvent cfg env ev).syncer = s.syncer :=
  (s.enqueued_pingoraConfigEvent cfg env ev).syncer

@[simp] theorem cluster_secretEvent (ev : WatchEvent Secret) :
    (s.secretEvent cfg env ev).cluster = s.cluster :=
  (s.enqueued_secretEvent cfg env ev).cluster

@[simp] theorem syncer_secretEvent (ev : WatchEvent Secret) :
    (s.secretEvent cfg env ev).syncer = s.syncer :=
  (s.enqueued_secretEvent cfg env ev).syncer

@[simp] theorem cluster_gatewayClassEvent (ev : WatchEvent GatewayClass) :
    (s.gatewayClassEvent cfg env ev).cluster = s.cluster :=
  (s.enqueued_gatewayClassEvent cfg env ev).cluster

@[simp] theorem syncer_gatewayClassEvent (ev : WatchEvent GatewayClass) :
    (s.gatewayClassEvent cfg env ev).syncer = s.syncer :=
  (s.enqueued_gatewayClassEvent cfg env ev).syncer

/-- A change leaves the syncer as it was. -/
theorem syncer_applyEdit (e : Edit) : (s.applyEdit cfg e env).syncer = s.syncer := by
  cases e <;> simp only [applyEdit] <;> (try split) <;> simp

/-- A change leaves the proxy alone. -/
theorem proxy_applyEdit (e : Edit) : (s.applyEdit cfg e env).proxy = s.proxy := by
  cases e <;> simp only [applyEdit] <;> (try split) <;>
    first
    | rfl
    | exact (enqueued_routeEvent _ _ _).proxy
    | exact (enqueued_gatewayEvent _ _ _ _).proxy
    | exact (enqueued_pingoraConfigEvent _ _ _ _).proxy
    | exact (enqueued_secretEvent _ _ _ _).proxy

/-- The objects a change leaves depend on the objects before it only up to
statuses. -/
theorem sameObjects_applyEdit {s t : System} (h : SameObjects s.cluster t.cluster) :
    ∀ e : Edit, SameObjects (s.applyEdit cfg e env).cluster (t.applyEdit cfg e env).cluster
  | .putRoute k route => by
    have hold := Store.get_map_eq (fun r => (Route.key_eraseStatus r).symm) (h.routes k) route.key
    simp only [applyEdit, cluster_routeEvent, cluster_withCluster]
    exact h.setRoutes (Store.map_put_congr Route.key_eraseStatus (h.routes k)
      (eraseStatus_storedRoute hold route))
  | .deleteRoute k key => by
    have hold := Store.get_map_eq (fun r => (Route.key_eraseStatus r).symm) (h.routes k) key
    simp only [applyEdit]
    cases hs : (s.cluster.routes k).get key <;> cases ht : (t.cluster.routes k).get key <;>
      simp only [hs, ht, Option.map, reduceCtorEq] at hold
    · exact h
    · simp only [cluster_routeEvent, cluster_withCluster]
      exact h.setRoutes (Store.map_erase_congr Route.key_eraseStatus (h.routes k) key)
  | .putGateway gateway => by
    have hold := Store.get_map_eq (fun g => (Gateway.key_eraseStatus g).symm) h.gateways gateway.key
    simp only [applyEdit, cluster_gatewayEvent, cluster_withCluster]
    exact { h with
      gateways := Store.map_put_congr Gateway.key_eraseStatus h.gateways
        (eraseStatus_storedGateway hold gateway) }
  | .deleteGateway key => by
    have hold := Store.get_map_eq (fun g => (Gateway.key_eraseStatus g).symm) h.gateways key
    simp only [applyEdit]
    cases hs : s.cluster.gateways.get key <;> cases ht : t.cluster.gateways.get key <;>
      simp only [hs, ht, Option.map, reduceCtorEq] at hold
    · exact h
    · simp only [cluster_gatewayEvent, cluster_withCluster]
      exact { h with gateways := Store.map_erase_congr Gateway.key_eraseStatus h.gateways key }
  | .putGatewayClass gatewayClass => by
    simp only [applyEdit, cluster_gatewayClassEvent, cluster_withCluster, h.gatewayClasses]
    exact { h with gatewayClasses := rfl }
  | .deleteGatewayClass name => by
    simp only [applyEdit, Cluster.getGatewayClass, h.gatewayClasses]
    cases s.cluster.gatewayClasses.get ⟨"", name⟩ with
    | none => exact h
    | some old =>
      simp only [cluster_gatewayClassEvent, cluster_withCluster]
      exact { h with gatewayClasses := rfl }
  | .putPingoraConfig config => by
    simp only [applyEdit, cluster_pingoraConfigEvent, cluster_withCluster, h.pingoraConfigs]
    exact { h with pingoraConfigs := rfl }
  | .deletePingoraConfig name => by
    simp only [applyEdit, Cluster.getPingoraConfig, h.pingoraConfigs]
    cases s.cluster.pingoraConfigs.get ⟨"", name⟩ with
    | none => exact h
    | some old =>
      simp only [cluster_pingoraConfigEvent, cluster_withCluster]
      exact { h with pingoraConfigs := rfl }
  | .putSecret secret => by
    simp only [applyEdit, cluster_secretEvent, cluster_withCluster]
    exact { h with secrets := congrArg (·.put secret) h.secrets }
  | .deleteSecret key => by
    simp only [applyEdit, h.secrets]
    cases s.cluster.secrets.get key with
    | none => exact h
    | some old =>
      simp only [cluster_secretEvent, cluster_withCluster]
      exact { h with secrets := rfl }
  | .putNamespace ns => { h with namespaces := congrArg (·.put ns) h.namespaces }
  | .deleteNamespace name =>
    { h with namespaces := congrArg (·.erase ⟨"", name⟩) h.namespaces }

/-- What a step other than a change does to the cluster: nothing, a route
reconciler's `syncAndUpdateStatus`, or a Gateway reconcile. -/
theorem cluster_step_of_not_edit {a : Action} (ha : a.isEdit = false) :
    (s.step cfg a).cluster = s.cluster ∨
    (∃ k env, (s.step cfg a).cluster =
      (cfg.routeReconciler.syncAndUpdateStatus k s.cluster s.syncer env s.clock).cluster) ∨
    (∃ env key result err,
      cfg.gatewayReconciler.reconcile s.cluster env s.clock key =
        ((s.step cfg a).cluster, result, err)) := by
  cases a with
  | edit e _ => cases ha
  | tick => exact .inl rfl
  | start k env =>
    simp only [step]
    rcases s.start_cases cfg k env with h | ⟨-, h⟩ | h <;> rw [h]
    · exact .inl rfl
    · exact .inl rfl
    · exact .inr (.inl ⟨k, env, by simp⟩)
  | reconcileRoute k env =>
    simp only [step, reconcileRoute]
    split
    · exact .inl rfl
    rename_i key rest _
    split
    · exact .inl (by simp)
    rcases cfg.routeReconciler.reconcile_cases k s.cluster s.syncer env s.clock key with
      ⟨_, -, h⟩ | ⟨_, -, -, h⟩ | h
    · exact .inl (by split <;> simp [h])
    · exact .inl (by split <;> simp [h])
    · exact .inr (.inl ⟨k, env, by split <;> simp [h]⟩)
  | reconcileGateway env =>
    simp only [step, reconcileGateway]
    split
    · exact .inl rfl
    rename_i key rest _
    rcases hr : cfg.gatewayReconciler.reconcile s.cluster env s.clock key with ⟨c, result, err⟩
    refine .inr (.inr ⟨env, key, result, err, ?_⟩)
    simp only [hr]
    split <;> split <;> rfl

/-- A step other than a change keeps the objects. -/
theorem sameObjects_step {a : Action} (ha : a.isEdit = false) :
    SameObjects s.cluster (s.step cfg a).cluster := by
  rcases s.cluster_step_of_not_edit cfg ha with
    h | ⟨k, env, h⟩ | ⟨env, key, result, err, hr⟩
  · rw [h]
    exact .refl _
  · rw [h]
    exact cfg.routeReconciler.syncAndUpdateStatus_sameObjects k _ _ _ _
  · exact cfg.gatewayReconciler.reconcile_sameObjects hr

/-- A step other than a change, with the syncer of the configured class, keeps
the objects the controller does not own. -/
theorem keepsForeign_step {a : Action} (ha : a.isEdit = false)
    (hsyn : s.syncer.gatewayClassName = cfg.gatewayClassName) :
    KeepsForeign cfg.gatewayClassName s.cluster (s.step cfg a).cluster := by
  rcases s.cluster_step_of_not_edit cfg ha with
    h | ⟨k, env, h⟩ | ⟨env, key, result, err, hr⟩
  · rw [h]
    exact .refl _
  · rw [h, ← hsyn]
    exact cfg.routeReconciler.syncAndUpdateStatus_keepsForeign k _ _ _
  · exact cfg.gatewayReconciler.reconcile_keepsForeign hr

/-- What a step does to the syncer and the proxy: nothing, a restart with a
new syncer, or what one `syncAndUpdateStatus` of a route reconciler does. -/
theorem syncer_proxy_step (a : Action) :
    ((s.step cfg a).syncer = s.syncer ∧ (s.step cfg a).proxy = s.proxy) ∨
    ((s.step cfg a).syncer = cfg.newSyncer ∧ (s.step cfg a).proxy = s.proxy) ∨
    ∃ k env, (s.step cfg a).syncer =
        (cfg.routeReconciler.syncAndUpdateStatus k s.cluster s.syncer env s.clock).syncer ∧
      (s.step cfg a).proxy = ((cfg.routeReconciler.syncAndUpdateStatus k s.cluster s.syncer env
        s.clock).push.map s.proxy.receive).getD s.proxy := by
  cases a with
  | edit e env => exact .inl ⟨s.syncer_applyEdit cfg env e, s.proxy_applyEdit cfg env e⟩
  | tick => exact .inl ⟨rfl, rfl⟩
  | start k env =>
    simp only [step]
    rcases s.start_cases cfg k env with h | ⟨-, h⟩ | h <;> rw [h]
    · exact .inl ⟨rfl, rfl⟩
    · exact .inr (.inl ⟨rfl, rfl⟩)
    · exact .inr (.inr ⟨k, env, by simp, by simp⟩)
  | reconcileRoute k env =>
    simp only [step, reconcileRoute]
    split
    · exact .inl ⟨rfl, rfl⟩
    rename_i key rest _
    split
    · exact .inl ⟨by simp, by simp⟩
    rcases cfg.routeReconciler.reconcile_cases k s.cluster s.syncer env s.clock key with
      ⟨_, -, h⟩ | ⟨_, -, -, h⟩ | h
    · exact .inl (by split <;> simp [h])
    · exact .inl (by split <;> simp [h])
    · exact .inr (.inr ⟨k, env, by split <;> simp [h]⟩)
  | reconcileGateway env =>
    simp only [step, reconcileGateway]
    split
    · exact .inl ⟨rfl, rfl⟩
    · exact .inl (by split <;> split <;> exact ⟨rfl, rfl⟩)

/-- No step changes what the controller's syncer was built with. -/
theorem statics_step (h : s.syncer.statics = cfg.newSyncer.statics) (a : Action) :
    (s.step cfg a).syncer.statics = cfg.newSyncer.statics := by
  rcases s.syncer_proxy_step cfg a with ⟨hs, -⟩ | ⟨hs, -⟩ | ⟨k, env, hs, -⟩ <;> rw [hs]
  · exact h
  · simpa [(cfg.routeReconciler.syncAndUpdateStatus_fields k _ _ _ _).2.1] using h

end System

/-- Every state a controller reaches holds the syncer it was configured with,
up to its connection. -/
theorem Reachable.statics {cfg : ControllerConfig} {s : System} (h : Reachable cfg s) :
    s.syncer.statics = cfg.newSyncer.statics := by
  induction h with
  | init => rfl
  | step a _ ih => exact System.statics_step _ _ ih a

section Runs

variable (cfg : ControllerConfig)

/-- Runs from states with the same objects, one making only the other's
changes, end with the same objects. -/
theorem sameObjects_run_filter : ∀ (acts : List Action) {s t : System},
    SameObjects s.cluster t.cluster →
    SameObjects (s.run cfg (acts.filter Action.isEdit)).cluster (t.run cfg acts).cluster
  | [], _, _, h => h
  | a :: acts, s, t, h => by
    cases ha : a.isEdit
    · rw [List.filter_cons_of_neg (by simp [ha])]
      exact sameObjects_run_filter acts (h.trans (t.sameObjects_step cfg ha))
    · obtain ⟨e, env, rfl⟩ : ∃ e env, a = .edit e env := by
        cases a <;> first | exact ⟨_, _, rfl⟩ | cases ha
      rw [List.filter_cons_of_pos ha]
      exact sameObjects_run_filter acts (System.sameObjects_applyEdit cfg env h e)

/-- Whatever the controller does between the changes made outside it, the
cluster holds the objects those changes alone make, in the same order, up to
route and Gateway statuses. -/
theorem run_keeps_objects_of_edits (s : System) (acts : List Action) :
    SameObjects (s.run cfg (acts.filter Action.isEdit)).cluster (s.run cfg acts).cluster :=
  sameObjects_run_filter cfg acts (.refl _)

/-- A run of the controller's own steps keeps the objects and the objects it
does not own. -/
theorem keepsForeign_run : ∀ (acts : List Action) {s : System},
    s.syncer.statics = cfg.newSyncer.statics → (∀ a ∈ acts, a.isEdit = false) →
    SameObjects s.cluster (s.run cfg acts).cluster ∧
      KeepsForeign cfg.gatewayClassName s.cluster (s.run cfg acts).cluster
  | [], s, _, _ => ⟨.refl _, .refl _⟩
  | a :: acts, s, hst, hacts => by
    have ha := hacts a (List.mem_cons_self _ _)
    obtain ⟨ho, hk⟩ := keepsForeign_run acts (s.statics_step cfg hst a)
      fun b hb => hacts b (List.mem_cons_of_mem _ hb)
    have ho₀ := s.sameObjects_step cfg ha
    exact ⟨ho₀.trans ho, (s.keepsForeign_step cfg ha (congrArg (·.2.1) hst)).trans ho₀ hk⟩

/-- From any state it reaches, a run of the controller's reconciles leaves every
route that no Gateway of its class accepts, and every Gateway of another class,
exactly as it was. -/
theorem reconciles_keep_foreign_objects {s : System} (hs : Reachable cfg s) (acts : List Action)
    (hacts : ∀ a ∈ acts, a.isEdit = false) :
    KeepsForeign cfg.gatewayClassName s.cluster (s.run cfg acts).cluster :=
  (keepsForeign_run cfg acts hs.statics hacts).2

end Runs

/-- A route attached only to `other`, a Gateway of another class. -/
def foreignRoute : HTTPRoute :=
  { attachedRoute with name := "r2", parentRefs := [gatewayRef "other"] }

/-- `attachedCluster` with `other`, a Gateway of another class, and
`foreignRoute`. -/
def foreignCluster : Cluster :=
  defaultCluster ⟨[listenerGateway "gw" "pingora" none, listenerGateway "other" "other" none],
    by decide⟩ ⟨[attachedRoute, foreignRoute], by decide⟩

/-- Both Gateway reconciles, both startup syncs and both route reconciles. -/
def foreignRunActions : List Action :=
  [.reconcileGateway okGatewayEnv, .reconcileGateway okGatewayEnv, .start .http okReconcileEnv,
    .start .grpc okReconcileEnv, .reconcileRoute .http okReconcileEnv,
    .reconcileRoute .http okReconcileEnv]

/-- On `foreignCluster`, where `foreignRoute` is not relevant and `other` is of
another class, the controller's run keeps both as they were. -/
theorem foreign_run_keeps_foreign_objects :
    Reachable defaultControllerConfig
      (System.init defaultControllerConfig foreignCluster ⟨[], [], 0⟩) ∧
    (∀ a ∈ foreignRunActions, a.isEdit = false) ∧
    isRelevantRoute foreignCluster defaultControllerConfig.gatewayClassName
      RouteKind.http.kindName foreignRoute = false ∧
    (listenerGateway "other" "other" none).gatewayClassName ≠
      defaultControllerConfig.gatewayClassName ∧
    KeepsForeign defaultControllerConfig.gatewayClassName foreignCluster
      ((System.init defaultControllerConfig foreignCluster ⟨[], [], 0⟩).run
        defaultControllerConfig foreignRunActions).cluster :=
  ⟨.init _ _, by decide, by decide, by decide,
    reconciles_keep_foreign_objects _ (.init _ _) foreignRunActions (by decide)⟩

end PingoraGateway
