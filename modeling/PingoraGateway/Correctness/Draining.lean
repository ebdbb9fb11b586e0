import PingoraGateway.Correctness.Blocking
import PingoraGateway.Correctness.Connection
import PingoraGateway.Correctness.ConfigChanges

/-!
# The route queues drain

A route reconcile returns with no error and no requeue when every call it makes
succeeds, the class resolves to a PingoraConfig and no relevant route makes the
builder panic. The syncer of every reachable state holds an open connection
whenever it holds a client, so the push goes out; every route of the snapshot
is still in the cluster when its status is written. Such a reconcile takes its
request off the queue for good, and it changes statuses only, so the next one
finds the same conditions: after startup, one successful reconcile per queued
request empties the queue.

A builder panic has no such end. The manager does not recover a panic in the
`Start` runnable, so a startup sync that dials and lists successfully while a
relevant route makes the builder panic crashes the process, and the restart
starts over without the startup flags: the reconciler never completes its
startup.
-/

namespace PingoraGateway

/-- Whether the proxy accepted an update. -/
def UpdateReply.accepted : UpdateReply → Bool
  | .response success _ _ => success
  | .transportError _ => false

/-- A sync in which every call succeeds: the dial, both `List`s and the update. -/
def SyncEnv.succeeds (env : SyncEnv) : Bool :=
  env.dialOk && env.httpListOk && env.grpcListOk && env.reply.accepted

/-- A route reconcile in which every call succeeds: the sync, the status writes,
the route's `Get` and the Gateway `Get`s that check it is ours. -/
def ReconcileEnv.succeeds (env : ReconcileEnv) : Bool :=
  env.sync.succeeds && env.statusOk.all id && env.routeGetErr.isNone &&
    env.failedGatewayGets.isEmpty

/-- Whether the configured class resolves to a PingoraConfig in the cluster. -/
def classResolves (cfg : ControllerConfig) (c : Cluster) : Bool :=
  (cfg.newSyncer.configResolver.resolveFromGatewayClassName c cfg.gatewayClassName).toBool

/-- A syncer built as the controller builds it resolves the class when
`classResolves` holds. -/
theorem resolves_of_classResolves {cfg : ControllerConfig} {c : Cluster}
    {syncer : PingoraRouteSyncer} (hst : syncer.statics = cfg.newSyncer.statics)
    (hres : classResolves cfg c = true) :
    (syncer.configResolver.resolveFromGatewayClassName c syncer.gatewayClassName).toBool =
      true := by
  simp only [PingoraRouteSyncer.statics, ControllerConfig.newSyncer, newPingoraRouteSyncer,
    Prod.mk.injEq] at hst
  rw [hst.2.1, hst.2.2]
  exact hres

section Builds

variable {cfg : ControllerConfig} {c : Cluster}

/-- Without a builder panic, the relevant routes of each kind build. -/
theorem mapM_ok_of_buildPanics {k : RouteKind} (hb : buildPanics cfg c k = false) :
    ∃ ws, (relevantRoutes cfg c k).mapM (k.build ⟨cfg.clusterDomain⟩) = .ok ws := by
  refine exists_ok_of_toBool ?_
  simp only [buildPanics, List.any_eq_false, Bool.not_eq_true', Bool.not_eq_false] at hb
  rw [mapM_toBool, List.all_eq_true]
  exact hb

/-- A builder panic on a kind fails the build of that kind's relevant routes. -/
theorem mapM_error_of_buildPanics {k : RouteKind} (hb : buildPanics cfg c k = true) :
    ∃ e, (relevantRoutes cfg c k).mapM (k.build ⟨cfg.clusterDomain⟩) = .error e := by
  simp only [buildPanics, List.any_eq_true, Bool.not_eq_true'] at hb
  obtain ⟨R, hR, hbR⟩ := hb
  cases h : (relevantRoutes cfg c k).mapM (k.build ⟨cfg.clusterDomain⟩) with
  | error e => exact ⟨e, rfl⟩
  | ok ws =>
    obtain ⟨w, hw, -⟩ := exists_mem_of_mapM_ok h R hR
    rw [hw] at hbR
    cases hbR

end Builds

namespace PingoraRouteSyncer

variable {cfg : ControllerConfig} (s : PingoraRouteSyncer) (c : Cluster) (env : SyncEnv)

/-- A connection check that succeeds leaves a client. -/
theorem isConnected_of_ensureConnected {dialOk : Bool}
    (h : (s.ensureConnected c dialOk).2 = none) :
    (s.ensureConnected c dialOk).1.isConnected = true := by
  unfold ensureConnected at h ⊢
  split
  · assumption
  rcases s.connect_cases c dialOk with ⟨e, he⟩ | ⟨r, he⟩ <;>
    simp only [he, if_false] at h ⊢
  · simp_all
  · rfl

/-- The connection check succeeds when the class resolves and the dial
succeeds. -/
theorem ensureConnected_ok (hres : (s.configResolver.resolveFromGatewayClassName c
      s.gatewayClassName).toBool = true) : (s.ensureConnected c true).2 = none := by
  unfold ensureConnected
  split
  · rfl
  have hc : s.closeConn.configResolver = s.configResolver ∧
      s.closeConn.gatewayClassName = s.gatewayClassName := by
    unfold closeConn; split <;> exact ⟨rfl, rfl⟩
  cases hr : s.configResolver.resolveFromGatewayClassName c s.gatewayClassName with
  | error e => simp [hr, Except.toBool] at hres
  | ok r => simp [connect, hc.1, hc.2, hr]

/-- With both `List`s succeeding, the middle of `SyncAllRoutes` builds the
relevant routes of both kinds, and a builder failure is a panic. -/
theorem collectRoutes_of_lists (hst : s.statics = cfg.newSyncer.statics)
    (hl : env.httpListOk = true ∧ env.grpcListOk = true) :
    ∃ hb gb, s.collectRoutes c env = (do
      let wh ← ((relevantRoutes cfg c .http).mapM
        (RouteKind.http.build ⟨cfg.clusterDomain⟩)).mapError .panicked
      let wg ← ((relevantRoutes cfg c .grpc).mapM
        (RouteKind.grpc.build ⟨cfg.clusterDomain⟩)).mapError .panicked
      pure (wh, wg, ⟨relevantRoutes cfg c .http, relevantRoutes cfg c .grpc, hb, gb⟩)) := by
  simp only [statics, ControllerConfig.newSyncer, newPingoraRouteSyncer, Prod.mk.injEq] at hst
  unfold collectRoutes
  rcases h1 : s.getRelevantHTTPRoutes c env.httpListOk with _ | ⟨hr, hb⟩
  · simp [getRelevantHTTPRoutes, getRelevantRoutes, hl.1] at h1
  rcases h2 : s.getRelevantGRPCRoutes c env.grpcListOk with _ | ⟨gr, gb⟩
  · simp [getRelevantGRPCRoutes, getRelevantRoutes, hl.2] at h2
  obtain rfl : hr = relevantRoutes cfg c .http := by rw [getRelevantRoutes_fst h1, hst.2.1]; rfl
  obtain rfl : gr = relevantRoutes cfg c .grpc := by rw [getRelevantRoutes_fst h2, hst.2.1]; rfl
  refine ⟨hb, gb, ?_⟩
  rw [builder, hst.1, RouteKind.build_http, RouteKind.build_grpc]
  dsimp only
  cases (relevantRoutes cfg c .http).mapM (PingoraBuilder.buildHTTPRoute ⟨cfg.clusterDomain⟩) <;>
    cases (relevantRoutes cfg c .grpc).mapM (PingoraBuilder.buildGRPCRoute ⟨cfg.clusterDomain⟩) <;>
    rfl

/-- With both `List`s succeeding and no builder panic, the middle of
`SyncAllRoutes` builds both tables. -/
theorem collectRoutes_ok_of_builds (hst : s.statics = cfg.newSyncer.statics)
    (hl : env.httpListOk = true ∧ env.grpcListOk = true) (hp : syncPanics cfg c = false) :
    ∃ x, s.collectRoutes c env = .ok x := by
  simp only [syncPanics, Bool.or_eq_false_iff] at hp
  obtain ⟨wh, hwh⟩ := mapM_ok_of_buildPanics hp.1
  obtain ⟨wg, hwg⟩ := mapM_ok_of_buildPanics hp.2
  obtain ⟨hb, gb, hc⟩ := s.collectRoutes_of_lists c env hst hl
  rw [hc, hwh, hwg]
  exact ⟨_, rfl⟩

/-- With both `List`s succeeding and a builder panic, the middle of
`SyncAllRoutes` panics. -/
theorem collectRoutes_panics (hst : s.statics = cfg.newSyncer.statics)
    (hl : env.httpListOk = true ∧ env.grpcListOk = true) (hp : syncPanics cfg c = true) :
    ∃ e, s.collectRoutes c env = .error (.panicked e) := by
  obtain ⟨hb, gb, hc⟩ := s.collectRoutes_of_lists c env hst hl
  rw [hc]
  cases hbh : buildPanics cfg c .http with
  | false =>
    obtain ⟨wh, hwh⟩ := mapM_ok_of_buildPanics hbh
    obtain ⟨e, he⟩ := mapM_error_of_buildPanics (by simpa [syncPanics, hbh] using hp)
    rw [hwh, he]
    exact ⟨e, rfl⟩
  | true =>
    obtain ⟨e, he⟩ := mapM_error_of_buildPanics hbh
    rw [he]
    exact ⟨e, rfl⟩

/-- A `SyncAllRoutes` whose connection check and `List`s succeed panics while a
relevant route makes the builder panic. -/
theorem syncAllRoutes_panics (hst : s.statics = cfg.newSyncer.statics)
    (hres : (s.configResolver.resolveFromGatewayClassName c s.gatewayClassName).toBool = true)
    (hd : env.dialOk = true) (hl : env.httpListOk = true ∧ env.grpcListOk = true)
    (hp : syncPanics cfg c = true) : (s.syncAllRoutes c env).2.2.panics = true := by
  have hcon : (s.ensureConnected c env.dialOk).2 = none := hd ▸ s.ensureConnected_ok c hres
  obtain ⟨e, hc⟩ :=
    collectRoutes_panics _ c env ((statics_ensureConnected s c env.dialOk).trans hst) hl hp
  rcases s.syncBegin_cases c env with ⟨hb, -⟩ | ⟨-, o, ho, hb⟩ | ⟨-, _, _, _, ho, -⟩
  · simp [hcon] at hb
  · rw [hc] at ho
    cases ho
    simp only [syncAllRoutes, hb]
    rfl
  · rw [hc] at ho
    cases ho

/-- A `SyncAllRoutes` of a syncer that keeps the connection invariant, in
which every call succeeds, the class resolves and no relevant route makes the
builder panic, returns a snapshot with no delay and no error. -/
theorem syncAllRoutes_ok_of_succeeds (hinv : ConnInvariant s)
    (hst : s.statics = cfg.newSyncer.statics)
    (hres : (s.configResolver.resolveFromGatewayClassName c s.gatewayClassName).toBool = true)
    (hp : syncPanics cfg c = false) (henv : env.succeeds = true) :
    ∃ sr, (s.syncAllRoutes c env).2.2 = .returned ⟨0⟩ (some sr) none := by
  simp only [SyncEnv.succeeds, Bool.and_eq_true] at henv
  obtain ⟨⟨⟨hd, hhl⟩, hgl⟩, hacc⟩ := henv
  have hcon : (s.ensureConnected c env.dialOk).2 = none := hd ▸ s.ensureConnected_ok c hres
  have hst' := (statics_ensureConnected s c env.dialOk).trans hst
  obtain ⟨⟨h, g, sr⟩, hc⟩ := collectRoutes_ok_of_builds _ c env hst' ⟨hhl, hgl⟩ hp
  have hinv' := hinv.ensureConnected c env.dialOk
  obtain ⟨client, hcl⟩ := Option.isSome_iff_exists.mp
    ((hinv'.isConnected_eq.symm.trans (isConnected_of_ensureConnected s c hcon)))
  have hopen := hinv'.conn_open client hcl
  have hclient : (s.ensureConnected c env.dialOk).1.grpcClient = some client :=
    hinv'.client_eq_conn.trans hcl
  rcases s.syncBegin_cases c env with ⟨hb, -⟩ | ⟨-, o, ho, -⟩ | ⟨-, h', g', sr', ho, hb⟩
  · simp [hcon] at hb
  · rw [hc] at ho
    cases ho
  refine ⟨sr', ?_⟩
  simp only [syncAllRoutes, hb]
  obtain ⟨e, v, hr⟩ : ∃ e v, env.reply = .response true e v := by
    cases hrep : env.reply with
    | transportError _ => simp [hrep, UpdateReply.accepted] at hacc
    | response success e v =>
      simp only [hrep, UpdateReply.accepted] at hacc
      exact ⟨e, v, by rw [hacc]⟩
  simp [syncSend, hclient, hopen, hr]

end PingoraRouteSyncer

namespace RouteReconciler

variable (r : RouteReconciler) (k : RouteKind) {c c' : Cluster} {route : Route k.Rule}
  {info : RouteBindingInfo} {syncErr : Option String} {now : Nat} {putOk : Bool}

/-- A status write keeps every route key present. -/
theorem updateRouteStatus_get_isSome
    (h : r.updateRouteStatus k c route info syncErr now putOk = .ok c') {key : ObjectKey}
    (hkey : ((c.routes k).get key).isSome) : ((c'.routes k).get key).isSome := by
  by_cases hk : key = route.key
  · obtain ⟨fresh, hf, -, rfl⟩ :=
      r.updateRouteStatus_eq_ok k c c' route info syncErr now putOk h
    rw [Cluster.routes_setRoutes, Store.get_put_of_key _
      (by rw [key_withParentStatuses, (Store.mem_of_get hf).2, hk])]
    rfl
  · rwa [r.updateRouteStatus_get_ne k c c' route info syncErr now putOk h hk]

/-- The status loop over routes still in the cluster, with every write landing,
returns the error it was given. -/
theorem updateRouteStatuses_err (bindings : List (String × RouteBindingInfo))
    (syncErr : Option String) (now : Nat) :
    ∀ (routes : List (Route k.Rule)) (putOks : List Bool) (c : Cluster) (err : Option String),
      (∀ b ∈ putOks, b = true) → (∀ R ∈ routes, ((c.routes k).get R.key).isSome) →
      (r.updateRouteStatuses k bindings syncErr now routes putOks c err).2 = err
  | [], _, _, _, _, _ => rfl
  | route :: routes, putOks, c, err, hput, hget => by
    obtain ⟨fresh, hf⟩ := Option.isSome_iff_exists.mp (hget route (List.mem_cons_self _ _))
    have hhead : putOks.headD true = true := by
      cases putOks with
      | nil => rfl
      | cons b bs => exact hput b (List.mem_cons_self _ _)
    have hw : r.updateRouteStatus k c route ((bindings.lookup (routeId route)).getD ⟨[]⟩)
        syncErr now (putOks.headD true) = .ok (c.setRoutes k ((c.routes k).put
          (r.withParentStatuses k c fresh ((bindings.lookup (routeId route)).getD ⟨[]⟩)
            syncErr now))) := by
      simp only [updateRouteStatus, hf, hhead, if_true]
    simp only [updateRouteStatuses, hw]
    exact updateRouteStatuses_err bindings syncErr now routes _ _ _
      (fun b hb => hput b (List.mem_of_mem_tail hb))
      fun R hR => r.updateRouteStatus_get_isSome k hw (hget R (List.mem_cons_of_mem _ hR))

end RouteReconciler

section Reconcile

variable {cfg : ControllerConfig} {c : Cluster} {syncer : PingoraRouteSyncer} {env : ReconcileEnv}
  (hinv : syncer.ConnInvariant) (hst : syncer.statics = cfg.newSyncer.statics)
  (hres : classResolves cfg c = true)
  (hp : syncPanics cfg c = false) (henv : env.succeeds = true)
include hinv hst hres hp henv

/-- A route reconcile in which every call succeeds, on a cluster whose class
resolves and where no relevant route makes the builder panic, is not
requeued. -/
theorem reconcile_not_requeued (k : RouteKind) (now : Nat) (key : ObjectKey) :
    requeues (cfg.routeReconciler.reconcile k c syncer env now key).result
      (cfg.routeReconciler.reconcile k c syncer env now key).err = false := by
  simp only [ReconcileEnv.succeeds, Bool.and_eq_true, List.all_eq_true, id_eq] at henv
  obtain ⟨sr, hsr⟩ := syncer.syncAllRoutes_ok_of_succeeds c env.sync hinv hst
    (resolves_of_classResolves hst hres) hp henv.1.1.1
  rcases cfg.routeReconciler.reconcile_cases k c syncer env now key with
    ⟨e, he, -⟩ | ⟨_, -, -, h⟩ | h
  · rw [he] at henv
    cases henv.1.2
  · rw [h]
    rfl
  rw [h]
  have hsnap := syncer.syncAllRoutes_snapshot c env.sync hsr k
  have herr := cfg.routeReconciler.updateRouteStatuses_err k (sr.bindings k) none now
    (sr.routes k) env.statusOk c none henv.1.1.2 fun R hR => by
      rw [hsnap] at hR
      rw [Store.get_of_mem (List.mem_of_mem_filter hR)]
      rfl
  unfold RouteReconciler.syncAndUpdateStatus
  rcases hs : syncer.syncAllRoutes c env.sync with ⟨t, push, o⟩
  rw [hs] at hsr
  subst hsr
  simp only [herr, finishSync, Option.isSome_none, Bool.false_and, if_false, requeues,
    Bool.or_false]
  rfl

end Reconcile

namespace System

variable (cfg : ControllerConfig) (s : System)

/-- A step keeps the connection invariant of the syncer. -/
theorem connInvariant_step (h : s.syncer.ConnInvariant) (a : Action) :
    (s.step cfg a).syncer.ConnInvariant := by
  rcases s.syncer_proxy_step cfg a with ⟨hs, -⟩ | ⟨hs, -⟩ | ⟨k, env, hs, -⟩ <;> rw [hs]
  · exact h
  · exact PingoraRouteSyncer.ConnInvariant.init _ _ _
  · exact (cfg.routeReconciler.syncAndUpdateStatus_fields k _ _ _ _).2.1 ▸ h.syncAllRoutes _ _

@[simp] theorem startupComplete_afterSync (out : ReconcileOutcome) (k : RouteKind) :
    (s.afterSync out).startupComplete k = s.startupComplete k := by
  unfold afterSync
  cases out.push <;> cases k <;> rfl

@[simp] theorem startupComplete_restart (k : RouteKind) :
    (s.restart cfg).startupComplete k = false := by
  cases k <;> rfl

theorem startupComplete_completeStartup_ne {k k' : RouteKind} (h : k' ≠ k) :
    (s.completeStartup k').startupComplete k = s.startupComplete k := by
  cases k <;> cases k' <;> first | rfl | exact absurd rfl h

/-- Reconciles set no startup flag. -/
theorem startupComplete_reconcileRoute (k k' : RouteKind) (env : ReconcileEnv) :
    (s.reconcileRoute cfg k' env).startupComplete k = s.startupComplete k := by
  unfold reconcileRoute
  split
  · rfl
  dsimp only
  split
  · simp [enqueueRoutes]
  · split <;> simp [enqueueRoutes]

theorem startupComplete_reconcileGateway (k : RouteKind) (env : GatewayEnv) :
    (s.reconcileGateway cfg env).startupComplete k = s.startupComplete k := by
  unfold reconcileGateway
  split
  · rfl
  split
  dsimp only
  split <;> split <;> cases k <;> rfl

/-- A step other than a change keeps whether the class resolves. -/
theorem classResolves_step_of_not_edit {a : Action} (ha : a.isEdit = false) :
    classResolves cfg (s.step cfg a).cluster = classResolves cfg s.cluster := by
  have ho := s.sameObjects_step cfg ha
  rw [classResolves, PingoraResolver.resolveFromGatewayClassName_congr _ ho.gatewayClasses
    ho.secrets fun name _ => by simp only [Cluster.getPingoraConfig, ho.pingoraConfigs]]
  rfl

end System

/-- The syncer of every reachable state keeps the connection invariant. -/
theorem Reachable.connInvariant {cfg : ControllerConfig} {s : System} (h : Reachable cfg s) :
    s.syncer.ConnInvariant := by
  induction h with
  | init => exact PingoraRouteSyncer.ConnInvariant.init _ _ _
  | step a _ ih => exact System.connInvariant_step _ _ ih a

theorem Reachable.run {cfg : ControllerConfig} :
    ∀ (acts : List Action) {s : System}, Reachable cfg s → Reachable cfg (s.run cfg acts)
  | [], _, h => h
  | a :: acts, _, h => Reachable.run acts (.step a h)

section Drain

variable (cfg : ControllerConfig) {s : System} {k : RouteKind} {env : ReconcileEnv}

/-- A successful reconcile takes its request off the queue for good and keeps
the conditions for the next. -/
theorem reconcileRoute_drains (hs : Reachable cfg s) (hk : s.startupComplete k = true)
    (hres : classResolves cfg s.cluster = true) (hp : syncPanics cfg s.cluster = false)
    (henv : env.succeeds = true) :
    (s.step cfg (.reconcileRoute k env)).queue k = (s.queue k).tail ∧
      (s.step cfg (.reconcileRoute k env)).startupComplete k = true ∧
      classResolves cfg (s.step cfg (.reconcileRoute k env)).cluster = true ∧
      syncPanics cfg (s.step cfg (.reconcileRoute k env)).cluster = false := by
  have ho := s.sameObjects_step cfg (a := .reconcileRoute k env) rfl
  refine ⟨?_, ?_, ?_,
    (s.syncPanics_step_of_not_edit cfg (a := .reconcileRoute k env) rfl).trans hp⟩
  · simp only [System.step, System.reconcileRoute]
    split
    · rename_i hq
      rw [hq]
      rfl
    rename_i key rest hq
    simp only [System.startupComplete_setQueue, hk, Bool.not_true, if_false,
      System.cluster_setQueue, System.syncer_setQueue, System.clock_setQueue,
      reconcile_not_requeued hs.connInvariant hs.statics hres hp henv, Bool.false_eq_true,
      if_false, hq,
      System.queue_afterSync, System.queue_setQueue, List.tail_cons]
  · simp only [System.step, System.reconcileRoute]
    split
    · exact hk
    split
    · simp_all
    split <;> simp [System.enqueueRoutes, hk]
  · exact (s.classResolves_step_of_not_edit cfg (a := .reconcileRoute k env) rfl).trans hres

/-- A run of successful reconciles takes one request off the queue each and
keeps the conditions. -/
theorem reconcileRoute_run_drains :
    ∀ (envs : List ReconcileEnv) {s : System}, Reachable cfg s → s.startupComplete k = true →
      classResolves cfg s.cluster = true → syncPanics cfg s.cluster = false →
      (∀ env ∈ envs, env.succeeds = true) →
      (s.run cfg (envs.map (.reconcileRoute k))).queue k = (s.queue k).drop envs.length ∧
        (s.run cfg (envs.map (.reconcileRoute k))).startupComplete k = true ∧
        classResolves cfg (s.run cfg (envs.map (.reconcileRoute k))).cluster = true ∧
        syncPanics cfg (s.run cfg (envs.map (.reconcileRoute k))).cluster = false
  | [], _, _, hk, hres, hp, _ => ⟨rfl, hk, hres, hp⟩
  | env :: envs, s, hs, hk, hres, hp, henvs => by
    obtain ⟨hq, hk', hres', hp'⟩ :=
      reconcileRoute_drains cfg hs hk hres hp (henvs env (List.mem_cons_self _ _))
    obtain ⟨ih, hrest⟩ := reconcileRoute_run_drains envs (.step _ hs) hk' hres' hp'
      fun e he => henvs e (List.mem_cons_of_mem _ he)
    refine ⟨?_, hrest⟩
    rw [List.length_cons, ← List.drop_tail, ← hq]
    exact ih

/-- After startup, from any state the controller reaches whose class resolves
and where no relevant route makes the builder panic, each route reconcile in
which every call succeeds takes one request off its queue for good: as many
such reconciles as there are queued requests empty the queue. -/
theorem successful_reconciles_drain_queue (envs : List ReconcileEnv) {s : System}
    (hs : Reachable cfg s) (hk : s.startupComplete k = true)
    (hres : classResolves cfg s.cluster = true) (hp : syncPanics cfg s.cluster = false)
    (henvs : ∀ env ∈ envs, env.succeeds = true) :
    (s.run cfg (envs.map (.reconcileRoute k))).queue k = (s.queue k).drop envs.length :=
  (reconcileRoute_run_drains cfg envs hs hk hres hp henvs).1

end Drain

/-- Whether an action leaves the cluster as it is and, when it is a `Start` of
`k`, dials and lists successfully. -/
def Action.reachesBuilder (k : RouteKind) : Action → Bool
  | .edit _ _ => false
  | .start k' env =>
    k' != k || (env.sync.dialOk && env.sync.httpListOk && env.sync.grpcListOk)
  | _ => true

section CrashLoop

variable {cfg : ControllerConfig} {s : System} {k : RouteKind}
  (hs : Reachable cfg s) (hk : s.startupComplete k = false)
  (hres : classResolves cfg s.cluster = true) (hp : syncPanics cfg s.cluster = true)
include hs hk hres hp

/-- A `Start` that dials and lists successfully, while a relevant route makes
the builder panic, crashes the process. -/
theorem System.start_restarts {env : ReconcileEnv}
    (henv : env.sync.dialOk = true ∧ env.sync.httpListOk = true ∧ env.sync.grpcListOk = true) :
    s.start cfg k env = s.restart cfg := by
  unfold System.start
  rw [if_neg (by simp [hk]), if_pos (s.syncer.syncAllRoutes_panics s.cluster env.sync hs.statics
    (resolves_of_classResolves hs.statics hres) henv.1 henv.2 hp)]

/-- No step of the controller's own completes the startup of `k` while a
relevant route makes the builder panic, as long as its `Start`s reach the
builder. -/
theorem System.startupComplete_step_of_syncPanics {a : Action}
    (ha : a.reachesBuilder k = true) : (s.step cfg a).startupComplete k = false := by
  cases a with
  | edit e env => cases ha
  | tick => exact hk
  | start k' env =>
    show (s.start cfg k' env).startupComplete k = false
    by_cases hkk : k' = k
    · subst hkk
      simp only [Action.reachesBuilder, bne_self_eq_false, Bool.false_or, Bool.and_eq_true] at ha
      rw [System.start_restarts hs hk hres hp ⟨ha.1.1, ha.1.2, ha.2⟩]
      exact s.startupComplete_restart cfg k'
    rcases s.start_cases cfg k' env with h | ⟨-, h⟩ | h <;> rw [h]
    · exact hk
    · exact s.startupComplete_restart cfg k
    · rw [System.startupComplete_completeStartup_ne _ hkk, System.startupComplete_afterSync, hk]
  | reconcileRoute k' env => exact (s.startupComplete_reconcileRoute cfg k k' env).trans hk
  | reconcileGateway env => exact (s.startupComplete_reconcileGateway cfg k env).trans hk

end CrashLoop

/-- `attachedCluster` after both startup syncs. -/
def attachedStarted : System :=
  (System.init defaultControllerConfig attachedCluster ⟨[], [], 0⟩).run defaultControllerConfig
    [.start .http okReconcileEnv, .start .grpc okReconcileEnv]

/-- After both startup syncs on `attachedCluster`, one successful reconcile
empties the HTTPRoute queue, which held `ns/r1`. -/
theorem attached_queue_drains :
    Reachable defaultControllerConfig attachedStarted ∧
    attachedStarted.startupComplete .http = true ∧
    classResolves defaultControllerConfig attachedStarted.cluster = true ∧
    syncPanics defaultControllerConfig attachedStarted.cluster = false ∧
    okReconcileEnv.succeeds = true ∧ attachedStarted.queue .http = [⟨"ns", "r1"⟩] ∧
    (attachedStarted.run defaultControllerConfig
      ([okReconcileEnv].map (.reconcileRoute .http))).queue .http = [] :=
  ⟨Reachable.run _ (.init _ _), by decide, by decide, by decide, by decide, by decide,
    successful_reconciles_drain_queue defaultControllerConfig [okReconcileEnv]
      (Reachable.run _ (.init _ _)) (by decide) (by decide) (by decide) (by decide)⟩

end PingoraGateway
