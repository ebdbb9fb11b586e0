import PingoraGateway.Correctness.Ownership

/-!
# PingoraConfig changes reach the reconcilers

The configuration resolved for the controller's class reads the GatewayClass,
the Secrets and, of the PingoraConfigs, only the name and spec of the one the
class's `parametersRef` names. `MapConfigToRequests` fires on exactly that
PingoraConfig, and the API server moves its generation on a spec change, so the
route reconcilers' filter lets such a change through. No change to a
PingoraConfig that changes the resolved configuration is lost while the map
functions' reads succeed: it enqueues every Gateway of the class and every route
of either kind that a Gateway of the class accepts. A failed `List` or `Get` in
a map function maps the change to nothing.
-/

namespace PingoraGateway

namespace PingoraResolver

variable (r : PingoraResolver) {c c' : Cluster}

/-- `resolveConfig` reads the Secrets, and the PingoraConfig's name and spec. -/
theorem resolveConfig_congr (hsec : c'.secrets = c.secrets) {p p' : PingoraConfig}
    (hname : p'.name = p.name) (hspec : p'.spec = p.spec) :
    r.resolveConfig c' p' = r.resolveConfig c p := by
  simp only [resolveConfig, getSecret, Cluster.getSecret, hsec, hname, hspec]

/-- The resolution reads the classes, the Secrets and, of the PingoraConfigs,
the name and spec of the one the class references. -/
theorem resolveFromGatewayClassName_congr {gatewayClassName : String}
    (hcls : c'.gatewayClasses = c.gatewayClasses) (hsec : c'.secrets = c.secrets)
    (hcfg : ∀ name, referencesConfig c gatewayClassName name = true →
      (c'.getPingoraConfig name).map (fun p => (p.name, p.spec)) =
        (c.getPingoraConfig name).map (fun p => (p.name, p.spec))) :
    r.resolveFromGatewayClassName c' gatewayClassName =
      r.resolveFromGatewayClassName c gatewayClassName := by
  have hclass : c'.getGatewayClass gatewayClassName = c.getGatewayClass gatewayClassName := by
    simp only [Cluster.getGatewayClass, hcls]
  unfold resolveFromGatewayClassName
  rw [hclass]
  rcases hg : c.getGatewayClass gatewayClassName with _ | gatewayClass
  · rfl
  simp only [resolveFromGatewayClass]
  rcases href : gatewayClass.parametersRef with _ | ref
  · rfl
  simp only [referencedConfig]
  by_cases hgroup : (ref.group != pingoraParametersRefGroup) = true
  · simp only [hgroup, if_true]
  by_cases hkind : (ref.kind != pingoraParametersRefKind) = true
  · simp only [hgroup, hkind, if_true, if_false, Bool.false_eq_true]
  have hmap := hcfg ref.name (by simp_all [referencesConfig])
  rcases h' : c'.getPingoraConfig ref.name with _ | p' <;>
    rcases h : c.getPingoraConfig ref.name with _ | p <;>
    simp only [h, h', hgroup, hkind, if_false, Option.map, Option.some.injEq, Prod.mk.injEq,
      reduceCtorEq] at hmap ⊢
  exact r.resolveConfig_congr hsec hmap.1 hmap.2

end PingoraResolver

/-- With its `List` succeeding, `getAllGatewaysForClass` maps to every Gateway of
the class. -/
theorem GatewayReconciler.mem_getAllGatewaysForClass (r : GatewayReconciler) {c : Cluster}
    {readOk : MapRead → Bool} (hok : readOk .list = true) {g : Gateway}
    (hg : g ∈ c.gateways.items) (hcls : g.gatewayClassName = r.gatewayClassName) :
    g.key ∈ r.getAllGatewaysForClass c readOk := by
  simp only [GatewayReconciler.getAllGatewaysForClass, hok, Bool.not_true, Bool.false_eq_true,
    if_false]
  exact List.mem_map_of_mem _ (List.mem_filter.mpr ⟨hg, by simp [hcls]⟩)

/-- With every read succeeding, `getAllRelevantRoutes` maps to the relevant
routes. -/
theorem RouteReconciler.getAllRelevantRoutes_eq (r : RouteReconciler) (k : RouteKind)
    (c : Cluster) {readOk : MapRead → Bool} (hok : ∀ read, readOk read = true) :
    r.getAllRelevantRoutes k c readOk =
      ((c.routes k).items.filter (isRelevantRoute c r.gatewayClassName k.kindName)).map
        Route.key := by
  simp only [RouteReconciler.getAllRelevantRoutes, filterAcceptedRoutes, hok, Bool.not_true,
    Bool.false_eq_true, if_false, isRouteAcceptedByGateway_eq c _ _ _ fun _ => rfl]

/-- Every read of a change's handlers succeeds when none fails. -/
theorem EditEnv.readOk_of_nil {env : EditEnv} (h : env.failedReads = []) (watcher : Watcher)
    (side : EventSide) (read : MapRead) : env.readOk watcher side read = true := by
  simp [EditEnv.readOk, h]

namespace System

variable (cfg : ControllerConfig) (s : System) {env : EditEnv}

/-- A PingoraConfig event carrying the class's PingoraConfig, with a new
generation and no failed read, enqueues every Gateway of the class and every
relevant route. -/
theorem pingoraConfigEvent_enqueues (henv : env.failedReads = [])
    {ev : WatchEvent PingoraConfig} {p : PingoraConfig} {side : EventSide}
    (hp : ∀ (f : EventSide → PingoraConfig → List ObjectKey), ∀ key ∈ f side p,
      key ∈ ev.requests f)
    (href : referencesConfig s.cluster cfg.gatewayClassName p.name = true)
    (hgen : ev.generationChanged (·.generation) = true) :
    (∀ g ∈ s.cluster.gateways.items, g.gatewayClassName = cfg.gatewayClassName →
      g.key ∈ (s.pingoraConfigEvent cfg env ev).gatewayQueue) ∧
    ∀ k, ∀ R ∈ relevantRoutes cfg s.cluster k,
      R.key ∈ (s.pingoraConfigEvent cfg env ev).queue k := by
  have hok := EditEnv.readOk_of_nil henv
  have hmap : ∀ (w : Watcher) (g : Cluster → List ObjectKey),
      mapConfigToRequests s.cluster cfg.gatewayClassName (env.readOk w side) g p = g s.cluster := by
    simp [mapConfigToRequests, hok, href]
  have hroute : ∀ k, ∀ R ∈ relevantRoutes cfg s.cluster k, R.key ∈
      mapConfigToRequests s.cluster cfg.gatewayClassName (env.readOk (.route k) side)
        (cfg.routeReconciler.getAllRelevantRoutes k · (env.readOk (.route k) side)) p := by
    intro k R hR
    rw [hmap, RouteReconciler.getAllRelevantRoutes_eq _ _ _ (hok _ _)]
    exact List.mem_map_of_mem _ hR
  simp only [pingoraConfigEvent, hgen, if_true]
  refine ⟨fun g hg hcls => ?_, fun k R hR => ?_⟩
  · simp only [gatewayQueue_enqueueRoutes, gatewayQueue_enqueueGateways, mem_enqueue]
    refine .inr (hp _ _ ?_)
    rw [hmap]
    exact cfg.gatewayReconciler.mem_getAllGatewaysForClass (hok _ _ _) hg hcls
  · simp only [mem_queue_enqueueRoutes, cluster_enqueueRoutes, cluster_enqueueGateways,
      queue_enqueueGateways]
    cases k
    · exact .inl (.inr ⟨rfl, hp _ _ (hroute .http R hR)⟩)
    · exact .inr ⟨rfl, hp _ _ (hroute .grpc R hR)⟩

variable (r : PingoraResolver)

/-- A put of a PingoraConfig that changes the resolved configuration names the
class's PingoraConfig and moves its generation. -/
theorem putPingoraConfig_enqueues (p : PingoraConfig) (henv : env.failedReads = [])
    (h : r.resolveFromGatewayClassName (s.applyEdit cfg (.putPingoraConfig p) env).cluster
      cfg.gatewayClassName ≠ r.resolveFromGatewayClassName s.cluster cfg.gatewayClassName) :
    (∀ g ∈ (s.applyEdit cfg (.putPingoraConfig p) env).cluster.gateways.items,
      g.gatewayClassName = cfg.gatewayClassName →
        g.key ∈ (s.applyEdit cfg (.putPingoraConfig p) env).gatewayQueue) ∧
    ∀ k, ∀ R ∈ relevantRoutes cfg (s.applyEdit cfg (.putPingoraConfig p) env).cluster k,
      R.key ∈ (s.applyEdit cfg (.putPingoraConfig p) env).queue k := by
  simp only [applyEdit, cluster_pingoraConfigEvent, cluster_withCluster] at h ⊢
  generalize hold : s.cluster.pingoraConfigs.get p.key = old at h ⊢
  have hname : (storedPingoraConfig old p).name = p.name := by cases old <;> rfl
  have hput : ∀ name, name ≠ p.name →
      ({ s.cluster with pingoraConfigs := (s.cluster.pingoraConfigs.put
        (storedPingoraConfig old p)) } : Cluster).getPingoraConfig name =
        s.cluster.getPingoraConfig name := fun name hne =>
    Store.get_put_ne _ _ fun hk => hne (by
      have := congrArg ObjectKey.name hk
      simpa [PingoraConfig.key, hname] using this.symm)
  have href : referencesConfig s.cluster cfg.gatewayClassName p.name = true := by
    by_contra hn
    exact h (r.resolveFromGatewayClassName_congr rfl rfl fun name hr =>
      by rw [hput name fun he => hn (he ▸ hr)])
  have hgen : (WatchEvent.ofPut old (storedPingoraConfig old p)).generationChanged
      (·.generation) = true := by
    by_contra hg
    obtain ⟨o, rfl, hgo⟩ := WatchEvent.eq_of_generationChanged_ofPut (Bool.eq_false_iff.mpr hg)
    have hspec : o.spec = p.spec := by
      by_contra hs
      simp [storedPingoraConfig, hs] at hgo
    have ho : o.name = p.name := congrArg ObjectKey.name (Store.mem_of_get hold).2
    refine h (r.resolveFromGatewayClassName_congr rfl rfl fun name _ => ?_)
    by_cases hn : name = p.name
    · subst hn
      show ((s.cluster.pingoraConfigs.put _).get p.key).map _ =
        (s.cluster.pingoraConfigs.get p.key).map _
      have hk : (storedPingoraConfig (some o) p).key = p.key := congrArg (ObjectKey.mk "") hname
      rw [Store.get_put_of_key _ hk, hold]
      simp [storedPingoraConfig, ho, hspec]
    · rw [hput name hn]
  exact (s.withCluster { s.cluster with
    pingoraConfigs := s.cluster.pingoraConfigs.put (storedPingoraConfig old p) })
    |>.pingoraConfigEvent_enqueues cfg henv (fun f key hk => WatchEvent.mem_requests_ofPut hk)
      (hname ▸ href) hgen

/-- A delete of a PingoraConfig that changes the resolved configuration names the
class's PingoraConfig, and a delete passes the generation filter. -/
theorem deletePingoraConfig_enqueues (name : String) (henv : env.failedReads = [])
    (h : r.resolveFromGatewayClassName (s.applyEdit cfg (.deletePingoraConfig name) env).cluster
      cfg.gatewayClassName ≠ r.resolveFromGatewayClassName s.cluster cfg.gatewayClassName) :
    (∀ g ∈ (s.applyEdit cfg (.deletePingoraConfig name) env).cluster.gateways.items,
      g.gatewayClassName = cfg.gatewayClassName →
        g.key ∈ (s.applyEdit cfg (.deletePingoraConfig name) env).gatewayQueue) ∧
    ∀ k, ∀ R ∈ relevantRoutes cfg (s.applyEdit cfg (.deletePingoraConfig name) env).cluster k,
      R.key ∈ (s.applyEdit cfg (.deletePingoraConfig name) env).queue k := by
  simp only [applyEdit] at h ⊢
  rcases hold : s.cluster.getPingoraConfig name with _ | old
  · simp only [hold, ne_eq, not_true_eq_false] at h
  simp only [hold, cluster_pingoraConfigEvent, cluster_withCluster] at h ⊢
  have href : referencesConfig s.cluster cfg.gatewayClassName old.name = true := by
    by_contra hn
    refine h (r.resolveFromGatewayClassName_congr rfl rfl fun name' hr => ?_)
    have hne : old.key ≠ ⟨"", name'⟩ := fun hk => by
      rw [show old.name = name' from congrArg ObjectKey.name hk] at hn
      exact hn hr
    simp only [Cluster.getPingoraConfig, Store.get_erase_ne _ hne]
  exact (s.withCluster { s.cluster with pingoraConfigs := s.cluster.pingoraConfigs.erase old.key })
    |>.pingoraConfigEvent_enqueues cfg henv (fun _ _ hk => hk) href rfl

end System

/-- The class's PingoraConfig moved to another proxy address. -/
def movedPingoraConfig : PingoraConfig := ⟨"cfg", 0, ⟨"proxy-b:50051", none, none⟩⟩

/-- `attachedCluster` after the move, with its event delivered. -/
def movedSystem : System :=
  (System.init defaultControllerConfig attachedCluster ⟨[], [], 0⟩).applyEdit
    defaultControllerConfig (.putPingoraConfig movedPingoraConfig) okEditEnv

end PingoraGateway
