import PingoraGateway.Correctness.GatewayStatus

/-!
# Transition times of written statuses

Both status writers build every condition afresh and stamp it with the time of
the write. A condition's `lastTransitionTime` is therefore the time of the last
write, not of the last change of its status. A second write with the same
inputs gives back what the first wrote with every transition time moved to its
own time: nothing else changes, no condition's status included.
-/

namespace PingoraGateway

/-- A condition stamped with the transition time `t`. -/
def Condition.restamp (t : Nat) (cond : Condition) : Condition :=
  { cond with lastTransitionTime := t }

/-- A parent entry with each of its conditions stamped with `t`. -/
def RouteParentStatus.restamp (t : Nat) (e : RouteParentStatus) : RouteParentStatus :=
  { e with conditions := e.conditions.map (Condition.restamp t) }

/-- A Gateway status with each condition, the Gateway's and every listener's,
stamped with `t`. -/
def GatewayStatus.restamp (t : Nat) (status : GatewayStatus) : GatewayStatus :=
  { status with
    conditions := status.conditions.map (Condition.restamp t)
    listeners := status.listeners.map fun l =>
      { l with conditions := l.conditions.map (Condition.restamp t) } }

namespace RouteReconciler

variable (r : RouteReconciler) (c : Cluster) (acceptedMessage : String) {Rule : Type}
  (fresh : Route Rule) (info : RouteBindingInfo) (syncErr : Option String) (now : Nat)

/-- Every condition of the rebuilt parent entries carries the time of the write. -/
theorem parentStatuses_stamped : ∀ (refIdx : Nat) (refs : List ParentReference),
    ∀ e ∈ r.parentStatuses c acceptedMessage fresh info syncErr now refIdx refs,
      ∀ cond ∈ e.conditions, cond.lastTransitionTime = now
  | _, [] => by simp [parentStatuses]
  | refIdx, ref :: refs => by
    have ih := parentStatuses_stamped (refIdx + 1) refs
    intro e he
    simp only [parentStatuses] at he
    split at he
    · exact ih e he
    split at he
    · exact ih e he
    split at he
    · exact ih e he
    rcases List.mem_cons.mp he with rfl | he
    · simp only [routeParentStatus, List.mem_cons, List.not_mem_nil, or_false]
      rintro cond (rfl | rfl) <;> rfl
    · exact ih e he

/-- The parent-ref loop reads the cluster's Gateways and the fresh route's
namespace and generation only, and `now` only to stamp: run again at `t` on a
cluster with the same Gateways, it gives its entries restamped with `t`. -/
theorem parentStatuses_restamp {c' : Cluster} (hg : c'.gateways = c.gateways)
    (fresh' : Route Rule) (hns : fresh'.ns = fresh.ns) (hgen : fresh'.generation = fresh.generation)
    (t : Nat) : ∀ (refIdx : Nat) (refs : List ParentReference),
    r.parentStatuses c' acceptedMessage fresh' info syncErr t refIdx refs =
      (r.parentStatuses c acceptedMessage fresh info syncErr now refIdx refs).map
        (RouteParentStatus.restamp t)
  | _, [] => rfl
  | refIdx, ref :: refs => by
    have ih := parentStatuses_restamp hg fresh' hns hgen t (refIdx + 1) refs
    simp only [parentStatuses, Cluster.getGateway, hg, hns, hgen]
    split
    · exact ih
    split
    · exact ih
    split
    · exact ih
    rw [List.map_cons, ih]
    rfl

/-- What a write that lands leaves under the route's key: the fresh copy with
the rebuilt parents, the Gateways untouched. -/
theorem updateRouteStatus_get_written {k : RouteKind} {route : Route k.Rule} {putOk : Bool}
    {c' : Cluster} (h : r.updateRouteStatus k c route info syncErr now putOk = .ok c') :
    ∃ fresh, (c.routes k).get route.key = some fresh ∧
      (c'.routes k).get route.key = some (r.withParentStatuses k c fresh info syncErr now) ∧
      c'.gateways = c.gateways := by
  obtain ⟨fresh, hf, -, rfl⟩ := r.updateRouteStatus_eq_ok k c c' route info syncErr now putOk h
  refine ⟨fresh, hf, ?_, Cluster.gateways_setRoutes _ _ _⟩
  rw [Cluster.routes_setRoutes, ← (Store.mem_of_get hf).2, ← key_withParentStatuses,
    Store.get_put_self]

/-- A route status write stamps every condition of the route with its time. -/
theorem updateRouteStatus_stamps_now {k : RouteKind} {route : Route k.Rule} {putOk : Bool}
    {c' : Cluster} (h : r.updateRouteStatus k c route info syncErr now putOk = .ok c') :
    ∃ written, (c'.routes k).get route.key = some written ∧
      ∀ e ∈ written.parents, ∀ cond ∈ e.conditions, cond.lastTransitionTime = now := by
  obtain ⟨fresh, -, hw, -⟩ := r.updateRouteStatus_get_written c info syncErr now h
  exact ⟨_, hw, r.parentStatuses_stamped c _ fresh info syncErr now 0 fresh.parentRefs⟩

/-- A route status write on the cluster another one left, with the same
snapshot entry and sync error, gives the route the first write gave it with
every condition restamped. -/
theorem updateRouteStatus_restamps {k : RouteKind} {route : Route k.Rule}
    {putOk putOk' : Bool} {c₁ c₂ : Cluster} {t : Nat}
    (h₁ : r.updateRouteStatus k c route info syncErr now putOk = .ok c₁)
    (h₂ : r.updateRouteStatus k c₁ route info syncErr t putOk' = .ok c₂) :
    ∃ written, (c₁.routes k).get route.key = some written ∧
      (c₂.routes k).get route.key =
        some { written with parents := written.parents.map (RouteParentStatus.restamp t) } := by
  obtain ⟨fresh, -, hw, hg⟩ := r.updateRouteStatus_get_written c info syncErr now h₁
  obtain ⟨_, hw₁, hw₂, -⟩ := r.updateRouteStatus_get_written c₁ info syncErr t h₂
  obtain rfl := Option.some.inj (hw₁.symm.trans hw)
  refine ⟨_, hw, hw₂.trans (congrArg
    (fun parents => some { r.withParentStatuses k c fresh info syncErr now with parents }) ?_)⟩
  exact r.parentStatuses_restamp c _ fresh info syncErr now hg
    (r.withParentStatuses k c fresh info syncErr now) rfl rfl t 0 fresh.parentRefs

end RouteReconciler

/-- Every condition of a written Gateway status, the Gateway's and each
listener's, carries the time of the write. -/
theorem gatewayStatus_stamped (fresh : Gateway) (cfg : ResolvedPingoraConfig)
    (attachedRoutes : String → Int) (now : Nat) :
    (∀ cond ∈ (gatewayStatus fresh cfg attachedRoutes now).conditions,
      cond.lastTransitionTime = now) ∧
    ∀ l ∈ (gatewayStatus fresh cfg attachedRoutes now).listeners,
      ∀ cond ∈ l.conditions, cond.lastTransitionTime = now := by
  simp [gatewayStatus, or_imp, forall_and]

namespace GatewayReconciler

/-- A Gateway status write stamps every condition of the Gateway with its time. -/
theorem updateStatus_stamps_now {c c' : Cluster} {gateway : Gateway}
    {cfg : ResolvedPingoraConfig} {env : GatewayEnv} {now : Nat}
    (h : updateStatus c gateway cfg env now = .ok c') :
    ∃ written, c'.gateways.get gateway.key = some written ∧
      (∀ cond ∈ written.status.conditions, cond.lastTransitionTime = now) ∧
      ∀ l ∈ written.status.listeners, ∀ cond ∈ l.conditions,
        cond.lastTransitionTime = now := by
  obtain ⟨fresh, hf, rfl⟩ := updateStatus_eq_ok h
  refine ⟨{ fresh with status := (gatewayStatus fresh cfg
    (countAttachedRoutes c fresh env.httpListOk env.grpcListOk) now) }, ?_,
    gatewayStatus_stamped fresh cfg _ now⟩
  rw [← (Store.mem_of_get hf).2]
  exact Store.get_put_self _ _

/-- `gatewayStatus` reads the clock only to stamp. -/
theorem gatewayStatus_restamp (fresh : Gateway) (cfg : ResolvedPingoraConfig)
    (attachedRoutes : String → Int) (now t : Nat) :
    gatewayStatus fresh cfg attachedRoutes t =
      (gatewayStatus fresh cfg attachedRoutes now).restamp t := by
  simp [gatewayStatus, GatewayStatus.restamp, Condition.restamp, Function.comp_def]

/-- A Gateway status write on the cluster another one left, with the same
configuration and outcomes, gives the Gateway the status the first write gave it
with every condition restamped. -/
theorem updateStatus_restamps {c c₁ c₂ : Cluster} {gateway : Gateway}
    {cfg : ResolvedPingoraConfig} {env : GatewayEnv} {now t : Nat}
    (h₁ : updateStatus c gateway cfg env now = .ok c₁)
    (h₂ : updateStatus c₁ gateway cfg env t = .ok c₂) :
    ∃ written, c₁.gateways.get gateway.key = some written ∧
      c₂.gateways.get gateway.key =
        some { written with status := written.status.restamp t } := by
  obtain ⟨fresh, hf, rfl⟩ := updateStatus_eq_ok h₁
  have hkey : ∀ status, ({ fresh with status } : Gateway).key = gateway.key :=
    fun _ => (Store.mem_of_get hf).2
  obtain ⟨fresh', hf', rfl⟩ := updateStatus_eq_ok h₂
  rw [Store.get_put_of_key _ (hkey _)] at hf'
  obtain rfl := Option.some.inj hf'
  refine ⟨_, Store.get_put_of_key _ (hkey _), ?_⟩
  rw [Store.get_put_of_key _ (hkey _),
    countAttachedRoutes_putGatewayStatus c (c.gateways.put _) fresh,
    gatewayStatus_restamp _ _ _ now]
  rfl

end GatewayReconciler

/-- The snapshot entry of `attachedRoute`: its one parent accepted by `gw`'s
listener. -/
def attachedInfo : RouteBindingInfo :=
  ⟨[(0, ⟨true, reasonAccepted, "Route accepted", ["http"]⟩)]⟩

/-- Two status writes with the same inputs, the second on the cluster the first
left: the first stamps every condition with its time `t₁`, and the second gives
back what the first wrote with every transition time moved to its own time
`t₂`, every condition's status kept. The same holds of the Gateway status
writer. -/
theorem repeated_status_write_restamps :
    (∀ (r : RouteReconciler) (k : RouteKind) (c c₁ c₂ : Cluster) (route : Route k.Rule)
        (info : RouteBindingInfo) (syncErr : Option String) (t₁ t₂ : Nat)
        (putOk₁ putOk₂ : Bool),
      r.updateRouteStatus k c route info syncErr t₁ putOk₁ = .ok c₁ →
      r.updateRouteStatus k c₁ route info syncErr t₂ putOk₂ = .ok c₂ →
      ∃ written, (c₁.routes k).get route.key = some written ∧
        (∀ e ∈ written.parents, ∀ cond ∈ e.conditions, cond.lastTransitionTime = t₁) ∧
        (c₂.routes k).get route.key =
          some { written with parents := written.parents.map (RouteParentStatus.restamp t₂) }) ∧
    ∀ (c c₁ c₂ : Cluster) (gateway : Gateway) (cfg : ResolvedPingoraConfig) (env : GatewayEnv)
        (t₁ t₂ : Nat),
      GatewayReconciler.updateStatus c gateway cfg env t₁ = .ok c₁ →
      GatewayReconciler.updateStatus c₁ gateway cfg env t₂ = .ok c₂ →
      ∃ written, c₁.gateways.get gateway.key = some written ∧
        (∀ cond ∈ written.status.conditions, cond.lastTransitionTime = t₁) ∧
        (∀ l ∈ written.status.listeners, ∀ cond ∈ l.conditions,
          cond.lastTransitionTime = t₁) ∧
        c₂.gateways.get gateway.key =
          some { written with status := written.status.restamp t₂ } :=
  ⟨fun r _ c _ _ _ info syncErr _ _ _ _ h₁ h₂ => by
    obtain ⟨written, hw, hstamp⟩ := r.updateRouteStatus_stamps_now c info syncErr _ h₁
    obtain ⟨_, hw', hre⟩ := r.updateRouteStatus_restamps c info syncErr _ h₁ h₂
    obtain rfl := Option.some.inj (hw.symm.trans hw')
    exact ⟨written, hw, hstamp, hre⟩,
  fun _ _ _ _ _ _ _ _ h₁ h₂ => by
    obtain ⟨written, hw, hc, hl⟩ := GatewayReconciler.updateStatus_stamps_now h₁
    obtain ⟨_, hw', hre⟩ := GatewayReconciler.updateStatus_restamps h₁ h₂
    obtain rfl := Option.some.inj (hw.symm.trans hw')
    exact ⟨written, hw, hc, hl, hre⟩⟩

/-- The configuration of a proxy at `proxy:50051` without TLS. -/
def plainConfig : ResolvedPingoraConfig :=
  ⟨"proxy:50051", false, "", "", "", false, "", 0, 0, 0, 0, 0, "cfg"⟩

/-- Writing `attachedRoute`'s status and `gw`'s at time 1 and again at time 2. -/
theorem attached_status_writes_restamp :
    (∃ c₁ c₂,
      defaultRouteReconciler.updateRouteStatus .http attachedCluster attachedRoute attachedInfo
        none 1 true = .ok c₁ ∧
      defaultRouteReconciler.updateRouteStatus .http c₁ attachedRoute attachedInfo
        none 2 true = .ok c₂ ∧
      ∃ written, (c₁.routes .http).get attachedRoute.key = some written ∧
        (∀ e ∈ written.parents, ∀ cond ∈ e.conditions, cond.lastTransitionTime = 1) ∧
        (c₂.routes .http).get attachedRoute.key =
          some { written with parents := written.parents.map (RouteParentStatus.restamp 2) }) ∧
    ∃ c₁ c₂,
      GatewayReconciler.updateStatus attachedCluster (listenerGateway "gw" "pingora" none)
        plainConfig okGatewayEnv 1 = .ok c₁ ∧
      GatewayReconciler.updateStatus c₁ (listenerGateway "gw" "pingora" none)
        plainConfig okGatewayEnv 2 = .ok c₂ ∧
      ∃ written, c₁.gateways.get (listenerGateway "gw" "pingora" none).key = some written ∧
        (∀ cond ∈ written.status.conditions, cond.lastTransitionTime = 1) ∧
        (∀ l ∈ written.status.listeners, ∀ cond ∈ l.conditions,
          cond.lastTransitionTime = 1) ∧
        c₂.gateways.get (listenerGateway "gw" "pingora" none).key =
          some { written with status := written.status.restamp 2 } :=
  ⟨⟨_, _, rfl, rfl,
      repeated_status_write_restamps.1 defaultRouteReconciler .http attachedCluster _ _
        attachedRoute attachedInfo none 1 2 true true rfl rfl⟩,
    ⟨_, _, rfl, rfl, repeated_status_write_restamps.2 attachedCluster _ _
      (listenerGateway "gw" "pingora" none) plainConfig okGatewayEnv 1 2 rfl rfl⟩⟩

/-- Two writes with the same inputs, at times 1 and 2: `attachedRoute`'s
conditions keep their statuses and move their transition times, and so do
`gw`'s. -/
theorem second_write_moves_transition_times :
    (∃ c₁ c₂,
      defaultRouteReconciler.updateRouteStatus .http attachedCluster attachedRoute attachedInfo
        none 1 true = .ok c₁ ∧
      defaultRouteReconciler.updateRouteStatus .http c₁ attachedRoute attachedInfo
        none 2 true = .ok c₂ ∧
      ((c₁.routes .http).get attachedRoute.key).map
          (·.parents.map (·.conditions.map (·.status))) =
        ((c₂.routes .http).get attachedRoute.key).map
          (·.parents.map (·.conditions.map (·.status))) ∧
      ((c₁.routes .http).get attachedRoute.key).map
          (·.parents.map (·.conditions.map (·.lastTransitionTime))) = some [[1, 1]] ∧
      ((c₂.routes .http).get attachedRoute.key).map
          (·.parents.map (·.conditions.map (·.lastTransitionTime))) = some [[2, 2]]) ∧
    ∃ c₁ c₂,
      GatewayReconciler.updateStatus attachedCluster (listenerGateway "gw" "pingora" none)
        plainConfig okGatewayEnv 1 = .ok c₁ ∧
      GatewayReconciler.updateStatus c₁ (listenerGateway "gw" "pingora" none) plainConfig
        okGatewayEnv 2 = .ok c₂ ∧
      (c₁.gateways.get (listenerGateway "gw" "pingora" none).key).map
          (·.status.conditions.map (·.status)) =
        (c₂.gateways.get (listenerGateway "gw" "pingora" none).key).map
          (·.status.conditions.map (·.status)) ∧
      (c₁.gateways.get (listenerGateway "gw" "pingora" none).key).map
          (·.status.conditions.map (·.lastTransitionTime)) = some [1, 1] ∧
      (c₂.gateways.get (listenerGateway "gw" "pingora" none).key).map
          (·.status.conditions.map (·.lastTransitionTime)) = some [2, 2] :=
  ⟨⟨_, _, rfl, rfl, rfl, rfl, rfl⟩, ⟨_, _, rfl, rfl, rfl, rfl, rfl⟩⟩

end PingoraGateway
