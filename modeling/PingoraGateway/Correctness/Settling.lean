import PingoraGateway.Correctness.GatewayStatus
import PingoraGateway.Correctness.Ownership

/-!
# The Gateway reconciler settles

A Gateway reconcile writes a status computed from the Gateway's spec, the
routes, the resolved configuration and the clock, and for a configuration error
the conditions alone; it never reads back the status it finds. So a second
reconcile at the same clock, with nothing between, does exactly what the first
did. The reconciler's own write wakes it once through its update event, and that
wake-up finds nothing to write: at a fixed clock, a Gateway whose reconcile asks
for no requeue leaves the queue after at most two reconciles.
-/

namespace PingoraGateway

/-- The resolver reads no Gateway. -/
@[simp] theorem PingoraResolver.resolveFromGatewayClassName_setGateways (r : PingoraResolver)
    (c : Cluster) (gateways : Store Gateway Gateway.key) (gatewayClassName : String) :
    r.resolveFromGatewayClassName { c with gateways } gatewayClassName =
      r.resolveFromGatewayClassName c gatewayClassName :=
  rfl

namespace GatewayReconciler

variable {c c' : Cluster} {env : GatewayEnv} {now : Nat}

/-- `updateStatus` on the cluster it wrote, for a Gateway under the same key,
writes nothing new. -/
theorem updateStatus_again {cfg : ResolvedPingoraConfig} {gateway gateway' : Gateway}
    (hk : gateway'.key = gateway.key) (h : updateStatus c gateway cfg env now = .ok c') :
    updateStatus c' gateway' cfg env now = .ok c' := by
  unfold updateStatus at h ⊢
  rcases hf : c.gateways.get gateway.key with _ | fresh <;> simp only [hf] at h
  · cases h
  cases hp : env.putOk <;>
    simp only [hp, if_true, if_false, Bool.false_eq_true, reduceCtorEq, Except.ok.injEq] at h
  subst h
  have hkey : ({ fresh with status := (gatewayStatus fresh cfg
      (countAttachedRoutes c fresh env.httpListOk env.grpcListOk) now) } : Gateway).key =
      gateway'.key := hk ▸ (Store.mem_of_get hf).2
  simp only [Store.get_put_of_key _ hkey, hp, if_true, countAttachedRoutes_putGatewayStatus]
  exact congrArg (fun gateways => (.ok { c with gateways } : Except String Cluster))
    (Store.put_of_get (Store.get_put_self _ _))

/-- `setConfigErrorStatus` on the cluster it wrote, for a Gateway under the same
key and the same error, writes nothing new. -/
theorem setConfigErrorStatus_again {configErr : String} {gateway gateway' : Gateway}
    (hk : gateway'.key = gateway.key)
    (h : setConfigErrorStatus c gateway configErr env now = .ok c') :
    setConfigErrorStatus c' gateway' configErr env now = .ok c' := by
  unfold setConfigErrorStatus at h ⊢
  rcases hf : c.gateways.get gateway.key with _ | fresh <;> simp only [hf] at h
  · cases h
  cases hp : env.putOk <;>
    simp only [hp, if_true, if_false, Bool.false_eq_true, reduceCtorEq, Except.ok.injEq] at h
  subst h
  have hkey : ({ fresh with status := { fresh.status with conditions :=
      ([⟨"Accepted", .conditionFalse, fresh.generation, now, "InvalidParameters",
        "Failed to resolve PingoraConfig: " ++ configErr⟩]) } } : Gateway).key =
      gateway'.key := hk ▸ (Store.mem_of_get hf).2
  simp only [Store.get_put_of_key _ hkey, hp, if_true]
  exact congrArg (fun gateways => (.ok { c with gateways } : Except String Cluster))
    (Store.put_of_get (Store.get_put_self _ _))

variable (r : GatewayReconciler) (c env now) (key : ObjectKey)

/-- A Gateway reconcile repeated at the same time, with nothing between, does
what the first one did. -/
theorem reconcile_reconcile :
    r.reconcile (r.reconcile c env now key).1 env now key = r.reconcile c env now key := by
  rcases he : env.getErr with _ | e
  case some => simp only [reconcile, he]
  rcases hg : c.gateways.get key with _ | gateway
  · simp only [reconcile, he, hg]
  have hkey : gateway.key = key := (Store.mem_of_get hg).2
  by_cases hcls : (gateway.gatewayClassName != r.gatewayClassName) = true
  · simp only [reconcile, he, hg, hcls, if_true]
  have hg₀ : c.gateways.get gateway.key = some gateway := by rw [hkey]; exact hg
  rcases hres : r.configResolver.resolveFromGatewayClassName c r.gatewayClassName with e | cfg
  · rcases hw : setConfigErrorStatus c gateway e env now with _ | c'
    · simp only [reconcile, he, hg, hcls, hres, hw, Bool.false_eq_true, if_false]
    obtain ⟨fresh, status, hf, rfl⟩ := setConfigErrorStatus_eq_ok hw
    obtain rfl : fresh = gateway := Option.some.inj (hf.symm.trans hg₀)
    have hg' := Store.get_put_of_key c.gateways (x := { fresh with status }) hkey
    have hw' := setConfigErrorStatus_again (show ({ fresh with status } : Gateway).key = fresh.key
      from rfl) hw
    simp only [reconcile, he, hg, hg', hcls, hres, hw, hw', Bool.false_eq_true, if_false,
      PingoraResolver.resolveFromGatewayClassName_setGateways]
  · by_cases hdel : gateway.deleting = true
    · simp only [reconcile, he, hg, hcls, hres, hdel, Bool.false_eq_true, if_true, if_false]
    rcases hw : updateStatus c gateway cfg env now with _ | c'
    · simp only [reconcile, he, hg, hcls, hres, hdel, hw, Bool.false_eq_true, if_false]
    obtain ⟨fresh, hf, rfl⟩ := updateStatus_eq_ok hw
    obtain rfl : fresh = gateway := Option.some.inj (hf.symm.trans hg₀)
    have hg' := Store.get_put_of_key c.gateways (x := { fresh with status := (gatewayStatus fresh
      cfg (countAttachedRoutes c fresh env.httpListOk env.grpcListOk) now) }) hkey
    have hw' := updateStatus_again (show ({ fresh with status := (gatewayStatus fresh cfg
      (countAttachedRoutes c fresh env.httpListOk env.grpcListOk) now) } : Gateway).key =
        fresh.key from rfl) hw
    simp only [reconcile, he, hg, hg', hcls, hres, if_neg hdel, hw, hw', Bool.false_eq_true,
      if_false, PingoraResolver.resolveFromGatewayClassName_setGateways]

end GatewayReconciler

namespace System

variable (cfg : ControllerConfig) (s : System) (env : GatewayEnv)

/-- One Gateway reconcile of the head of the queue: the cluster it leaves, the
clock unmoved, and the request back when the Gateway changed or a requeue is
asked for. -/
theorem reconcileGateway_cons {key : ObjectKey} {rest : List ObjectKey}
    (hq : s.gatewayQueue = key :: rest) {c : Cluster} {result : Result} {err : Option String}
    (hr : cfg.gatewayReconciler.reconcile s.cluster env s.clock key = (c, result, err)) :
    (s.reconcileGateway cfg env).cluster = c ∧ (s.reconcileGateway cfg env).clock = s.clock ∧
      (s.reconcileGateway cfg env).gatewayQueue =
        let q := if c.gateways.get key != s.cluster.gateways.get key then enqueue rest [key]
          else rest
        if requeues result err then enqueue q [key] else q := by
  simp only [reconcileGateway, hq, hr]
  split <;> split <;> exact ⟨rfl, rfl, rfl⟩

/-- At a fixed clock, a Gateway reconcile that asks for no requeue empties a
queue holding only its Gateway within two reconciles: its own status write
brings the request back once, and that reconcile writes nothing new. -/
theorem gateway_queue_settles {key : ObjectKey} (hq : s.gatewayQueue = [key])
    (hreq : requeues (cfg.gatewayReconciler.reconcile s.cluster env s.clock key).2.1
      (cfg.gatewayReconciler.reconcile s.cluster env s.clock key).2.2 = false) :
    (s.run cfg [.reconcileGateway env, .reconcileGateway env]).gatewayQueue = [] := by
  rcases hr : cfg.gatewayReconciler.reconcile s.cluster env s.clock key with ⟨c, result, err⟩
  rw [hr] at hreq
  obtain ⟨hc, ht, hq₁⟩ := s.reconcileGateway_cons cfg env hq hr
  have hr₂ : cfg.gatewayReconciler.reconcile c env s.clock key = (c, result, err) := by
    simpa only [hr] using cfg.gatewayReconciler.reconcile_reconcile s.cluster env s.clock key
  show ((s.reconcileGateway cfg env).reconcileGateway cfg env).gatewayQueue = []
  generalize s.reconcileGateway cfg env = s₁ at hc ht hq₁
  simp only [hreq, Bool.false_eq_true, if_false] at hq₁
  split at hq₁
  · have hr₁ : cfg.gatewayReconciler.reconcile s₁.cluster env s₁.clock key =
        (c, result, err) := by
      rw [hc, ht]
      exact hr₂
    obtain ⟨-, -, hq₂⟩ := s₁.reconcileGateway_cons cfg env (hq₁.trans rfl) hr₁
    simp [hq₂, hc, hreq]
  · simp only [reconcileGateway, hq₁]

end System

theorem attached_gateway_settles :
    (System.init defaultControllerConfig attachedCluster ⟨[], [], 0⟩).gatewayQueue =
      [⟨"ns", "gw"⟩] ∧
    requeues (defaultControllerConfig.gatewayReconciler.reconcile attachedCluster okGatewayEnv 0
        ⟨"ns", "gw"⟩).2.1
      (defaultControllerConfig.gatewayReconciler.reconcile attachedCluster okGatewayEnv 0
        ⟨"ns", "gw"⟩).2.2 = false ∧
    ((System.init defaultControllerConfig attachedCluster ⟨[], [], 0⟩).run
      defaultControllerConfig
      [.reconcileGateway okGatewayEnv, .reconcileGateway okGatewayEnv]).gatewayQueue = [] :=
  ⟨rfl, by decide,
    System.gateway_queue_settles defaultControllerConfig _ okGatewayEnv rfl (by decide)⟩

end PingoraGateway
