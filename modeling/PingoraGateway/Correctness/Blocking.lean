import PingoraGateway.Correctness.Builder
import PingoraGateway.Correctness.Ownership

/-!
# One unbuildable route blocks every push

`SyncAllRoutes` builds the wire routes of all relevant routes of both kinds
before it pushes, and the builder panics on a Service ref without a port. So
while some relevant route makes the builder panic, no sync of either reconciler
pushes anything, whatever the environment answers, and a startup sync that
panics crashes the process, which restarts on the same cluster and proxy: the
proxy keeps the table it had. The controller's own steps rewrite statuses only,
so none of them clears the panic; only a change to the cluster can.
-/

namespace PingoraGateway

/-- Lists that agree under `g` agree on `any` of predicates that agree on
elements with one image. -/
theorem any_eq_of_map_eq {α β : Type} {g : α → β} {p p' : α → Bool}
    (hp : ∀ a a', g a' = g a → p' a' = p a) :
    ∀ {l l' : List α}, l'.map g = l.map g → l'.any p' = l.any p
  | [], [], _ => rfl
  | a :: l, a' :: l', h => by
    simp only [List.map_cons, List.cons.injEq] at h
    simp only [List.any_cons, hp a a' h.1, any_eq_of_map_eq hp h.2]
  | [], _ :: _, h => by cases h
  | _ :: _, [], h => by cases h

/-- Objects alike up to statuses have the same specs. -/
theorem SameObjects.sameSpecs {c c' : Cluster} (h : SameObjects c c') : SameSpecs c c' :=
  ⟨h.sameBindings, fun k => by
    have he : (Route.spec ∘ Route.eraseStatus : Route k.Rule → _) = Route.spec := rfl
    simpa only [List.map_map, he] using congrArg (List.map Route.spec) (h.routes k)⟩

/-- Whether the builder fails on a relevant route of a kind. -/
def buildPanics (cfg : ControllerConfig) (c : Cluster) (k : RouteKind) : Bool :=
  (relevantRoutes cfg c k).any fun R => !(k.build ⟨cfg.clusterDomain⟩ R).toBool

/-- Whether every `SyncAllRoutes` on the cluster that lists both kinds panics:
the builder fails on a relevant route of some kind. -/
def syncPanics (cfg : ControllerConfig) (c : Cluster) : Bool :=
  buildPanics cfg c .http || buildPanics cfg c .grpc

section Panics

variable {cfg : ControllerConfig} {c c' : Cluster}

theorem exists_of_syncPanics (hp : syncPanics cfg c = true) :
    ∃ k, ∃ R ∈ relevantRoutes cfg c k,
      (k.build ⟨cfg.clusterDomain⟩ R).toBool = false := by
  simp only [syncPanics, buildPanics, Bool.or_eq_true, List.any_eq_true, Bool.not_eq_true']
    at hp
  rcases hp with ⟨R, hR, hb⟩ | ⟨R, hR, hb⟩
  exacts [⟨.http, R, hR, hb⟩, ⟨.grpc, R, hR, hb⟩]

/-- Clusters with the same specs panic alike. -/
theorem syncPanics_congr (h : SameSpecs c c') : syncPanics cfg c' = syncPanics cfg c := by
  have hk : ∀ k, buildPanics cfg c' k = buildPanics cfg c k := by
    intro k
    simp only [buildPanics, relevantRoutes, List.any_filter]
    refine any_eq_of_map_eq (fun _ _ hs => ?_) (h.routes k)
    rw [h.bindings.isRelevantRoute_eq hs, k.build_congr _ hs]
  simp only [syncPanics, hk]

variable {syncer : PingoraRouteSyncer} (hst : syncer.statics = cfg.newSyncer.statics)
  (hp : syncPanics cfg c = true)
include hst hp

/-- No `SyncAllRoutes` of the controller's syncer pushes while a relevant route
makes the builder panic. -/
theorem syncAllRoutes_push_of_syncPanics (env : SyncEnv) :
    (syncer.syncAllRoutes c env).2.1 = none := by
  cases hpush : (syncer.syncAllRoutes c env).2.1 with
  | none => rfl
  | some push =>
    obtain ⟨k, R, hR, hb⟩ := exists_of_syncPanics hp
    obtain ⟨w, hw, -⟩ :=
      exists_mem_of_mapM_ok (TableCovers.push_table_of_statics hst env hpush k) R hR
    rw [hw] at hb
    cases hb

end Panics

namespace System

variable (cfg : ControllerConfig) (s : System)

/-- While a relevant route makes the builder panic, no step changes the proxy's
table. -/
theorem proxy_step_of_syncPanics {s : System} (hst : s.syncer.statics = cfg.newSyncer.statics)
    (hp : syncPanics cfg s.cluster = true) (a : Action) : (s.step cfg a).proxy = s.proxy := by
  rcases s.syncer_proxy_step cfg a with ⟨-, h⟩ | ⟨-, h⟩ | ⟨k, env, -, h⟩
  · exact h
  · exact h
  · rw [h, (cfg.routeReconciler.syncAndUpdateStatus_fields k _ _ _ _).2.2,
      syncAllRoutes_push_of_syncPanics hst hp env.sync]
    rfl

/-- A step other than a change keeps a builder panic. -/
theorem syncPanics_step_of_not_edit {a : Action} (ha : a.isEdit = false) :
    syncPanics cfg (s.step cfg a).cluster = syncPanics cfg s.cluster :=
  syncPanics_congr (s.sameObjects_step cfg ha).sameSpecs

end System

section Runs

variable (cfg : ControllerConfig)

end Runs

/-- A restart on `nonCoreServiceCluster`: both startup syncs, each of which
crashes the process, a reconcile, a new route `ns/r3` attached to `gw`, and its
reconcile. -/
def portlessRestartActions : List Action :=
  [.start .http okReconcileEnv, .start .grpc okReconcileEnv, .reconcileRoute .http okReconcileEnv,
    .edit (.putRoute .http { attachedRoute with name := "r3" }) okEditEnv,
    .reconcileRoute .http okReconcileEnv]

end PingoraGateway
