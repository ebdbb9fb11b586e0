import PingoraGateway.Controller.Mappers

/-!
# The HTTPRoute and GRPCRoute reconcilers

The two reconcilers are one design over the route kind. `Reconcile` waits for
the startup sync, fails on a failed route `Get`, treats a missing route as a
deletion, returns early for a route that no Gateway of the class accepts, and
otherwise runs
`syncAndUpdateStatus`: one `SyncAllRoutes`, then `updateRouteStatus` for each
route of its kind in the snapshot.
-/

namespace PingoraGateway

/-- `pingoraRouteAcceptedMessage`. -/
def pingoraRouteAcceptedMessage : String := "Route accepted and programmed in Pingora proxy"

/-- `pingoraGRPCRouteAcceptedMessage`. -/
def pingoraGRPCRouteAcceptedMessage : String := "Route accepted and programmed in Pingora proxy"

/-- `resolvedRefsMessage`. -/
def resolvedRefsMessage : String := "References resolved"

/-- `startupPendingRequeueDelay`, in seconds. -/
def startupPendingRequeueDelay : Nat := 1

/-- The two route kinds the controller reconciles. -/
inductive RouteKind
  | http
  | grpc
  deriving DecidableEq, Repr

namespace RouteKind

/-- The rule type of a kind's routes. -/
abbrev Rule : RouteKind → Type
  | http => HTTPRouteRule
  | grpc => GRPCRouteRule

instance : (k : RouteKind) → DecidableEq k.Rule
  | http => inferInstanceAs (DecidableEq HTTPRouteRule)
  | grpc => inferInstanceAs (DecidableEq GRPCRouteRule)

/-- The Kind the evaluator is given. -/
def kindName : RouteKind → String
  | http => kindHTTPRoute
  | grpc => kindGRPCRoute

/-- The resource name in the reconcilers' error messages. -/
def resource : RouteKind → String
  | http => "httproute"
  | grpc => "grpcroute"

/-- The message of an accepted parent. -/
def acceptedMessage : RouteKind → String
  | http => pingoraRouteAcceptedMessage
  | grpc => pingoraGRPCRouteAcceptedMessage

end RouteKind

namespace Cluster

/-- A kind's route store. -/
def routes (c : Cluster) : (k : RouteKind) → Store (Route k.Rule) Route.key
  | .http => c.httpRoutes
  | .grpc => c.grpcRoutes

/-- Replace a kind's route store. -/
def setRoutes (c : Cluster) : (k : RouteKind) → Store (Route k.Rule) Route.key → Cluster
  | .http, s => { c with httpRoutes := s }
  | .grpc, s => { c with grpcRoutes := s }

@[simp] theorem routes_setRoutes (c : Cluster) (k : RouteKind)
    (s : Store (Route k.Rule) Route.key) :
    (c.setRoutes k s).routes k = s := by
  cases k <;> rfl

@[simp] theorem gateways_setRoutes (c : Cluster) (k : RouteKind)
    (s : Store (Route k.Rule) Route.key) : (c.setRoutes k s).gateways = c.gateways := by
  cases k <;> rfl

@[simp] theorem namespaces_setRoutes (c : Cluster) (k : RouteKind)
    (s : Store (Route k.Rule) Route.key) : (c.setRoutes k s).namespaces = c.namespaces := by
  cases k <;> rfl

end Cluster

/-- A kind's half of a snapshot: its routes and its binding map. -/
def SyncResult.routes (sr : SyncResult) : (k : RouteKind) → List (Route k.Rule)
  | .http => sr.httpRoutes
  | .grpc => sr.grpcRoutes

/-- A kind's binding map in a snapshot. -/
def SyncResult.bindings (sr : SyncResult) : RouteKind → List (String × RouteBindingInfo)
  | .http => sr.httpRouteBindings
  | .grpc => sr.grpcRouteBindings

/-- The fields `PingoraHTTPRouteReconciler` and `PingoraGRPCRouteReconciler`
configure; the shared syncer and the startup flag are system state. -/
structure RouteReconciler where
  gatewayClassName : String
  controllerName : String
  deriving DecidableEq, Repr

/-- The `Accepted` condition's status, reason and message for one parent: Pending
with the sync error, the rejection of a recorded binding, else accepted. -/
def acceptedCondition (acceptedMessage : String) (syncErr : Option String)
    (binding : Option BindingResult) : ConditionStatus × String × String :=
  match syncErr with
  | some e => (.conditionFalse, reasonPending, e)
  | none =>
    match binding with
    | some b =>
      if !b.accepted then (.conditionFalse, b.reason, b.message)
      else (.conditionTrue, reasonAccepted, acceptedMessage)
    | none => (.conditionTrue, reasonAccepted, acceptedMessage)

/-- The `RouteParentStatus` written for one qualifying parent ref, whose
reference carries the resolved namespace. -/
def routeParentStatus (controllerName : String) (generation now : Nat) (ref : ParentReference)
    (ns : String) (accepted : ConditionStatus × String × String) : RouteParentStatus :=
  { parentRef := { ref with ns := some ns }
    controllerName
    conditions :=
      [⟨"Accepted", accepted.1, generation, now, accepted.2.1, accepted.2.2⟩,
        ⟨"ResolvedRefs", .conditionTrue, generation, now, "ResolvedRefs",
          resolvedRefsMessage⟩] }

namespace RouteReconciler

/-- The parent-ref loop of `updateRouteStatus`: one entry per parent ref of kind
Gateway whose Gateway exists with the configured class, in order, reading the
snapshot's binding result at the same index. -/
def parentStatuses {Rule : Type} (r : RouteReconciler) (c : Cluster) (acceptedMessage : String)
    (fresh : Route Rule) (info : RouteBindingInfo) (syncErr : Option String) (now : Nat) :
    Nat → List ParentReference → List RouteParentStatus
  | _, [] => []
  | refIdx, ref :: refs =>
    let rest := parentStatuses r c acceptedMessage fresh info syncErr now (refIdx + 1) refs
    if ref.kind.isSome && ref.kind != some kindGateway then rest
    else
      let ns := ref.ns.getD fresh.ns
      match c.getGateway ref.name ns with
      | none => rest
      | some gateway =>
        if gateway.gatewayClassName != r.gatewayClassName then rest
        else
          routeParentStatus r.controllerName fresh.generation now ref ns
            (acceptedCondition acceptedMessage syncErr (info.bindingResults.lookup refIdx)) :: rest

/-- The fresh copy with `status.parents` rebuilt from scratch. -/
def withParentStatuses (r : RouteReconciler) (k : RouteKind) (c : Cluster) (fresh : Route k.Rule)
    (info : RouteBindingInfo) (syncErr : Option String) (now : Nat) : Route k.Rule :=
  { fresh with
    parents := r.parentStatuses c k.acceptedMessage fresh info syncErr now 0 fresh.parentRefs }

/-- `updateRouteStatus`: GET a fresh copy, rebuild `status.parents` from scratch,
PUT the status; `putOk` is whether the write lands within the retry budget. -/
def updateRouteStatus (r : RouteReconciler) (k : RouteKind) (c : Cluster) (route : Route k.Rule)
    (info : RouteBindingInfo) (syncErr : Option String) (now : Nat) (putOk : Bool) :
    Except String Cluster :=
  match (c.routes k).get route.key with
  | none => .error ("failed to update " ++ k.resource ++
      " status after retries: failed to get fresh " ++ k.resource)
  | some fresh =>
    if putOk then
      .ok (c.setRoutes k ((c.routes k).put (r.withParentStatuses k c fresh info syncErr now)))
    else .error ("failed to update " ++ k.resource ++ " status after retries")

/-- The status loop of `syncAndUpdateStatus` over the snapshot's routes, keeping
the first error. -/
def updateRouteStatuses (r : RouteReconciler) (k : RouteKind)
    (bindings : List (String × RouteBindingInfo)) (syncErr : Option String) (now : Nat) :
    List (Route k.Rule) → List Bool → Cluster → Option String → Cluster × Option String
  | [], _, c, statusUpdateErr => (c, statusUpdateErr)
  | route :: routes, putOks, c, statusUpdateErr =>
    let info := (bindings.lookup (routeId route)).getD ⟨[]⟩
    match r.updateRouteStatus k c route info syncErr now (putOks.headD true) with
    | .ok c => r.updateRouteStatuses k bindings syncErr now routes putOks.tail c statusUpdateErr
    | .error e => r.updateRouteStatuses k bindings syncErr now routes putOks.tail c
        (statusUpdateErr.orElse fun _ => some e)

end RouteReconciler

/-- What the environment decides during one route reconcile: the sync's
outcomes, per snapshot route in order whether its status write lands, the error
of the route `Get` other than NotFound if any, and the indices of the parent
refs whose Gateway `Get` in `isRouteForOurGateway` fails. -/
structure ReconcileEnv where
  sync : SyncEnv
  statusOk : List Bool
  routeGetErr : Option String
  failedGatewayGets : List Nat
  deriving DecidableEq, Repr

/-- Whether the Gateway `Get` of the parent ref at an index succeeds. -/
def ReconcileEnv.gatewayGetOk (env : ReconcileEnv) (refIdx : Nat) : Bool :=
  !env.failedGatewayGets.contains refIdx

/-- What a route reconcile leaves: the cluster after its status writes, the
syncer, the push it made, and its `Result` and error. -/
structure ReconcileOutcome where
  cluster : Cluster
  syncer : PingoraRouteSyncer
  push : Option Push
  result : Result
  err : Option String
  deriving DecidableEq

/-- How `syncAndUpdateStatus` ends: a sync error without a requeue delay is not
propagated, a status error is, otherwise the sync's `Result`. -/
def finishSync (result : Result) (syncErr statusUpdateErr : Option String) :
    Result × Option String :=
  if syncErr.isSome && result.requeueAfter == 0 then (result, none)
  else
    match statusUpdateErr with
    | some e => (⟨0⟩, some e)
    | none => (result, none)

namespace RouteReconciler

/-- `syncAndUpdateStatus`; a builder panic surfaces as the reconcile's error. -/
def syncAndUpdateStatus (r : RouteReconciler) (k : RouteKind) (c : Cluster)
    (syncer : PingoraRouteSyncer) (env : ReconcileEnv) (now : Nat) : ReconcileOutcome :=
  let (syncer, push, outcome) := syncer.syncAllRoutes c env.sync
  match outcome with
  | .panicked msg => ⟨c, syncer, push, ⟨0⟩, some msg⟩
  | .returned result syncResult syncErr =>
    let (c, statusUpdateErr) :=
      match syncResult with
      | none => (c, none)
      | some sr =>
        r.updateRouteStatuses k (sr.bindings k) syncErr now (sr.routes k) env.statusOk c none
    let (result, err) := finishSync result syncErr statusUpdateErr
    ⟨c, syncer, push, result, err⟩

/-- `isRouteForOurGateway`. -/
def isRouteForOurGateway (r : RouteReconciler) (k : RouteKind) (c : Cluster)
    (route : Route k.Rule) (gatewayGetOk : Nat → Bool) : Bool :=
  isRouteAcceptedByGateway c r.gatewayClassName k.kindName route gatewayGetOk

/-- `Reconcile` of the request `key`, once the startup sync has completed: a
failed route `Get` other than NotFound is the error, a missing route is a
deletion, and a route no Gateway of the class accepts needs nothing. -/
def reconcile (r : RouteReconciler) (k : RouteKind) (c : Cluster) (syncer : PingoraRouteSyncer)
    (env : ReconcileEnv) (now : Nat) (key : ObjectKey) : ReconcileOutcome :=
  match env.routeGetErr, (c.routes k).get key with
  | some e, _ => ⟨c, syncer, none, ⟨0⟩, some ("failed to get " ++ k.resource ++ ": " ++ e)⟩
  | none, none => r.syncAndUpdateStatus k c syncer env now
  | none, some route =>
    if !r.isRouteForOurGateway k c route env.gatewayGetOk then ⟨c, syncer, none, ⟨0⟩, none⟩
    else r.syncAndUpdateStatus k c syncer env now

/-- `findRoutesForGateway` of the reconciler: nothing when its `List` fails. -/
def findRoutesForGateway (r : RouteReconciler) (k : RouteKind) (c : Cluster)
    (readOk : MapRead → Bool) (gateway : Gateway) : List ObjectKey :=
  if !readOk .list then []
  else PingoraGateway.findRoutesForGateway gateway r.gatewayClassName (c.routes k).items

/-- `getAllRelevantRoutes`: nothing when its `List` fails. -/
def getAllRelevantRoutes (r : RouteReconciler) (k : RouteKind) (c : Cluster)
    (readOk : MapRead → Bool) : List ObjectKey :=
  if !readOk .list then []
  else filterAcceptedRoutes c r.gatewayClassName k.kindName readOk (c.routes k).items

end RouteReconciler

/-- `PingoraHTTPRouteReconciler.updateRouteStatus`. -/
def PingoraHTTPRouteReconciler.updateRouteStatus (r : RouteReconciler) :=
  r.updateRouteStatus .http

/-- `PingoraGRPCRouteReconciler.updateRouteStatus`. -/
def PingoraGRPCRouteReconciler.updateRouteStatus (r : RouteReconciler) :=
  r.updateRouteStatus .grpc

/-- `PingoraHTTPRouteReconciler.syncAndUpdateStatus`. -/
def PingoraHTTPRouteReconciler.syncAndUpdateStatus (r : RouteReconciler) :=
  r.syncAndUpdateStatus .http

/-- `PingoraGRPCRouteReconciler.syncAndUpdateStatus`. -/
def PingoraGRPCRouteReconciler.syncAndUpdateStatus (r : RouteReconciler) :=
  r.syncAndUpdateStatus .grpc

/-- `PingoraHTTPRouteReconciler.Reconcile`. -/
def PingoraHTTPRouteReconciler.reconcile (r : RouteReconciler) := r.reconcile .http

/-- `PingoraGRPCRouteReconciler.Reconcile`. -/
def PingoraGRPCRouteReconciler.reconcile (r : RouteReconciler) := r.reconcile .grpc

end PingoraGateway
