import PingoraGateway.System.State

/-!
# Cluster changes, watch events and reconciles

A cluster change is stored the way the API server stores it (status kept,
generation counting spec changes) and delivered as a watch event to the
handlers each controller registers. The route reconcilers filter every event
with `GenerationChangedPredicate`; the Gateway reconciler filters none. Status
writes of the route reconcilers leave the generation alone, so no handler
enqueues for them; a Gateway status write is an update event for the Gateway
reconciler itself. A step is one change, a clock tick, a startup sync, or one
reconcile of the head of a queue with the environment's outcomes.
-/

namespace PingoraGateway

/-- A change to the cluster made by a user or another controller. -/
inductive Edit
  | putRoute (k : RouteKind) (route : Route k.Rule)
  | deleteRoute (k : RouteKind) (key : ObjectKey)
  | putGateway (gateway : Gateway)
  | deleteGateway (key : ObjectKey)
  | putGatewayClass (gatewayClass : GatewayClass)
  | deleteGatewayClass (name : String)
  | putPingoraConfig (config : PingoraConfig)
  | deletePingoraConfig (name : String)
  | putSecret (secret : Secret)
  | deleteSecret (key : ObjectKey)
  | putNamespace (ns : Namespace)
  | deleteNamespace (name : String)

/-- A watch event on one object kind. -/
inductive WatchEvent (α : Type)
  | created (obj : α)
  | updated (old new : α)
  | deleted (obj : α)

/-- Which object of an event a map-function call maps: the new object of a
create or an update, or the old object of an update or a delete. -/
inductive EventSide
  | old
  | new
  deriving DecidableEq, Repr

/-- The reconcilers whose handlers map events: a route reconciler, or the
Gateway reconciler. -/
inductive Watcher
  | route (k : RouteKind)
  | gateway
  deriving DecidableEq, Repr

/-- A read of one map-function call of an event: the reconciler whose handler
calls, the object the call maps, and the read. -/
structure EventRead where
  watcher : Watcher
  side : EventSide
  read : MapRead
  deriving DecidableEq, Repr

/-- What the environment decides during one change: the reads of its handlers'
map functions that fail. -/
structure EditEnv where
  failedReads : List EventRead
  deriving DecidableEq, Repr

/-- Whether a read of a reconciler's map-function call on one object of the
event succeeds. -/
def EditEnv.readOk (env : EditEnv) (watcher : Watcher) (side : EventSide) (read : MapRead) :
    Bool :=
  !env.failedReads.contains ⟨watcher, side, read⟩

namespace WatchEvent

variable {α : Type}

/-- The event of a put: an update of the stored object, or a create. -/
def ofPut (old : Option α) (new : α) : WatchEvent α :=
  match old with
  | some o => updated o new
  | none => created new

/-- The requests of an `EnqueueRequestsFromMapFunc` handler: the map of each
object the event carries, the old and then the new one for an update. -/
def requests (ev : WatchEvent α) (f : EventSide → α → List ObjectKey) : List ObjectKey :=
  match ev with
  | created o => f .new o
  | updated o n => f .old o ++ f .new n
  | deleted o => f .old o

/-- `GenerationChangedPredicate`: an update passes only with a new generation;
an object without a generation field has generation zero. -/
def generationChanged (ev : WatchEvent α) (generation : α → Nat) : Bool :=
  match ev with
  | updated o n => generation o != generation n
  | _ => true

end WatchEvent

/-- The route the API server stores for a put: a create starts at generation 1
with no status; an update keeps the status and counts a spec change. -/
def storedRoute {Rule : Type} [DecidableEq Rule] (old : Option (Route Rule)) (r : Route Rule) :
    Route Rule :=
  match old with
  | none => { r with generation := 1, parents := [] }
  | some o =>
    let same := o.parentRefs == r.parentRefs && o.hostnames == r.hostnames && o.rules == r.rules
    { r with generation := if same then o.generation else o.generation + 1, parents := o.parents }

/-- The Gateway the API server stores for a put, as for routes. -/
def storedGateway (old : Option Gateway) (g : Gateway) : Gateway :=
  match old with
  | none => { g with generation := 1, status := ⟨[], [], []⟩ }
  | some o =>
    let same := o.gatewayClassName == g.gatewayClassName && o.listeners == g.listeners &&
      o.deleting == g.deleting
    { g with generation := if same then o.generation else o.generation + 1, status := o.status }

/-- The PingoraConfig the API server stores for a put. -/
def storedPingoraConfig (old : Option PingoraConfig) (p : PingoraConfig) : PingoraConfig :=
  match old with
  | none => { p with generation := 1 }
  | some o => { p with generation := if o.spec == p.spec then o.generation else o.generation + 1 }

namespace System

variable (cfg : ControllerConfig)

/-- Deliver a route event: only the reconciler of its kind watches routes. -/
def routeEvent (s : System) (k : RouteKind) (ev : WatchEvent (Route k.Rule)) : System :=
  if ev.generationChanged (·.generation) then s.enqueueRoutes k (ev.requests fun _ r => [r.key])
  else s

/-- Deliver a Gateway event: the Gateway reconciler enqueues the Gateway, each
route reconciler the routes naming it. -/
def gatewayEvent (s : System) (env : EditEnv) (ev : WatchEvent Gateway) : System :=
  let s := s.enqueueGateways (ev.requests fun _ g => [g.key])
  if ev.generationChanged (·.generation) then
    let r := cfg.routeReconciler
    let s := s.enqueueRoutes .http (ev.requests fun side =>
      r.findRoutesForGateway .http s.cluster (env.readOk (.route .http) side))
    s.enqueueRoutes .grpc (ev.requests fun side =>
      r.findRoutesForGateway .grpc s.cluster (env.readOk (.route .grpc) side))
  else s

/-- Deliver a PingoraConfig event through `MapConfigToRequests`. -/
def pingoraConfigEvent (s : System) (env : EditEnv) (ev : WatchEvent PingoraConfig) : System :=
  let cls := cfg.gatewayClassName
  let s := s.enqueueGateways (ev.requests fun side =>
    mapConfigToRequests s.cluster cls (env.readOk .gateway side)
      (cfg.gatewayReconciler.getAllGatewaysForClass · (env.readOk .gateway side)))
  if ev.generationChanged (·.generation) then
    let r := cfg.routeReconciler
    let s := s.enqueueRoutes .http (ev.requests fun side =>
      mapConfigToRequests s.cluster cls (env.readOk (.route .http) side)
        (r.getAllRelevantRoutes .http · (env.readOk (.route .http) side)))
    s.enqueueRoutes .grpc (ev.requests fun side =>
      mapConfigToRequests s.cluster cls (env.readOk (.route .grpc) side)
        (r.getAllRelevantRoutes .grpc · (env.readOk (.route .grpc) side)))
  else s

/-- Deliver a Secret event through `MapSecretToRequests`; Secrets carry no
generation, so the route reconcilers' filter drops their updates. -/
def secretEvent (s : System) (env : EditEnv) (ev : WatchEvent Secret) : System :=
  if ev.generationChanged fun _ => 0 then
    let cls := cfg.gatewayClassName
    let r := cfg.routeReconciler
    let s := s.enqueueRoutes .http (ev.requests fun side =>
      mapSecretToRequests s.cluster cls (env.readOk (.route .http) side)
        (r.getAllRelevantRoutes .http · (env.readOk (.route .http) side)))
    s.enqueueRoutes .grpc (ev.requests fun side =>
      mapSecretToRequests s.cluster cls (env.readOk (.route .grpc) side)
        (r.getAllRelevantRoutes .grpc · (env.readOk (.route .grpc) side)))
  else s

/-- Deliver a GatewayClass event: only the Gateway reconciler watches classes. -/
def gatewayClassEvent (s : System) (env : EditEnv) (ev : WatchEvent GatewayClass) : System :=
  s.enqueueGateways (ev.requests fun side =>
    cfg.gatewayReconciler.gatewayClassToGateways s.cluster (env.readOk .gateway side))

/-- Replace the cluster. -/
def withCluster (s : System) (c : Cluster) : System := { s with cluster := c }

/-- Apply a change and deliver its event, with the reads of the handlers'
map functions answered by `env`. -/
def applyEdit (s : System) (e : Edit) (env : EditEnv) : System :=
  match e with
  | .putRoute k route =>
    let old := (s.cluster.routes k).get route.key
    let new := storedRoute old route
    (s.withCluster (s.cluster.setRoutes k ((s.cluster.routes k).put new))).routeEvent k
      (.ofPut old new)
  | .deleteRoute k key =>
    match (s.cluster.routes k).get key with
    | none => s
    | some old =>
      (s.withCluster (s.cluster.setRoutes k ((s.cluster.routes k).erase key))).routeEvent k
        (.deleted old)
  | .putGateway gateway =>
    let old := s.cluster.gateways.get gateway.key
    let new := storedGateway old gateway
    (s.withCluster { s.cluster with gateways := s.cluster.gateways.put new })
      |>.gatewayEvent cfg env (.ofPut old new)
  | .deleteGateway key =>
    match s.cluster.gateways.get key with
    | none => s
    | some old =>
      (s.withCluster { s.cluster with gateways := s.cluster.gateways.erase key })
        |>.gatewayEvent cfg env (.deleted old)
  | .putGatewayClass gatewayClass =>
    let old := s.cluster.gatewayClasses.get gatewayClass.key
    (s.withCluster { s.cluster with gatewayClasses := s.cluster.gatewayClasses.put gatewayClass })
      |>.gatewayClassEvent cfg env (.ofPut old gatewayClass)
  | .deleteGatewayClass name =>
    match s.cluster.getGatewayClass name with
    | none => s
    | some old =>
      (s.withCluster { s.cluster with gatewayClasses := s.cluster.gatewayClasses.erase old.key })
        |>.gatewayClassEvent cfg env (.deleted old)
  | .putPingoraConfig config =>
    let old := s.cluster.pingoraConfigs.get config.key
    let new := storedPingoraConfig old config
    (s.withCluster { s.cluster with pingoraConfigs := s.cluster.pingoraConfigs.put new })
      |>.pingoraConfigEvent cfg env (.ofPut old new)
  | .deletePingoraConfig name =>
    match s.cluster.getPingoraConfig name with
    | none => s
    | some old =>
      (s.withCluster { s.cluster with pingoraConfigs := s.cluster.pingoraConfigs.erase old.key })
        |>.pingoraConfigEvent cfg env (.deleted old)
  | .putSecret secret =>
    let old := s.cluster.secrets.get secret.key
    (s.withCluster { s.cluster with secrets := s.cluster.secrets.put secret })
      |>.secretEvent cfg env (.ofPut old secret)
  | .deleteSecret key =>
    match s.cluster.secrets.get key with
    | none => s
    | some old =>
      (s.withCluster { s.cluster with secrets := s.cluster.secrets.erase key })
        |>.secretEvent cfg env (.deleted old)
  | .putNamespace ns => s.withCluster { s.cluster with namespaces := s.cluster.namespaces.put ns }
  | .deleteNamespace name =>
    s.withCluster { s.cluster with namespaces := s.cluster.namespaces.erase ⟨"", name⟩ }

end System

/-- One step of the system. -/
inductive Action
  | edit (e : Edit) (env : EditEnv)
  | tick
  | start (k : RouteKind) (env : ReconcileEnv)
  | reconcileRoute (k : RouteKind) (env : ReconcileEnv)
  | reconcileGateway (env : GatewayEnv)

/-- Whether a reconcile's request goes back on its queue: an error, or a
requeue delay. -/
def requeues (result : Result) (err : Option String) : Bool :=
  err.isSome || result.requeueAfter != 0

namespace System

variable (cfg : ControllerConfig)

/-- A crash of the process and its restart: the new process starts as every
process does, on the same cluster and proxy, at the same time; the log of the
requests sent so far is kept. -/
def restart (s : System) : System :=
  { System.init cfg s.cluster s.proxy with clock := s.clock, sent := s.sent }

/-- The `Start` runnable: one `syncAndUpdateStatus`, whose result is dropped,
then the startup flag. The manager does not recover a runnable's panic, so a
builder panic in the sync crashes the process. -/
def start (s : System) (k : RouteKind) (env : ReconcileEnv) : System :=
  if s.startupComplete k then s
  else if (s.syncer.syncAllRoutes s.cluster env.sync).2.2.panics then s.restart cfg
  else (s.afterSync (cfg.routeReconciler.syncAndUpdateStatus k s.cluster s.syncer env s.clock))
    |>.completeStartup k

/-- One route reconcile of the head of a queue: before the startup sync it
comes back after a second; afterwards `Reconcile` runs and its request comes
back on an error or a requeue delay. -/
def reconcileRoute (s : System) (k : RouteKind) (env : ReconcileEnv) : System :=
  match s.queue k with
  | [] => s
  | key :: rest =>
    let s := s.setQueue k rest
    if !s.startupComplete k then s.enqueueRoutes k [key]
    else
      let out := cfg.routeReconciler.reconcile k s.cluster s.syncer env s.clock key
      let s := s.afterSync out
      if requeues out.result out.err then s.enqueueRoutes k [key] else s

/-- One Gateway reconcile of the head of its queue; a write that changes the
Gateway comes back to it as an update event. -/
def reconcileGateway (s : System) (env : GatewayEnv) : System :=
  match s.gatewayQueue with
  | [] => s
  | key :: rest =>
    let (c, result, err) := cfg.gatewayReconciler.reconcile s.cluster env s.clock key
    let s' := { s with cluster := c, gatewayQueue := rest }
    let s' := if c.gateways.get key != s.cluster.gateways.get key then s'.enqueueGateways [key]
      else s'
    if requeues result err then s'.enqueueGateways [key] else s'

/-- One step. -/
def step (s : System) : Action → System
  | .edit e env => s.applyEdit cfg e env
  | .tick => { s with clock := s.clock + 1 }
  | .start k env => s.start cfg k env
  | .reconcileRoute k env => s.reconcileRoute cfg k env
  | .reconcileGateway env => s.reconcileGateway cfg env

/-- A run of steps from a state. -/
def run (s : System) (acts : List Action) : System := acts.foldl (step cfg) s

end System

/-- The states a controller reaches from its start on some cluster, with the
proxy holding some table. -/
inductive Reachable (cfg : ControllerConfig) : System → Prop
  | init (c : Cluster) (p : Proxy) : Reachable cfg (System.init cfg c p)
  | step {s : System} (a : Action) : Reachable cfg s → Reachable cfg (s.step cfg a)

end PingoraGateway
