import PingoraGateway.Controller.RouteReconciler
import PingoraGateway.Controller.GatewayReconciler

/-!
# The controller process and the proxy

The state of one controller process next to the cluster and the proxy: the
shared syncer, the proxy's applied table, one work queue per controller and the
route reconcilers' startup flags. Cluster changes reach the queues as watch
events through each controller's handlers and event filter.
-/

namespace PingoraGateway

/-- The `slog` levels `setupLogger` chooses from. -/
inductive LogLevel
  | debug
  | info
  | warn
  | error
  deriving DecidableEq, Repr

/-- The handlers `setupLogger` chooses from. -/
inductive LogFormat
  | json
  | text
  deriving DecidableEq, Repr

/-- What the controller is configured with at startup: the fields of
`controller.Config`, the namespace `Run` takes for Secret lookups, and the
level and format of the logger. -/
structure ControllerConfig where
  clusterDomain : String
  gatewayClassName : String
  controllerName : String
  metricsAddr : String
  healthAddr : String
  leaderElect : Bool
  leaderElectNS : String
  leaderElectName : String
  controllerNamespace : String
  logLevel : LogLevel
  logFormat : LogFormat
  deriving DecidableEq, Repr

namespace ControllerConfig

/-- The route reconcilers' fields. -/
def routeReconciler (cfg : ControllerConfig) : RouteReconciler :=
  ⟨cfg.gatewayClassName, cfg.controllerName⟩

/-- The Gateway reconciler's fields. -/
def gatewayReconciler (cfg : ControllerConfig) : GatewayReconciler :=
  ⟨cfg.gatewayClassName, cfg.controllerName, ⟨cfg.controllerNamespace⟩⟩

/-- The syncer the controller builds at startup. -/
def newSyncer (cfg : ControllerConfig) : PingoraRouteSyncer :=
  newPingoraRouteSyncer cfg.clusterDomain cfg.gatewayClassName ⟨cfg.controllerNamespace⟩

end ControllerConfig

/-- The proxy's route table: the last request it applied. -/
structure Proxy where
  httpRoutes : List Routing.HTTPRoute
  grpcRoutes : List Routing.GRPCRoute
  appliedVersion : Nat
  deriving DecidableEq, Repr

namespace Proxy

/-- The table a request carries, swapped in whole. -/
def ofRequest (req : Routing.UpdateRoutesRequest) : Proxy :=
  ⟨req.httpRoutes, req.grpcRoutes, req.version⟩

/-- The proxy after a push: it applied the table when it answered success, and
perhaps when the transport failed. -/
def receive (p : Proxy) (push : Push) : Proxy :=
  match push.reply with
  | .transportError applied => if applied then ofRequest push.request else p
  | .response success _ _ => if success then ofRequest push.request else p

end Proxy

/-- A push as the controller made it, with the configuration that resolving the
class would give at that moment. -/
structure SentRequest where
  push : Push
  current : Except String ResolvedPingoraConfig

/-- The controller process, the cluster it watches and the proxy it drives. -/
structure System where
  cluster : Cluster
  syncer : PingoraRouteSyncer
  proxy : Proxy
  httpQueue : List ObjectKey
  grpcQueue : List ObjectKey
  gatewayQueue : List ObjectKey
  httpStartupComplete : Bool
  grpcStartupComplete : Bool
  clock : Nat
  sent : List SentRequest

/-- Add requests to a work queue, which holds each key at most once. -/
def enqueue (q ks : List ObjectKey) : List ObjectKey :=
  ks.foldl (fun q k => if k ∈ q then q else q ++ [k]) q

namespace System

/-- A route reconciler's queue. -/
def queue (s : System) : RouteKind → List ObjectKey
  | .http => s.httpQueue
  | .grpc => s.grpcQueue

/-- Replace a route reconciler's queue. -/
def setQueue (s : System) : RouteKind → List ObjectKey → System
  | .http, q => { s with httpQueue := q }
  | .grpc, q => { s with grpcQueue := q }

/-- Add requests to a route reconciler's queue. -/
def enqueueRoutes (s : System) (k : RouteKind) (ks : List ObjectKey) : System :=
  s.setQueue k (enqueue (s.queue k) ks)

/-- Add requests to the Gateway reconciler's queue. -/
def enqueueGateways (s : System) (ks : List ObjectKey) : System :=
  { s with gatewayQueue := enqueue s.gatewayQueue ks }

/-- Whether a route reconciler's startup sync has completed. -/
def startupComplete (s : System) : RouteKind → Bool
  | .http => s.httpStartupComplete
  | .grpc => s.grpcStartupComplete

/-- Mark a route reconciler's startup sync complete. -/
def completeStartup (s : System) : RouteKind → System
  | .http => { s with httpStartupComplete := true }
  | .grpc => { s with grpcStartupComplete := true }

/-- The start of a process: every existing route and Gateway arrives as a create
event, so each queue holds all of its kind; the proxy keeps whatever table it
had. -/
def init (cfg : ControllerConfig) (c : Cluster) (p : Proxy) : System :=
  { cluster := c, syncer := cfg.newSyncer, proxy := p,
    httpQueue := c.httpRoutes.items.map Route.key, grpcQueue := c.grpcRoutes.items.map Route.key,
    gatewayQueue := c.gateways.items.map Gateway.key,
    httpStartupComplete := false, grpcStartupComplete := false, clock := 0, sent := [] }

/-- Record what a route reconcile did: its status writes, the syncer, and a push
reaching the proxy. -/
def afterSync (s : System) (out : ReconcileOutcome) : System :=
  match out.push with
  | none => { s with cluster := out.cluster, syncer := out.syncer }
  | some push =>
    let current := s.syncer.configResolver.resolveFromGatewayClassName s.cluster
      s.syncer.gatewayClassName
    { s with
      cluster := out.cluster
      syncer := out.syncer
      proxy := s.proxy.receive push
      sent := s.sent ++ [⟨push, current⟩] }

end System

end PingoraGateway
