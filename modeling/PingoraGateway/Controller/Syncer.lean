import PingoraGateway.Binding.Evaluator
import PingoraGateway.Builder.Build
import PingoraGateway.Config.Resolver

/-!
# The route syncer

`PingoraRouteSyncer` holds the proxy connection, its routing client and the
version counter. `SyncAllRoutes` connects when it holds no client, selects the
HTTPRoutes and GRPCRoutes with an accepted parent, builds their wire routes,
takes the next version and pushes the whole table.

`Close` takes only the connection lock, so it can run while `SyncAllRoutes`
holds the sync lock. The call is therefore two steps, `syncBegin` up to taking
the version and `syncSend` from reading the client on. A `Close` anywhere
between the connection check and the client read acts as one between the two
steps; one during the RPC acts as a transport error.
-/

namespace PingoraGateway

/-- `kindGateway`. -/
def kindGateway : String := "Gateway"

/-- `apiErrorRequeueDelay`, in seconds. -/
def apiErrorRequeueDelay : Nat := 30

/-- `ctrl.Result`; the controllers set only `RequeueAfter`, in seconds. -/
structure Result where
  requeueAfter : Nat
  deriving DecidableEq, Repr

/-- `routeBindingInfo`: binding results by parent-ref index. -/
structure RouteBindingInfo where
  bindingResults : List (Nat × BindingResult)
  deriving DecidableEq, Repr

/-- `SyncResult`; the binding maps are keyed by `"<namespace>/<name>"`, the most
recent entry first. -/
structure SyncResult where
  httpRoutes : List HTTPRoute
  grpcRoutes : List GRPCRoute
  httpRouteBindings : List (String × RouteBindingInfo)
  grpcRouteBindings : List (String × RouteBindingInfo)
  deriving DecidableEq, Repr

/-- A gRPC client connection: the dial that created it and the resolved
settings it was built from. -/
structure ClientConn where
  id : Nat
  config : ResolvedPingoraConfig
  deriving DecidableEq, Repr

/-- `PingoraRouteSyncer`. The connections are objects: `dials` numbers those
created so far and `closed` lists those whose `Close` has run. -/
structure PingoraRouteSyncer where
  clusterDomain : String
  gatewayClassName : String
  configResolver : PingoraResolver
  conn : Option ClientConn
  grpcClient : Option ClientConn
  configName : String
  version : UInt64
  dials : Nat
  closed : List Nat
  deriving DecidableEq, Repr

/-- The proxy's answer to `UpdateRoutes`: a transport error, after which the
proxy may or may not hold the table, or a response. -/
inductive UpdateReply
  | transportError (applied : Bool)
  | response (success : Bool) (error : String) (appliedVersion : UInt64)
  deriving DecidableEq, Repr

/-- What the environment decides during one `SyncAllRoutes`: whether dialing
succeeds, whether each `List` succeeds, and the proxy's reply. -/
structure SyncEnv where
  dialOk : Bool
  httpListOk : Bool
  grpcListOk : Bool
  reply : UpdateReply
  deriving DecidableEq, Repr

/-- An `UpdateRoutes` call that reached the wire. -/
structure Push where
  conn : ClientConn
  request : Routing.UpdateRoutesRequest
  reply : UpdateReply
  deriving DecidableEq, Repr

/-- How a `SyncAllRoutes` call ends: its three results, or a builder panic. -/
inductive SyncOutcome
  | returned (result : Result) (syncResult : Option SyncResult) (err : Option String)
  | panicked (msg : String)
  deriving DecidableEq, Repr

/-- `NewPingoraRouteSyncer`: no connection, version zero. -/
def newPingoraRouteSyncer (clusterDomain gatewayClassName : String)
    (configResolver : PingoraResolver) : PingoraRouteSyncer :=
  { clusterDomain, gatewayClassName, configResolver, conn := none, grpcClient := none,
    configName := "", version := 0, dials := 0, closed := [] }

/-- Whether a call returned with no error; a panic returns nothing. -/
def SyncOutcome.returnsNoError : SyncOutcome → Bool
  | .returned _ _ err => err.isNone
  | .panicked _ => false

/-- Whether the call panicked. -/
def SyncOutcome.panics : SyncOutcome → Bool
  | .returned _ _ _ => false
  | .panicked _ => true

namespace PingoraRouteSyncer

/-- `IsConnected`. -/
def isConnected (s : PingoraRouteSyncer) : Bool := s.grpcClient.isSome

/-- Close the held connection object, if any, keeping the fields. -/
def closeConn (s : PingoraRouteSyncer) : PingoraRouteSyncer :=
  match s.conn with
  | some cc => { s with closed := cc.id :: s.closed }
  | none => s

/-- `Connect`: close the held connection, resolve the configured class's
PingoraConfig, dial, and hold the new connection and client. -/
def connect (s : PingoraRouteSyncer) (c : Cluster) (dialOk : Bool) :
    PingoraRouteSyncer × Option String :=
  let s := s.closeConn
  match s.configResolver.resolveFromGatewayClassName c s.gatewayClassName with
  | .error e => (s, some ("failed to resolve Pingora config: " ++ e))
  | .ok resolved =>
    if dialOk then
      let cc : ClientConn := ⟨s.dials, resolved⟩
      let s := { s with
        conn := some cc
        grpcClient := some cc
        configName := resolved.configName
        dials := s.dials + 1 }
      (s, none)
    else (s, some "failed to create gRPC connection")

/-- `Close`. -/
def close (s : PingoraRouteSyncer) : PingoraRouteSyncer :=
  match s.conn with
  | some cc => { s with conn := none, grpcClient := none, closed := cc.id :: s.closed }
  | none => s

end PingoraRouteSyncer

/-- The body of the parent-ref loop of `getRelevantHTTPRoutes`: the binding
result of one parent ref, or `none` where the loop continues (a kind other than
Gateway, a Gateway missing or of another class, an evaluator error). -/
def parentBinding {Rule : Type} (c : Cluster) (gatewayClassName kind : String)
    (route : Route Rule) (ref : ParentReference) : Option BindingResult :=
  if ref.kind.isSome && ref.kind != some kindGateway then none
  else
    match c.getGateway ref.name (ref.ns.getD route.ns) with
    | none => none
    | some gateway =>
      if gateway.gatewayClassName != gatewayClassName then none
      else
        match validateBinding c gateway ⟨route.name, route.ns, route.hostnames, kind,
            ref.sectionName⟩ with
        | .error _ => none
        | .ok result => some result

/-- The parent-ref loop: results by index and whether one was accepted. -/
def bindParentRefs {Rule : Type} (c : Cluster) (gatewayClassName kind : String)
    (route : Route Rule) :
    Nat → List ParentReference → List (Nat × BindingResult) → Bool →
      List (Nat × BindingResult) × Bool
  | _, [], results, hasAcceptedBinding => (results, hasAcceptedBinding)
  | refIdx, ref :: refs, results, hasAcceptedBinding =>
    match parentBinding c gatewayClassName kind route ref with
    | none => bindParentRefs c gatewayClassName kind route (refIdx + 1) refs results
        hasAcceptedBinding
    | some result => bindParentRefs c gatewayClassName kind route (refIdx + 1) refs
        (results ++ [(refIdx, result)]) (hasAcceptedBinding || result.accepted)

/-- The route loop shared by `getRelevantHTTPRoutes` and `getRelevantGRPCRoutes`:
every listed route gets its binding entry, and those with an accepted binding
are kept in list order. -/
def relevantRoutesLoop {Rule : Type} (c : Cluster) (gatewayClassName kind : String) :
    List (Route Rule) → List (Route Rule) → List (String × RouteBindingInfo) →
      List (Route Rule) × List (String × RouteBindingInfo)
  | [], relevantRoutes, bindings => (relevantRoutes, bindings)
  | route :: routes, relevantRoutes, bindings =>
    let (results, hasAcceptedBinding) :=
      bindParentRefs c gatewayClassName kind route 0 route.parentRefs [] false
    relevantRoutesLoop c gatewayClassName kind routes
      (if hasAcceptedBinding then relevantRoutes ++ [route] else relevantRoutes)
      ((routeId route, ⟨results⟩) :: bindings)

/-- The relevant routes of one kind, after a `List` that may fail. -/
def getRelevantRoutes {Rule : Type} (c : Cluster) (gatewayClassName kind : String)
    (routes : List (Route Rule)) (listOk : Bool) (listError : String) :
    Except String (List (Route Rule) × List (String × RouteBindingInfo)) :=
  if listOk then .ok (relevantRoutesLoop c gatewayClassName kind routes [] [])
  else .error listError

namespace PingoraRouteSyncer

/-- `getRelevantHTTPRoutes`. -/
def getRelevantHTTPRoutes (s : PingoraRouteSyncer) (c : Cluster) (listOk : Bool) :
    Except String (List HTTPRoute × List (String × RouteBindingInfo)) :=
  getRelevantRoutes c s.gatewayClassName kindHTTPRoute c.httpRoutes.items listOk
    "failed to list httproutes"

/-- `getRelevantGRPCRoutes`. -/
def getRelevantGRPCRoutes (s : PingoraRouteSyncer) (c : Cluster) (listOk : Bool) :
    Except String (List GRPCRoute × List (String × RouteBindingInfo)) :=
  getRelevantRoutes c s.gatewayClassName kindGRPCRoute c.grpcRoutes.items listOk
    "failed to list grpcroutes"

/-- The builder the syncer owns. -/
def builder (s : PingoraRouteSyncer) : PingoraBuilder := ⟨s.clusterDomain⟩

end PingoraRouteSyncer

/-- A `SyncAllRoutes` call that has taken its version: the request and the
snapshot it returns. -/
structure PendingPush where
  request : Routing.UpdateRoutesRequest
  syncResult : SyncResult
  deriving DecidableEq, Repr

/-- Where the first step of `SyncAllRoutes` stops: a return, a panic, or a
request ready to send. -/
inductive BeginOutcome
  | done (outcome : SyncOutcome)
  | ready (pending : PendingPush)
  deriving DecidableEq, Repr

namespace PingoraRouteSyncer

/-- The connection check of `SyncAllRoutes`: `Connect` when no client is held. -/
def ensureConnected (s : PingoraRouteSyncer) (c : Cluster) (dialOk : Bool) :
    PingoraRouteSyncer × Option String :=
  if s.isConnected then (s, none) else s.connect c dialOk

/-- The middle of `SyncAllRoutes`: list and select both kinds and build every
wire route, or end the call with a `List` error or a builder panic. -/
def collectRoutes (s : PingoraRouteSyncer) (c : Cluster) (env : SyncEnv) :
    Except SyncOutcome (List Routing.HTTPRoute × List Routing.GRPCRoute × SyncResult) :=
  match s.getRelevantHTTPRoutes c env.httpListOk with
  | .error e => .error (.returned ⟨0⟩ none (some ("failed to list httproutes: " ++ e)))
  | .ok (httpRoutes, httpBindings) =>
    match s.getRelevantGRPCRoutes c env.grpcListOk with
    | .error e => .error (.returned ⟨0⟩ none (some ("failed to list grpcroutes: " ++ e)))
    | .ok (grpcRoutes, grpcBindings) =>
      match httpRoutes.mapM s.builder.buildHTTPRoute with
      | .error e => .error (.panicked e)
      | .ok pingoraHTTPRoutes =>
        match grpcRoutes.mapM s.builder.buildGRPCRoute with
        | .error e => .error (.panicked e)
        | .ok pingoraGRPCRoutes =>
          .ok (pingoraHTTPRoutes, pingoraGRPCRoutes,
            ⟨httpRoutes, grpcRoutes, httpBindings, grpcBindings⟩)

/-- `SyncAllRoutes` up to taking the version: connect when no client is held,
collect the routes, increment the counter. -/
def syncBegin (s : PingoraRouteSyncer) (c : Cluster) (env : SyncEnv) :
    PingoraRouteSyncer × BeginOutcome :=
  let (s, connectErr) := s.ensureConnected c env.dialOk
  match connectErr with
  | some _ => (s, .done (.returned ⟨apiErrorRequeueDelay⟩ none none))
  | none =>
    match s.collectRoutes c env with
    | .error outcome => (s, .done outcome)
    | .ok (pingoraHTTPRoutes, pingoraGRPCRoutes, syncResult) =>
      let version := s.version + 1
      ({ s with version },
        .ready ⟨⟨pingoraHTTPRoutes, pingoraGRPCRoutes, version.toNat⟩, syncResult⟩)

/-- `SyncAllRoutes` from reading the client on: no client returns, a closed
connection fails before sending, a transport error drops the connection, and a
response's `success` decides the error. -/
def syncSend (s : PingoraRouteSyncer) (p : PendingPush) (reply : UpdateReply) :
    PingoraRouteSyncer × Option Push × SyncOutcome :=
  match s.grpcClient with
  | none => (s, none, .returned ⟨apiErrorRequeueDelay⟩ none none)
  | some client =>
    let push : Option Push :=
      if client.id ∈ s.closed then none else some ⟨client, p.request, reply⟩
    let reply := if client.id ∈ s.closed then .transportError false else reply
    match reply with
    | .transportError _ =>
      (s.close, push, .returned ⟨apiErrorRequeueDelay⟩ (some p.syncResult)
        (some "failed to update routes via gRPC"))
    | .response success error _ =>
      if !success then
        (s, push, .returned ⟨apiErrorRequeueDelay⟩ (some p.syncResult)
          (some ("route update failed: " ++ error)))
      else (s, push, .returned ⟨0⟩ (some p.syncResult) none)

/-- `SyncAllRoutes`, the two steps with nothing between them. -/
def syncAllRoutes (s : PingoraRouteSyncer) (c : Cluster) (env : SyncEnv) :
    PingoraRouteSyncer × Option Push × SyncOutcome :=
  match s.syncBegin c env with
  | (s, .done outcome) => (s, none, outcome)
  | (s, .ready p) => s.syncSend p env.reply

end PingoraRouteSyncer

end PingoraGateway
