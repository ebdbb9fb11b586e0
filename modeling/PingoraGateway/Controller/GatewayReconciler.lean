import PingoraGateway.Controller.Mappers

/-!
# The Gateway reconciler

`Reconcile` of a Gateway of the configured class resolves the PingoraConfig and
writes the Gateway's status: the proxy address, Accepted and Programmed, and
per listener the number of attached routes that `countAttachedRoutes` computes
by running the evaluator on every route parent ref that names the Gateway.
-/

namespace PingoraGateway

/-- `configErrorRequeueDelay`, in seconds. -/
def configErrorRequeueDelay : Nat := 30

/-- `PingoraGatewayReconciler`'s fields. -/
structure GatewayReconciler where
  gatewayClassName : String
  controllerName : String
  configResolver : PingoraResolver
  deriving DecidableEq, Repr

/-- What the environment decides during one Gateway reconcile: whether each
route `List` succeeds, whether the status write lands, and the error of the
Gateway `Get` other than NotFound, if any. -/
structure GatewayEnv where
  httpListOk : Bool
  grpcListOk : Bool
  putOk : Bool
  getErr : Option String
  deriving DecidableEq, Repr

/-- `refMatchesGateway`: same name, and same namespace once an absent namespace
is the route's. -/
def refMatchesGateway (ref : ParentReference) (gateway : Gateway) (routeNamespace : String) :
    Bool :=
  ref.name == gateway.name && ref.ns.getD routeNamespace == gateway.ns

/-- Addition of `int32` values, wrapping in two's complement. -/
def int32Add (a b : Int) : Int := (a + b + 2 ^ 31) % 2 ^ 32 - 2 ^ 31

/-- `result[listenerName]++` on the `int32` count map. -/
def incrementCount (counts : String → Int) (listenerName : String) : String → Int :=
  fun name => if name == listenerName then int32Add (counts name) 1 else counts name

/-- The parent-ref loop of `countAttachedRoutes` for one route. -/
def countRefs {Rule : Type} (c : Cluster) (gateway : Gateway) (kind : String) (route : Route Rule) :
    List ParentReference → (String → Int) → String → Int
  | [], counts => counts
  | ref :: refs, counts =>
    if !refMatchesGateway ref gateway route.ns then countRefs c gateway kind route refs counts
    else
      match validateBinding c gateway ⟨route.name, route.ns, route.hostnames, kind,
          ref.sectionName⟩ with
      | .error _ => countRefs c gateway kind route refs counts
      | .ok bindingResult =>
        if !bindingResult.accepted then countRefs c gateway kind route refs counts
        else countRefs c gateway kind route refs
          (bindingResult.matchedListeners.foldl incrementCount counts)

/-- The route loop of `countAttachedRoutes` for one kind. -/
def countRoutes {Rule : Type} (c : Cluster) (gateway : Gateway) (kind : String) :
    List (Route Rule) → (String → Int) → String → Int
  | [], counts => counts
  | route :: routes, counts =>
    countRoutes c gateway kind routes (countRefs c gateway kind route route.parentRefs counts)

/-- `countAttachedRoutes`; a failed `List` of a kind counts none of it. -/
def countAttachedRoutes (c : Cluster) (gateway : Gateway) (httpListOk grpcListOk : Bool) :
    String → Int :=
  let counts : String → Int := fun _ => 0
  let counts :=
    if httpListOk then countRoutes c gateway kindHTTPRoute c.httpRoutes.items counts else counts
  if grpcListOk then countRoutes c gateway kindGRPCRoute c.grpcRoutes.items counts else counts

/-- The route kinds every listener reports. -/
def supportedKinds : List RouteGroupKind :=
  [⟨some groupName, kindHTTPRoute⟩, ⟨some groupName, kindGRPCRoute⟩]

/-- The status `updateStatus` writes for a fresh Gateway. -/
def gatewayStatus (fresh : Gateway) (cfg : ResolvedPingoraConfig) (attachedRoutes : String → Int)
    (now : Nat) : GatewayStatus :=
  let g := fresh.generation
  { addresses := [⟨some "Hostname", cfg.address⟩]
    conditions :=
      [⟨"Accepted", .conditionTrue, g, now, "Accepted",
          "Gateway accepted by Pingora controller"⟩,
        ⟨"Programmed", .conditionTrue, g, now, "Programmed",
          "Gateway programmed in Pingora proxy"⟩]
    listeners := fresh.listeners.map fun listener =>
      { name := listener.name
        supportedKinds
        attachedRoutes := attachedRoutes listener.name
        conditions :=
          [⟨"Accepted", .conditionTrue, g, now, "Accepted", "Listener accepted"⟩,
            ⟨"Programmed", .conditionTrue, g, now, "Programmed", "Listener programmed"⟩,
            ⟨"ResolvedRefs", .conditionTrue, g, now, "ResolvedRefs", "References resolved"⟩] } }

namespace GatewayReconciler

/-- `updateStatus`: GET a fresh copy, count, PUT the status. -/
def updateStatus (c : Cluster) (gateway : Gateway) (cfg : ResolvedPingoraConfig)
    (env : GatewayEnv) (now : Nat) : Except String Cluster :=
  match c.gateways.get gateway.key with
  | none => .error "failed to update gateway status after retries: failed to get fresh gateway"
  | some fresh =>
    let attachedRoutes := countAttachedRoutes c fresh env.httpListOk env.grpcListOk
    if env.putOk then
      .ok { c with gateways :=
        c.gateways.put { fresh with status := gatewayStatus fresh cfg attachedRoutes now } }
    else .error "failed to update gateway status after retries"

/-- `setConfigErrorStatus`: only the conditions are replaced. -/
def setConfigErrorStatus (c : Cluster) (gateway : Gateway) (configErr : String) (env : GatewayEnv)
    (now : Nat) : Except String Cluster :=
  match c.gateways.get gateway.key with
  | none => .error "failed to update gateway status after retries: failed to get fresh gateway"
  | some fresh =>
    let conditions : List Condition :=
      [⟨"Accepted", .conditionFalse, fresh.generation, now, "InvalidParameters",
        "Failed to resolve PingoraConfig: " ++ configErr⟩]
    if env.putOk then
      .ok { c with gateways :=
        c.gateways.put { fresh with status := { fresh.status with conditions } } }
    else .error "failed to update gateway status after retries"

/-- `Reconcile` of the request `key`: a failed `Get` other than NotFound is the
error, a Gateway that is gone or of another class needs nothing. -/
def reconcile (r : GatewayReconciler) (c : Cluster) (env : GatewayEnv) (now : Nat)
    (key : ObjectKey) : Cluster × Result × Option String :=
  match env.getErr, c.gateways.get key with
  | some e, _ => (c, ⟨0⟩, some ("failed to get gateway: " ++ e))
  | none, none => (c, ⟨0⟩, none)
  | none, some gateway =>
    if gateway.gatewayClassName != r.gatewayClassName then (c, ⟨0⟩, none)
    else
      match r.configResolver.resolveFromGatewayClassName c r.gatewayClassName with
      | .error e =>
        let c := match setConfigErrorStatus c gateway e env now with
          | .ok c => c
          | .error _ => c
        (c, ⟨configErrorRequeueDelay⟩, none)
      | .ok cfg =>
        if gateway.deleting then (c, ⟨0⟩, none)
        else
          match updateStatus c gateway cfg env now with
          | .ok c => (c, ⟨0⟩, none)
          | .error e => (c, ⟨0⟩, some ("failed to update gateway status: " ++ e))

/-- `getAllGatewaysForClass`: the Gateways of the class, or nothing when its
`List` fails. -/
def getAllGatewaysForClass (r : GatewayReconciler) (c : Cluster) (readOk : MapRead → Bool) :
    List ObjectKey :=
  if !readOk .list then []
  else
    (c.gateways.items.filter fun gw => gw.gatewayClassName == r.gatewayClassName).map Gateway.key

/-- `gatewayClassToGateways`: every Gateway of the class for a change of the
configured GatewayClass. -/
def gatewayClassToGateways (r : GatewayReconciler) (c : Cluster) (readOk : MapRead → Bool)
    (gatewayClass : GatewayClass) : List ObjectKey :=
  if gatewayClass.name != r.gatewayClassName then [] else r.getAllGatewaysForClass c readOk

end GatewayReconciler

end PingoraGateway
