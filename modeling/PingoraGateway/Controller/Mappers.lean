import PingoraGateway.Controller.Syncer

/-!
# Event mappers

The functions that turn a change of a related object into reconcile requests,
and `IsRouteAcceptedByGateway`, the route reconcilers' own check that a route
has an accepted parent of the configured class, written as its own loop over
the parent refs. Each read a map function makes of the API can fail: a failed
`List` or GatewayClass `Get` maps the object to nothing, and a failed Gateway
`Get` skips its parent ref.
-/

namespace PingoraGateway

/-- A read a map function makes of the API: its `List` of routes or Gateways,
its `Get` of the configured GatewayClass, or the `Get` of the Gateway that
`IsRouteAcceptedByGateway` makes for a route's parent ref at an index. -/
inductive MapRead
  | list
  | getGatewayClass
  | getGateway (route : ObjectKey) (refIdx : Nat)
  deriving DecidableEq, Repr

/-- The loop of `IsRouteAcceptedByGateway` from the parent ref at `refIdx`: true
at the first ref of the configured class that the evaluator accepts. A ref of
another kind, a failed Gateway `Get`, a Gateway of another class and an
evaluator error each skip the ref. -/
def isRouteAcceptedByGatewayLoop {Rule : Type} (c : Cluster) (gatewayClassName kind : String)
    (route : Route Rule) (gatewayGetOk : Nat → Bool) : Nat → List ParentReference → Bool
  | _, [] => false
  | refIdx, ref :: refs =>
    let rest := isRouteAcceptedByGatewayLoop c gatewayClassName kind route gatewayGetOk
      (refIdx + 1) refs
    if ref.kind.isSome && ref.kind != some kindGateway then rest
    else if !gatewayGetOk refIdx then rest
    else
      match c.getGateway ref.name (ref.ns.getD route.ns) with
      | none => rest
      | some gateway =>
        if gateway.gatewayClassName != gatewayClassName then rest
        else
          match validateBinding c gateway ⟨route.name, route.ns, route.hostnames, kind,
              ref.sectionName⟩ with
          | .error _ => rest
          | .ok result => if result.accepted then true else rest

/-- `IsRouteAcceptedByGateway`, given whether the Gateway `Get` of each parent
ref succeeds, by index. -/
def isRouteAcceptedByGateway {Rule : Type} (c : Cluster) (gatewayClassName kind : String)
    (route : Route Rule) (gatewayGetOk : Nat → Bool) : Bool :=
  isRouteAcceptedByGatewayLoop c gatewayClassName kind route gatewayGetOk 0 route.parentRefs

/-- `FilterAcceptedRoutes`: the requests of the routes `IsRouteAcceptedByGateway`
keeps, whose Gateway `Get`s are reads of the calling map function. -/
def filterAcceptedRoutes {Rule : Type} (c : Cluster) (gatewayClassName kind : String)
    (readOk : MapRead → Bool) (routes : List (Route Rule)) : List ObjectKey :=
  (routes.filter fun route => isRouteAcceptedByGateway c gatewayClassName kind route
    fun refIdx => readOk (.getGateway route.key refIdx)).map Route.key

/-- `FindRoutesForGateway`: nothing for a Gateway of another class, else the
routes with a parent ref of the Gateway's name, whatever its namespace or kind. -/
def findRoutesForGateway {Rule : Type} (gateway : Gateway) (gatewayClassName : String)
    (routes : List (Route Rule)) : List ObjectKey :=
  if gateway.gatewayClassName != gatewayClassName then []
  else
    (routes.filter fun route => route.parentRefs.any fun ref => ref.name == gateway.name).map
      Route.key

/-- Whether the configured GatewayClass's `parametersRef` names a PingoraConfig. -/
def referencesConfig (c : Cluster) (gatewayClassName configName : String) : Bool :=
  match c.getGatewayClass gatewayClassName with
  | none => false
  | some gatewayClass =>
    match gatewayClass.parametersRef with
    | none => false
    | some ref =>
      ref.group == pingoraParametersRefGroup && ref.kind == pingoraParametersRefKind &&
        ref.name == configName

/-- `MapConfigToRequests`: nothing when the `Get` of the configured class fails,
else `getRoutes` for the PingoraConfig the class references. -/
def mapConfigToRequests (c : Cluster) (gatewayClassName : String) (readOk : MapRead → Bool)
    (getRoutes : Cluster → List ObjectKey) (pingoraConfig : PingoraConfig) : List ObjectKey :=
  if !readOk .getGatewayClass then []
  else if referencesConfig c gatewayClassName pingoraConfig.name then getRoutes c else []

/-- `MapSecretToRequests`: nothing when the `Get` of the configured class fails,
else `getRoutes` for the TLS Secret of the class's PingoraConfig, with an empty
namespace read as `"default"`. -/
def mapSecretToRequests (c : Cluster) (gatewayClassName : String) (readOk : MapRead → Bool)
    (getRoutes : Cluster → List ObjectKey) (secret : Secret) : List ObjectKey :=
  if !readOk .getGatewayClass then []
  else
    match c.getGatewayClass gatewayClassName with
    | none => []
    | some gatewayClass =>
      match PingoraResolver.getConfigForGatewayClass c gatewayClass with
      | .error _ => []
      | .ok pingoraConfig =>
        match pingoraConfig.spec.tls.bind (·.secretRef) with
        | none => []
        | some secretRef =>
          let secretNS := if secretRef.ns == "" then "default" else secretRef.ns
          if secret.name == secretRef.name && secret.ns == secretNS then getRoutes c else []

end PingoraGateway
