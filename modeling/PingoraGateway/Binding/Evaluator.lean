import PingoraGateway.Binding.Hostname
import PingoraGateway.Binding.Policy

/-!
# The route binding evaluator

`ValidateBinding` walks a Gateway's listeners in order, skipping those another
section name selects, and checks each for hostname intersection, namespace
policy and kind policy in that order. It keeps the names of the listeners that
pass and the last rejection reason, and an error of the namespace check aborts
the walk.
-/

namespace PingoraGateway

/-- `RouteReasonAccepted`. -/
def reasonAccepted : String := "Accepted"

/-- `RouteReasonNoMatchingListenerHostname`. -/
def reasonNoMatchingListenerHostname : String := "NoMatchingListenerHostname"

/-- `RouteReasonNotAllowedByListeners`. -/
def reasonNotAllowedByListeners : String := "NotAllowedByListeners"

/-- `RouteReasonNoMatchingParent`. -/
def reasonNoMatchingParent : String := "NoMatchingParent"

/-- `RouteReasonPending`. -/
def reasonPending : String := "Pending"

/-- `RouteInfo`: what the evaluator reads of a route and one of its parent refs. -/
structure RouteInfo where
  name : String
  ns : String
  hostnames : List String
  kind : String
  sectionName : Option String
  deriving DecidableEq, Repr

/-- `BindingResult`. -/
structure BindingResult where
  accepted : Bool
  reason : String
  message : String
  matchedListeners : List String
  deriving DecidableEq, Repr

/-- `getReasonMessage`. -/
def getReasonMessage (reason : String) : String :=
  if reason == reasonNoMatchingListenerHostname then "No listener hostname matches route hostnames"
  else if reason == reasonNotAllowedByListeners then
    "Route not allowed by listener allowedRoutes policy"
  else if reason == reasonNoMatchingParent then "No matching listener found"
  else "Route not accepted"

/-- `listenerAcceptsRoute`: `Accepted`, or the reason of the first failed check. -/
def listenerAcceptsRoute (c : Cluster) (listener : Listener) (gatewayNamespace : String)
    (route : RouteInfo) : Except String String :=
  if !hostnamesIntersect listener.hostname route.hostnames then
    .ok reasonNoMatchingListenerHostname
  else
    match isNamespaceAllowed c listener.allowedRoutes gatewayNamespace route.ns with
    | .error e => .error e
    | .ok allowed =>
      if !allowed then .ok reasonNotAllowedByListeners
      else if !isRouteKindAllowed listener.allowedRoutes listener.protocol route.kind then
        .ok reasonNotAllowedByListeners
      else .ok reasonAccepted

/-- The loop of `findMatchingListeners` over the listeners still to visit, with
its two accumulators: the matched names and the last rejection reason. -/
def findMatchingListenersLoop (c : Cluster) (gatewayNamespace : String) (route : RouteInfo) :
    List Listener → List String → String → Except String (List String × String)
  | [], matched, lastRejectionReason => .ok (matched, lastRejectionReason)
  | listener :: listeners, matched, lastRejectionReason =>
    if route.sectionName.isSome && route.sectionName != some listener.name then
      findMatchingListenersLoop c gatewayNamespace route listeners matched lastRejectionReason
    else
      match listenerAcceptsRoute c listener gatewayNamespace route with
      | .error e => .error e
      | .ok reason =>
        if reason == reasonAccepted then
          findMatchingListenersLoop c gatewayNamespace route listeners
            (matched ++ [listener.name]) lastRejectionReason
        else findMatchingListenersLoop c gatewayNamespace route listeners matched reason

/-- `findMatchingListeners`: the matched names, or none with the reason. -/
def findMatchingListeners (c : Cluster) (gateway : Gateway) (route : RouteInfo) :
    Except String (List String × String) :=
  if gateway.listeners.isEmpty then .ok ([], reasonNoMatchingParent)
  else
    match findMatchingListenersLoop c gateway.ns route gateway.listeners [] "" with
    | .error e => .error e
    | .ok (matched, lastRejectionReason) =>
      if matched.isEmpty then
        if route.sectionName.isSome then .ok ([], reasonNoMatchingParent)
        else if lastRejectionReason == "" then .ok ([], reasonNoMatchingParent)
        else .ok ([], lastRejectionReason)
      else .ok (matched, "")

/-- `ValidateBinding`. -/
def validateBinding (c : Cluster) (gateway : Gateway) (route : RouteInfo) :
    Except String BindingResult :=
  match findMatchingListeners c gateway route with
  | .error e => .error e
  | .ok (matched, rejectionReason) =>
    if matched.isEmpty then
      .ok ⟨false, rejectionReason, getReasonMessage rejectionReason, []⟩
    else .ok ⟨true, reasonAccepted, "Route accepted", matched⟩

end PingoraGateway
