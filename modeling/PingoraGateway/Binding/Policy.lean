import PingoraGateway.Binding.Labels

/-!
# Listener allowedRoutes: kinds and namespaces

`IsRouteKindAllowed` with its protocol defaults, and `IsNamespaceAllowed` with
its `Selector` case, which converts the label selector and reads the route's
Namespace from the cache.
-/

namespace PingoraGateway

/-- `gatewayv1.GroupName`. -/
def groupName : String := "gateway.networking.k8s.io"

/-- `KindHTTPRoute`. -/
def kindHTTPRoute : String := "HTTPRoute"

/-- `KindGRPCRoute`. -/
def kindGRPCRoute : String := "GRPCRoute"

/-- `KindTLSRoute`. -/
def kindTLSRoute : String := "TLSRoute"

/-- `KindTCPRoute`. -/
def kindTCPRoute : String := "TCPRoute"

/-- `KindUDPRoute`. -/
def kindUDPRoute : String := "UDPRoute"

/-- `getDefaultKindsForProtocol`: HTTP-like kinds for HTTP, HTTPS and any
protocol it does not know. -/
def getDefaultKindsForProtocol (protocol : String) : List RouteGroupKind :=
  let group := some groupName
  if protocol == "HTTP" || protocol == "HTTPS" then
    [⟨group, kindHTTPRoute⟩, ⟨group, kindGRPCRoute⟩]
  else if protocol == "TLS" then [⟨group, kindTLSRoute⟩]
  else if protocol == "TCP" then [⟨group, kindTCPRoute⟩]
  else if protocol == "UDP" then [⟨group, kindUDPRoute⟩]
  else [⟨group, kindHTTPRoute⟩, ⟨group, kindGRPCRoute⟩]

/-- `getAllowedKinds`: the explicit list when it is non-empty, else the
protocol's defaults. -/
def getAllowedKinds (allowedRoutes : Option AllowedRoutes) (protocol : String) :
    List RouteGroupKind :=
  match allowedRoutes with
  | some a => if !a.kinds.isEmpty then a.kinds else getDefaultKindsForProtocol protocol
  | none => getDefaultKindsForProtocol protocol

/-- `kindMatches`: same kind, and a group that is the Gateway API group once an
absent or empty group is read as that group. -/
def kindMatches (allowed : RouteGroupKind) (routeKind : String) : Bool :=
  if allowed.kind != routeKind then false
  else
    let allowedGroup :=
      match allowed.group with
      | some g => if g != "" then g else groupName
      | none => groupName
    allowedGroup == groupName

/-- `IsRouteKindAllowed`. -/
def isRouteKindAllowed (allowedRoutes : Option AllowedRoutes) (protocol routeKind : String) :
    Bool :=
  (getAllowedKinds allowedRoutes protocol).any fun allowed => kindMatches allowed routeKind

/-- `getNamespaceFrom`: `Same` unless `allowedRoutes.namespaces.from` is set. -/
def getNamespaceFrom (allowedRoutes : Option AllowedRoutes) : FromNamespaces :=
  match allowedRoutes with
  | none => .Same
  | some a =>
    match a.namespaces with
    | none => .Same
    | some n => n.namespacesFrom.getD .Same

/-- Whether `LabelSelectorAsSelector` turns an expression into a requirement: it
knows the operator, and `labels.NewRequirement` accepts the key, the operator and
the values. -/
def requirementValid (r : LabelSelectorRequirement) : Bool :=
  match selectionOperator r.operator with
  | some op => newRequirementValid r.key op r.values
  | none => false

/-- The error `LabelSelectorAsSelector` returns for an expression it rejects. -/
def requirementError (r : LabelSelectorRequirement) : String :=
  match selectionOperator r.operator with
  | some _ => newRequirementError r.key
  | none => goQuote r.operator ++ " is not a valid label selector operator"

/-- One requirement of a converted selector against a label set. -/
def requirementMatches (labels : List (String × String)) (r : LabelSelectorRequirement) :
    Bool :=
  match labels.lookup r.key with
  | some v =>
    if r.operator == "In" then r.values.contains v
    else if r.operator == "NotIn" then !r.values.contains v
    else r.operator == "Exists"
  | none => r.operator == "NotIn" || r.operator == "DoesNotExist"

/-- `metav1.LabelSelectorAsSelector`: each label becomes an `Equals` requirement
and each expression one with its operator, and the first that
`labels.NewRequirement` or the operator switch rejects is the error; a selector
with no entry converts to one that matches everything. -/
def labelSelectorAsSelector (selector : LabelSelector) : Except String LabelSelector :=
  match selector.matchLabels.find? fun l => !newRequirementValid l.1 .Equals [l.2] with
  | some l => .error (newRequirementError l.1)
  | none =>
    match selector.matchExpressions.find? fun r => !requirementValid r with
    | some r => .error (requirementError r)
    | none => .ok selector

/-- `Selector.Matches` on a converted selector: every label and every
expression must match. -/
def selectorMatches (selector : LabelSelector) (labels : List (String × String)) : Bool :=
  selector.matchLabels.all (fun l => labels.lookup l.1 == some l.2) &&
    selector.matchExpressions.all (requirementMatches labels)

/-- `namespaceMatchesSelector`: no selector denies, an invalid one is an error,
and a Namespace missing from the cache denies. -/
def namespaceMatchesSelector (c : Cluster) (allowedRoutes : Option AllowedRoutes)
    (routeNamespace : String) : Except String Bool :=
  match allowedRoutes.bind (·.namespaces) |>.bind (·.selector) with
  | none => .ok false
  | some s =>
    match labelSelectorAsSelector s with
    | .error e => .error ("invalid label selector: " ++ e)
    | .ok selector =>
      match c.getNamespace routeNamespace with
      | none => .ok false
      | some n => .ok (selectorMatches selector n.labels)

/-- `IsNamespaceAllowed`. -/
def isNamespaceAllowed (c : Cluster) (allowedRoutes : Option AllowedRoutes)
    (gatewayNamespace routeNamespace : String) : Except String Bool :=
  match getNamespaceFrom allowedRoutes with
  | .Same => .ok (gatewayNamespace == routeNamespace)
  | .All => .ok true
  | .Selector => namespaceMatchesSelector c allowedRoutes routeNamespace
  | .None => .ok false

end PingoraGateway
