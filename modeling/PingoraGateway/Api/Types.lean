import PingoraGateway.Api.Store

/-!
# Gateway API, PingoraConfig and cluster objects

The objects the controller reads from the API server, with the fields that the
binding evaluator, the builder, the syncer, the mappers and the status writers
read. Optional pointers are `Option`, Go strings and string-typed enums that the
code compares against constants stay `String`, and `int32` values are `Int`.
-/

namespace PingoraGateway

/-- `gatewayv1.ParentReference`; the port is read by no modelled function. -/
structure ParentReference where
  group : Option String
  kind : Option String
  ns : Option String
  name : String
  sectionName : Option String
  deriving DecidableEq, Repr

/-- `metav1.LabelSelectorRequirement`. -/
structure LabelSelectorRequirement where
  key : String
  operator : String
  values : List String
  deriving DecidableEq, Repr

/-- `metav1.LabelSelector`; a Go map of labels is an association list. -/
structure LabelSelector where
  matchLabels : List (String × String)
  matchExpressions : List LabelSelectorRequirement
  deriving DecidableEq, Repr

/-- `gatewayv1.FromNamespaces`, whose values the CRD schema restricts to four. -/
inductive FromNamespaces
  | All
  | Selector
  | Same
  | None
  deriving DecidableEq, Repr

/-- `gatewayv1.RouteNamespaces`; `namespacesFrom` is the `From` field. -/
structure RouteNamespaces where
  namespacesFrom : Option FromNamespaces
  selector : Option LabelSelector
  deriving DecidableEq, Repr

/-- `gatewayv1.RouteGroupKind`. -/
structure RouteGroupKind where
  group : Option String
  kind : String
  deriving DecidableEq, Repr

/-- `gatewayv1.AllowedRoutes`. -/
structure AllowedRoutes where
  namespaces : Option RouteNamespaces
  kinds : List RouteGroupKind
  deriving DecidableEq, Repr

/-- `gatewayv1.Listener`; port and TLS settings are read by no modelled function. -/
structure Listener where
  name : String
  hostname : Option String
  protocol : String
  allowedRoutes : Option AllowedRoutes
  deriving DecidableEq, Repr

/-- `metav1.ConditionStatus`. -/
inductive ConditionStatus
  | conditionTrue
  | conditionFalse
  | conditionUnknown
  deriving DecidableEq, Repr

/-- `metav1.Condition`; times are instants of an abstract clock. -/
structure Condition where
  type : String
  status : ConditionStatus
  observedGeneration : Nat
  lastTransitionTime : Nat
  reason : String
  message : String
  deriving DecidableEq, Repr

/-- `gatewayv1.ListenerStatus`. -/
structure ListenerStatus where
  name : String
  supportedKinds : List RouteGroupKind
  attachedRoutes : Int
  conditions : List Condition
  deriving DecidableEq, Repr

/-- `gatewayv1.GatewayStatusAddress`. -/
structure GatewayStatusAddress where
  type : Option String
  value : String
  deriving DecidableEq, Repr

/-- `gatewayv1.GatewayStatus`. -/
structure GatewayStatus where
  addresses : List GatewayStatusAddress
  conditions : List Condition
  listeners : List ListenerStatus
  deriving DecidableEq, Repr

/-- `gatewayv1.Gateway`; `deleting` is a set deletion timestamp. -/
structure Gateway where
  name : String
  ns : String
  generation : Nat
  deleting : Bool
  gatewayClassName : String
  listeners : List Listener
  status : GatewayStatus
  deriving DecidableEq, Repr

/-- `gatewayv1.BackendRef`, through its `BackendObjectReference`. -/
structure BackendRef where
  group : Option String
  kind : Option String
  name : String
  ns : Option String
  port : Option Nat
  weight : Option Int
  deriving DecidableEq, Repr

/-- `gatewayv1.HTTPPathMatch`. -/
structure HTTPPathMatch where
  type : Option String
  value : Option String
  deriving DecidableEq, Repr

/-- `gatewayv1.HTTPHeaderMatch`. -/
structure HTTPHeaderMatch where
  type : Option String
  name : String
  value : String
  deriving DecidableEq, Repr

/-- `gatewayv1.HTTPQueryParamMatch`. -/
structure HTTPQueryParamMatch where
  type : Option String
  name : String
  value : String
  deriving DecidableEq, Repr

/-- `gatewayv1.HTTPRouteMatch`. -/
structure HTTPRouteMatch where
  path : Option HTTPPathMatch
  headers : List HTTPHeaderMatch
  queryParams : List HTTPQueryParamMatch
  method : Option String
  deriving DecidableEq, Repr

/-- `gatewayv1.HTTPRouteTimeouts`; only the request timeout is read. -/
structure HTTPRouteTimeouts where
  request : Option String
  deriving DecidableEq, Repr

/-- `gatewayv1.HTTPRouteRule`; `ruleMatches` is `Matches`, and filters are read by
no modelled function. -/
structure HTTPRouteRule where
  ruleMatches : List HTTPRouteMatch
  backendRefs : List BackendRef
  timeouts : Option HTTPRouteTimeouts
  deriving DecidableEq, Repr

/-- `gatewayv1.GRPCMethodMatch`. -/
structure GRPCMethodMatch where
  type : Option String
  service : Option String
  method : Option String
  deriving DecidableEq, Repr

/-- `gatewayv1.GRPCHeaderMatch`. -/
structure GRPCHeaderMatch where
  type : Option String
  name : String
  value : String
  deriving DecidableEq, Repr

/-- `gatewayv1.GRPCRouteMatch`. -/
structure GRPCRouteMatch where
  method : Option GRPCMethodMatch
  headers : List GRPCHeaderMatch
  deriving DecidableEq, Repr

/-- `gatewayv1.GRPCRouteRule`; `ruleMatches` is `Matches`. -/
structure GRPCRouteRule where
  ruleMatches : List GRPCRouteMatch
  backendRefs : List BackendRef
  deriving DecidableEq, Repr

/-- `gatewayv1.RouteParentStatus`. -/
structure RouteParentStatus where
  parentRef : ParentReference
  controllerName : String
  conditions : List Condition
  deriving DecidableEq, Repr

/-- The fields HTTPRoute and GRPCRoute share (the `Route` interface of the
mappers), over the kind's rule type; `parents` is `status.parents`. -/
structure Route (Rule : Type) where
  name : String
  ns : String
  generation : Nat
  parentRefs : List ParentReference
  hostnames : List String
  rules : List Rule
  parents : List RouteParentStatus
  deriving DecidableEq, Repr

/-- `gatewayv1.HTTPRoute`. -/
abbrev HTTPRoute := Route HTTPRouteRule

/-- `gatewayv1.GRPCRoute`. -/
abbrev GRPCRoute := Route GRPCRouteRule

/-- `gatewayv1.ParametersReference`. -/
structure ParametersReference where
  group : String
  kind : String
  name : String
  deriving DecidableEq, Repr

/-- `gatewayv1.GatewayClass`. -/
structure GatewayClass where
  name : String
  parametersRef : Option ParametersReference
  deriving DecidableEq, Repr

/-- `v1alpha1.SecretReference`; an empty namespace means unset. -/
structure SecretReference where
  name : String
  ns : String
  deriving DecidableEq, Repr

/-- `v1alpha1.TLSConfig`. -/
structure TLSConfig where
  enabled : Bool
  secretRef : Option SecretReference
  insecureSkipVerify : Bool
  serverName : String
  deriving DecidableEq, Repr

/-- `v1alpha1.ConnectionConfig`. -/
structure ConnectionConfig where
  connectTimeoutSeconds : Option Int
  requestTimeoutSeconds : Option Int
  keepaliveTimeSeconds : Option Int
  maxRetries : Option Int
  retryBackoffMs : Option Int
  deriving DecidableEq, Repr

/-- `v1alpha1.PingoraConfigSpec`. -/
structure PingoraConfigSpec where
  address : String
  tls : Option TLSConfig
  connection : Option ConnectionConfig
  deriving DecidableEq, Repr

/-- `v1alpha1.PingoraConfig` (cluster-scoped). -/
structure PingoraConfig where
  name : String
  generation : Nat
  spec : PingoraConfigSpec
  deriving DecidableEq, Repr

/-- `corev1.Secret`; byte values are strings. -/
structure Secret where
  name : String
  ns : String
  data : List (String × String)
  deriving DecidableEq, Repr

/-- `corev1.Namespace`, of which only the labels are read. -/
structure Namespace where
  name : String
  labels : List (String × String)
  deriving DecidableEq, Repr

/-- The key of a Gateway. -/
def Gateway.key (g : Gateway) : ObjectKey := ⟨g.ns, g.name⟩

/-- The key of a route. -/
def Route.key {Rule : Type} (r : Route Rule) : ObjectKey := ⟨r.ns, r.name⟩

/-- The key of a cluster-scoped GatewayClass. -/
def GatewayClass.key (g : GatewayClass) : ObjectKey := ⟨"", g.name⟩

/-- The key of a cluster-scoped PingoraConfig. -/
def PingoraConfig.key (p : PingoraConfig) : ObjectKey := ⟨"", p.name⟩

/-- The key of a Secret. -/
def Secret.key (s : Secret) : ObjectKey := ⟨s.ns, s.name⟩

/-- The key of a Namespace. -/
def Namespace.key (n : Namespace) : ObjectKey := ⟨"", n.name⟩

/-- The API server's objects as the controller's cache serves them: `Get` is a
lookup by key and `List` returns a store's objects in order. -/
structure Cluster where
  gatewayClasses : Store GatewayClass GatewayClass.key
  gateways : Store Gateway Gateway.key
  httpRoutes : Store HTTPRoute Route.key
  grpcRoutes : Store GRPCRoute Route.key
  pingoraConfigs : Store PingoraConfig PingoraConfig.key
  secrets : Store Secret Secret.key
  namespaces : Store Namespace Namespace.key
  deriving DecidableEq

namespace Cluster

/-- `Get` of a Gateway by name and namespace. -/
def getGateway (c : Cluster) (name ns : String) : Option Gateway :=
  c.gateways.get ⟨ns, name⟩

/-- `Get` of a Namespace by name. -/
def getNamespace (c : Cluster) (name : String) : Option Namespace :=
  c.namespaces.get ⟨"", name⟩

/-- `Get` of a GatewayClass by name. -/
def getGatewayClass (c : Cluster) (name : String) : Option GatewayClass :=
  c.gatewayClasses.get ⟨"", name⟩

/-- `Get` of a PingoraConfig by name. -/
def getPingoraConfig (c : Cluster) (name : String) : Option PingoraConfig :=
  c.pingoraConfigs.get ⟨"", name⟩

/-- `Get` of a Secret by name and namespace. -/
def getSecret (c : Cluster) (name ns : String) : Option Secret :=
  c.secrets.get ⟨ns, name⟩

end Cluster

end PingoraGateway
