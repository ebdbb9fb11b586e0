import PingoraGateway.Builder.Duration

/-!
# The route-to-proxy builder

The proxy's wire messages (`routingv1`) and `PingoraBuilder`, which converts an
HTTPRoute or GRPCRoute into one wire route. A nil pointer dereference panics in
Go; here it is the builder's error, which aborts the whole conversion.
-/

namespace PingoraGateway

namespace Routing

/-- `routingv1.PathMatchType`. -/
inductive PathMatchType
  | unspecified
  | exact
  | pathPrefix
  | regex
  deriving DecidableEq, Repr

/-- `routingv1.HeaderMatchType`. -/
inductive HeaderMatchType
  | unspecified
  | exact
  | regex
  deriving DecidableEq, Repr

/-- `routingv1.QueryParamMatchType`. -/
inductive QueryParamMatchType
  | unspecified
  | exact
  | regex
  deriving DecidableEq, Repr

/-- `routingv1.GRPCMethodMatchType`. -/
inductive GRPCMethodMatchType
  | unspecified
  | exact
  | regex
  deriving DecidableEq, Repr

/-- `routingv1.BackendProtocol`, of which the builder emits only HTTP. -/
inductive BackendProtocol
  | unspecified
  | http
  deriving DecidableEq, Repr

/-- `routingv1.PathMatch`. -/
structure PathMatch where
  type : PathMatchType
  value : String
  deriving DecidableEq, Repr

/-- `routingv1.HeaderMatch`. -/
structure HeaderMatch where
  type : HeaderMatchType
  name : String
  value : String
  deriving DecidableEq, Repr

/-- `routingv1.QueryParamMatch`. -/
structure QueryParamMatch where
  type : QueryParamMatchType
  name : String
  value : String
  deriving DecidableEq, Repr

/-- `routingv1.HTTPRouteMatch`; an unset method is the empty string. -/
structure HTTPRouteMatch where
  path : Option PathMatch
  method : String
  headers : List HeaderMatch
  queryParams : List QueryParamMatch
  deriving DecidableEq, Repr

/-- `routingv1.Backend`. -/
structure Backend where
  address : String
  weight : Nat
  protocol : BackendProtocol
  deriving DecidableEq, Repr

/-- `routingv1.HTTPRouteRule`; an unset timeout is zero. -/
structure HTTPRouteRule where
  ruleMatches : List HTTPRouteMatch
  backends : List Backend
  timeoutMs : Nat
  deriving DecidableEq, Repr

/-- `routingv1.HTTPRoute`. -/
structure HTTPRoute where
  id : String
  hostnames : List String
  rules : List HTTPRouteRule
  deriving DecidableEq, Repr

/-- `routingv1.GRPCMethodMatch`. -/
structure GRPCMethodMatch where
  type : GRPCMethodMatchType
  service : String
  method : String
  deriving DecidableEq, Repr

/-- `routingv1.GRPCRouteMatch`. -/
structure GRPCRouteMatch where
  method : Option GRPCMethodMatch
  headers : List HeaderMatch
  deriving DecidableEq, Repr

/-- `routingv1.GRPCRouteRule`. -/
structure GRPCRouteRule where
  ruleMatches : List GRPCRouteMatch
  backends : List Backend
  deriving DecidableEq, Repr

/-- `routingv1.GRPCRoute`. -/
structure GRPCRoute where
  id : String
  hostnames : List String
  rules : List GRPCRouteRule
  deriving DecidableEq, Repr

/-- `routingv1.UpdateRoutesRequest`: the full table and its version. -/
structure UpdateRoutesRequest where
  httpRoutes : List HTTPRoute
  grpcRoutes : List GRPCRoute
  version : Nat
  deriving DecidableEq, Repr

end Routing

/-- The Go runtime's message for a nil pointer dereference. -/
def nilDereference : String := "runtime error: invalid memory address or nil pointer dereference"

/-- `PingoraBuilder`. -/
structure PingoraBuilder where
  clusterDomain : String
  deriving DecidableEq, Repr

/-- The wire id of a route, `"<namespace>/<name>"`. -/
def routeId {Rule : Type} (route : Route Rule) : String := route.ns ++ "/" ++ route.name

/-- The path match type of `buildHTTPRouteMatch`'s switch, which has no default. -/
def pathMatchType (t : String) : Routing.PathMatchType :=
  if t == "Exact" then .exact
  else if t == "PathPrefix" then .pathPrefix
  else if t == "RegularExpression" then .regex
  else .unspecified

/-- The header match type of `buildHeaderMatch` and `buildGRPCHeaderMatch`: EXACT
when absent, UNSPECIFIED for a value the switch does not name. -/
def headerMatchType (t : Option String) : Routing.HeaderMatchType :=
  match t with
  | none => .exact
  | some t => if t == "Exact" then .exact else if t == "RegularExpression" then .regex
    else .unspecified

/-- `buildHeaderMatch`. -/
def buildHeaderMatch (m : HTTPHeaderMatch) : Routing.HeaderMatch :=
  ⟨headerMatchType m.type, m.name, m.value⟩

/-- `buildQueryParamMatch`. -/
def buildQueryParamMatch (m : HTTPQueryParamMatch) : Routing.QueryParamMatch :=
  let type : Routing.QueryParamMatchType :=
    match m.type with
    | none => .exact
    | some t => if t == "Exact" then .exact else if t == "RegularExpression" then .regex
      else .unspecified
  ⟨type, m.name, m.value⟩

/-- `buildHTTPRouteMatch`; a path match dereferences its value and its type. -/
def buildHTTPRouteMatch (m : HTTPRouteMatch) : Except String Routing.HTTPRouteMatch := do
  let path ← match m.path with
    | none => pure none
    | some p =>
      match p.value, p.type with
      | some value, some type => pure (some ⟨pathMatchType type, value⟩)
      | _, _ => throw nilDereference
  pure ⟨path, m.method.getD "", m.headers.map buildHeaderMatch,
    m.queryParams.map buildQueryParamMatch⟩

/-- `buildBackend`: no backend for a kind other than Service; the port is
dereferenced, and a positive weight replaces the default 1. -/
def PingoraBuilder.buildBackend (b : PingoraBuilder) (ns : String) (ref : BackendRef) :
    Except String (Option Routing.Backend) :=
  if ref.kind.isSome && ref.kind != some "Service" then pure none
  else
    let backendNamespace := ref.ns.getD ns
    match ref.port with
    | none => throw nilDereference
    | some port =>
      let weight :=
        match ref.weight with
        | some w => if w > 0 then w.toNat else 1
        | none => 1
      pure (some ⟨ref.name ++ "." ++ backendNamespace ++ ".svc." ++ b.clusterDomain ++ ":" ++
        toString port, weight, .http⟩)

/-- The backends of a rule: each ref converted, the skipped ones dropped. -/
def PingoraBuilder.buildBackends (b : PingoraBuilder) (ns : String) (refs : List BackendRef) :
    Except String (List Routing.Backend) := do
  let backends ← refs.mapM (b.buildBackend ns)
  pure (backends.filterMap id)

/-- The timeout of `buildHTTPRouteRule`: the parsed request timeout in whole
milliseconds when positive, else unset. -/
def requestTimeoutMs (timeouts : Option HTTPRouteTimeouts) : Nat :=
  match timeouts.bind (·.request) with
  | none => 0
  | some request =>
    match parseGatewayDuration request with
    | .error _ => 0
    | .ok timeout =>
      let ms := milliseconds timeout
      if ms > 0 then ms.toNat else 0

/-- `buildHTTPRouteRule`: a rule without matches gets one PREFIX `/` match. -/
def PingoraBuilder.buildHTTPRouteRule (b : PingoraBuilder) (ns : String) (rule : HTTPRouteRule) :
    Except String Routing.HTTPRouteRule := do
  let ruleMatches ←
    if rule.ruleMatches.isEmpty then pure [⟨some ⟨.pathPrefix, "/"⟩, "", [], []⟩]
    else rule.ruleMatches.mapM buildHTTPRouteMatch
  let backends ← b.buildBackends ns rule.backendRefs
  pure ⟨ruleMatches, backends, requestTimeoutMs rule.timeouts⟩

/-- `BuildHTTPRoute`. -/
def PingoraBuilder.buildHTTPRoute (b : PingoraBuilder) (route : HTTPRoute) :
    Except String Routing.HTTPRoute := do
  let rules ← route.rules.mapM (b.buildHTTPRouteRule route.ns)
  pure ⟨routeId route, route.hostnames, rules⟩

/-- `buildGRPCHeaderMatch`. -/
def buildGRPCHeaderMatch (m : GRPCHeaderMatch) : Routing.HeaderMatch :=
  ⟨headerMatchType m.type, m.name, m.value⟩

/-- `buildGRPCRouteMatch`: unset service and method are empty, an unset type is
EXACT. -/
def buildGRPCRouteMatch (m : GRPCRouteMatch) : Routing.GRPCRouteMatch :=
  let method := m.method.map fun mm =>
    let type : Routing.GRPCMethodMatchType :=
      match mm.type with
      | none => .exact
      | some t => if t == "Exact" then .exact else if t == "RegularExpression" then .regex
        else .unspecified
    ⟨type, mm.service.getD "", mm.method.getD ""⟩
  ⟨method, m.headers.map buildGRPCHeaderMatch⟩

/-- `buildGRPCRouteRule`. -/
def PingoraBuilder.buildGRPCRouteRule (b : PingoraBuilder) (ns : String) (rule : GRPCRouteRule) :
    Except String Routing.GRPCRouteRule := do
  let backends ← b.buildBackends ns rule.backendRefs
  pure ⟨rule.ruleMatches.map buildGRPCRouteMatch, backends⟩

/-- `BuildGRPCRoute`. -/
def PingoraBuilder.buildGRPCRoute (b : PingoraBuilder) (route : GRPCRoute) :
    Except String Routing.GRPCRoute := do
  let rules ← route.rules.mapM (b.buildGRPCRouteRule route.ns)
  pure ⟨routeId route, route.hostnames, rules⟩

end PingoraGateway
